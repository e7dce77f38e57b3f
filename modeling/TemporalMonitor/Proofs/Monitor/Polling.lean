import TemporalMonitor.Proofs.Monitor.Dating
import TemporalMonitor.Proofs.Monitor.Lapse
import TemporalMonitor.Proofs.Monitor.Soundness

/-!
It does not matter how often a monitor is told that time has passed.

Deadlines lead to states without deadlines, records that have been forgotten would be forgotten later
as well, and what a deadline leaves behind does not depend on when it was noticed, apart from the time
of the change itself. So time that passes in small steps does the same as time that passes at once,
and a message lets time pass before it is looked at. All of this needs that a time which is over stays
over, which it does unless a leap second comes in between.
-/

namespace TemporalMonitor

/-- What is remembered, apart from when the state changed and which time was seen last. -/
def Instance.timeless (inst : Instance) : Instance :=
  { inst with lastTransition? := none, latestSeen? := none }

theorem Instance.state_of_timeless {first second : Instance}
    (same : first.timeless = second.timeless) : first.state = second.state := by
  have state := congrArg Instance.state same
  exact state

namespace Step

variable {α β : Type}

/-- What a step comes to, apart from its effects and the times that are remembered. -/
def gist (step : Step α) : Except Failure α × Instance :=
  (step.result, step.inst.timeless)

/-- Steps that come to the same can be continued in the same way. -/
theorem gist_andThen {first second : Step α} (same : first.gist = second.gist)
    {next : α → Instance → Step β}
    (respects : ∀ value inst, (next value inst.timeless).gist = (next value inst).gist) :
    (first.andThen next).gist = (second.andThen next).gist := by
  have result : first.result = second.result := congrArg Prod.fst same
  have remembered : first.inst.timeless = second.inst.timeless := congrArg Prod.snd same
  unfold andThen
  rw [result]
  cases second.result with
  | error failure => exact congrArg (Prod.mk (Except.error failure)) remembered
  | ok value =>
      calc (next value first.inst).gist
        _ = (next value first.inst.timeless).gist := (respects value first.inst).symm
        _ = (next value second.inst).gist := by rw [remembered, respects]

end Step

namespace Instance

variable (inst : Instance)

theorem select_timeless (message : Message) (rules : List Rule) :
    inst.timeless.select message rules = inst.select message rules := by
  induction rules with
  | nil => rfl
  | cons rule rest ih =>
      have guard : inst.timeless.guardHolds message rule = inst.guardHolds message rule := rfl
      rw [select, select, guard, ih]

theorem discharge_timeless (rule : Rule) (message : Message) :
    (inst.timeless.discharge rule message).gist = (inst.discharge rule message).gist := by
  have consumed : inst.timeless.pool.consume (inst.timeless.testPooled rule message) =
      inst.pool.consume (inst.testPooled rule message) := rfl
  unfold discharge
  rw [consumed]
  cases rule.reaction.guard with
  | consumePooled => cases inst.pool.consume (inst.testPooled rule message) <;> rfl
  | message => rfl
  | undecided => rfl
  | anyPooled => rfl

theorem store_timeless (action : PoolAction) (record : Record) :
    (inst.timeless.store action record).gist = (inst.store action record).gist := by
  have pushed : inst.timeless.pool.push record = inst.pool.push record := rfl
  have replaced : inst.timeless.pool.replace record = inst.pool.replace record := rfl
  unfold store
  cases action with
  | keep => rfl
  | clear => rfl
  | push =>
      rw [pushed]
      cases inst.pool.push record <;> rfl
  | replace =>
      rw [replaced]
      obtain ⟨stored, pool⟩ := inst.pool.replace record
      rcases stored with crash | stored
      · rfl
      · cases stored <;> rfl

theorem settle_timeless (rule : Rule) (topic : String) (time : Timestamp) (added : List Record) :
    (inst.timeless.settle rule topic time added).gist =
      (inst.settle rule topic time added).gist := by
  simp only [settle, Step.gist, Step.done, transition_inst]
  cases rule.reaction.witness <;> cases rule.reaction.scope <;> rfl

/-- What a rule does depends on the times remembered only by passing them on. -/
theorem apply_timeless (rule : Rule) (topic : String) (message : Message) (time : Timestamp) :
    (inst.timeless.apply rule topic message time).gist =
      (inst.apply rule topic message time).gist := by
  have additions (record : Record) : inst.timeless.additions rule.reaction.witness record =
      inst.additions rule.reaction.witness record := rfl
  simp only [apply, additions]
  split
  · rfl
  · refine Step.gist_andThen (inst.discharge_timeless rule message) fun _ inst => ?_
    refine Step.gist_andThen (inst.store_timeless _ _) fun _ inst => ?_
    exact inst.settle_timeless rule topic time _

end Instance

/-- So a message is treated alike, whatever times are remembered. -/
theorem Machine.offer_timeless (machine : Machine) (inst : Instance) (topic : String)
    (message : Message) (time : Timestamp) :
    (machine.offer inst.timeless topic message time).gist =
      (machine.offer inst topic message time).gist := by
  have selected : inst.timeless.select message (machine.rulesAt topic inst.timeless.state) =
      inst.select message (machine.rulesAt topic inst.state) := inst.select_timeless message _
  unfold offer
  rw [selected]
  change Step.gist (if inst.state.isTerminal = true then _ else _) = _
  split
  · rfl
  · split
    · rfl
    · rfl
    · exact Step.gist_andThen (inst.apply_timeless _ topic message time) fun _ _ => rfl

/-- Records that are forgotten early would have been forgotten later. -/
theorem Pool.evict_evict {pool : Pool} {age : Duration} {now later : Timestamp}
    (expires : ∀ entry ∈ pool.entries, isExpired now age entry = true →
      isExpired later age entry = true) :
    (pool.evict now age).evict later age = pool.evict later age := by
  have dropped {entries : List Entry} (expires : ∀ entry ∈ entries,
      isExpired now age entry = true → isExpired later age entry = true) :
      (entries.dropWhile (isExpired now age)).dropWhile (isExpired later age) =
        entries.dropWhile (isExpired later age) := by
    induction entries with
    | nil => rfl
    | cons first rest ih =>
        cases expired : isExpired now age first with
        | false => rw [List.dropWhile_cons_of_neg (by rw [expired]; decide)]
        | true =>
            rw [List.dropWhile_cons_of_pos expired,
              ih fun entry member => expires entry (List.mem_cons_of_mem _ member),
              List.dropWhile_cons_of_pos (expires first List.mem_cons_self expired)]
  unfold evict
  rw [dropped expires]

namespace Property

variable {property : Property}

section Lapse

variable (inst : Instance) (now : Timestamp)

theorem lapse_timeless :
    (property.lapse inst.timeless now).timeless = (property.lapse inst now).timeless := by
  have due : property.isDue inst.timeless now = property.isDue inst now := rfl
  have overdue : (property.overdue inst.timeless now).timeless =
      (property.overdue inst now).timeless := by
    unfold Property.overdue
    split
    · split <;> rfl
    · rfl
    · rfl
  have refreshed : (property.refreshed inst.timeless now).timeless =
      (property.refreshed inst now).timeless := by
    unfold Property.refreshed
    split
    · change (if inst.state = .engaged then _ else _ : Instance).timeless = _
      split <;> rfl
    · rfl
  unfold lapse
  rw [due]
  split
  · exact overdue
  · exact refreshed

/-- What a deadline leaves behind does not depend on when it was noticed. -/
theorem overdue_congr (later : Timestamp) :
    (property.overdue inst now).timeless = (property.overdue inst later).timeless := by
  unfold overdue
  split
  · split <;> rfl
  · rfl
  · rfl

theorem lapse_overdue (later : Timestamp) :
    property.lapse (property.overdue inst now) later = property.overdue inst now := by
  refine lapse_of_calm ?_ later
  rcases overdue_state property inst now with state | state | state <;>
  · rw [state]
    decide

variable {inst now} {times : List Timestamp}
  (stays : property.pattern.bound.StaysElapsed times) (dated : inst.Dated times)
  {later : Timestamp} (here : now ∈ times) (there : later ∈ times) (order : now ≤ later)

include stays dated here there order

/-- What is due stays due. -/
theorem isDue_mono (due : property.isDue inst now = true) : property.isDue inst later = true := by
  unfold isDue at due ⊢
  obtain ⟨since, counted, elapsed⟩ := (Option.any_eq_true _ _).mp due
  have known : since ∈ times := by
    unfold dueSince? at counted
    split at counted
    · exact dated.start since counted
    · exact dated.start since counted
    · obtain ⟨oldest, first, rfl⟩ := Option.map_eq_some_iff.mp counted
      obtain ⟨entry, member, rfl⟩ := Pool.mem_records.mp (List.mem_of_head? first)
      exact dated.pool entry member
    · cases counted
  exact (Option.any_eq_true _ _).mpr
    ⟨since, counted, stays since known now here later there order elapsed⟩

/-- Time that passes in two steps does the same as time that passes at once. -/
theorem lapse_lapse :
    (property.lapse (property.lapse inst now) later).timeless =
      (property.lapse inst later).timeless := by
  cases due : property.isDue inst now with
  | true =>
      have stillDue := isDue_mono stays dated here there order due
      have first : property.lapse inst now = property.overdue inst now := by
        rw [lapse, due, if_pos rfl]
      have atOnce : property.lapse inst later = property.overdue inst later := by
        rw [lapse, stillDue, if_pos rfl]
      rw [first, atOnce, lapse_overdue, overdue_congr]
  | false =>
      have first : property.lapse inst now = property.refreshed inst now := by
        rw [lapse, due, if_neg (by decide)]
      rw [first]
      rcases refreshed_cases property inst now with
        same | ⟨behavior, trigger, span, pattern, engaged, evicted⟩
      · rw [same]
      · rw [evicted, lapse_requirement pattern, lapse_requirement pattern,
          refreshed_requirement pattern, refreshed_requirement pattern, if_pos engaged,
          if_pos engaged]
        rw [pattern] at stays
        dsimp only
        rw [Pool.evict_evict fun entry member =>
          stays _ (dated.pool entry member) now here later there order]

end Lapse

end Property

theorem Instance.observe_timeless (inst : Instance) (now : Timestamp) :
    (inst.observe now).1.timeless = inst.timeless := by
  obtain ⟨latest?, observed⟩ := Machine.observe_inst inst now
  rw [observed]
  rfl

theorem Instance.Dated.of_timeless {times : List Timestamp} {first second : Instance}
    (dated : first.Dated times) (same : first.timeless = second.timeless) : second.Dated times := by
  have start : first.episodeStart? = second.episodeStart? :=
    congrArg (fun inst => inst.episodeStart?) same
  have pool : first.pool = second.pool := congrArg (fun inst => inst.pool) same
  exact ⟨start ▸ dated.start, pool ▸ dated.pool⟩

/-- From now on, time makes the same of both at these points. -/
structure Polled (property : Property) (times : List Timestamp) (now : Timestamp)
    (polled plain : Instance) : Prop where
  off : polled.state = .off ↔ plain.state = .off
  dated : polled.Dated times
  plainDated : plain.Dated times
  lapse : ∀ later ∈ times, now ≤ later →
    (property.lapse polled later).timeless = (property.lapse plain later).timeless

namespace Polled

variable {property : Property} {times : List Timestamp} {now : Timestamp} {polled plain : Instance}

theorem of_timeless (dated : polled.Dated times) (same : polled.timeless = plain.timeless) :
    Polled property times now polled plain where
  off := by
    rw [Instance.state_of_timeless same]
  dated := dated
  plainDated := dated.of_timeless same
  lapse := fun later _ _ => by
    rw [← property.lapse_timeless polled, same, property.lapse_timeless]

variable {core : Core} (made : property.pattern.core property.scope.kind.isReentrant = .ok core)
  (alike : Polled property times now polled plain) {time : Timestamp} (here : time ∈ times)
  (order : now ≤ time)

include made

/-- When a running monitor is told the time, it comes to what time makes of it. -/
theorem onTimer_gist {inst : Instance} (running : inst.state ≠ .off) :
    ((property.assemble core).onTimer inst time).gist =
      (.ok (), (property.lapse inst time).timeless) := by
  obtain ⟨result, remembered⟩ := Property.onTimer_lapse made running time
  rw [Step.gist, result, remembered, ← property.lapse_timeless, inst.observe_timeless,
    property.lapse_timeless]

include alike here order

/-- Time may pass for one of them and not for the other. -/
theorem onTimer (stays : property.pattern.bound.StaysElapsed times) :
    Polled property times time ((property.assemble core).onTimer polled time).inst plain := by
  by_cases isOff : polled.state = .off
  · rw [Machine.onTimer_of_off isOff]
    exact ⟨alike.off, alike.dated, alike.plainDated, fun later there since =>
      alike.lapse later there (Std.le_trans order since)⟩
  · have passed : ((property.assemble core).onTimer polled time).inst.timeless =
        (property.lapse polled time).timeless := congrArg Prod.snd (onTimer_gist made isOff)
    have running : ((property.assemble core).onTimer polled time).inst.state ≠ .off := by
      rw [Instance.state_of_timeless passed]
      exact property.lapse_running isOff time
    have plainOn : plain.state ≠ .off := fun plainOff => isOff (alike.off.mpr plainOff)
    refine ⟨iff_of_false running plainOn, Machine.onTimer_dated alike.dated time,
      alike.plainDated, fun later there since => ?_⟩
    calc (property.lapse ((property.assemble core).onTimer polled time).inst later).timeless
      _ = (property.lapse (property.lapse polled time) later).timeless := by
        rw [← property.lapse_timeless, passed, property.lapse_timeless]
      _ = (property.lapse polled later).timeless :=
        property.lapse_lapse stays alike.dated here there since
      _ = (property.lapse plain later).timeless :=
        alike.lapse later there (Std.le_trans order since)

/-- A message comes to the same for both. -/
theorem onMessage (topic : String) (message : Message) :
    ((property.assemble core).onMessage polled topic message time).gist =
      ((property.assemble core).onMessage plain topic message time).gist := by
  have same := alike.lapse time here order
  by_cases isOff : polled.state = .off
  · have plainOff := alike.off.mp isOff
    rw [property.lapse_of_calm (by rw [isOff]; decide),
      property.lapse_of_calm (by rw [plainOff]; decide)] at same
    rw [Machine.onMessage_of_off isOff, Machine.onMessage_of_off plainOff]
    exact congrArg (Prod.mk (Except.ok false)) same
  · have plainOn : plain.state ≠ .off := fun plainOff => isOff (alike.off.mpr plainOff)
    rw [Machine.onMessage_of_on isOff, Machine.onMessage_of_on plainOn]
    refine Step.gist_andThen ?_ fun _ inst => Machine.offer_timeless _ inst topic message time
    rw [onTimer_gist made isOff, onTimer_gist made plainOn, same]

end Polled

/-- The call brings a message. -/
def Call.isMessage : Call → Bool
  | timer _ => false
  | message _ _ _ => true

/-- What a user sees when a message has been received: the result, and what the monitor shows, apart
from when its state changed last. -/
structure Reply where
  result : Except Failure Bool
  shown : Except Failure Snapshot

def Outcome.reply (outcome : Outcome Bool) : Reply where
  result := outcome.result
  shown := outcome.monitor.snapshot.map fun snapshot => { snapshot with lastTransition? := none }

namespace Monitor

/-- The replies to the messages among the calls. -/
def replies (monitor : Monitor) : List Call → List Reply
  | [] => []
  | .timer time :: rest => (monitor.onTimer time).monitor.replies rest
  | .message topic message time :: rest =>
      let outcome := monitor.onMessage topic message time
      outcome.reply :: outcome.monitor.replies rest

section Quiet

variable {α : Type} {machine : Machine} {callbacks : Callbacks} {inst : Instance}

/-- A crash poisons the monitor. -/
def poisons : Except Failure α → Bool
  | .error (.crash _) => true
  | _ => false

/-- With quiet callbacks, only the step of an operation can be noticed. -/
theorem run_quiet (quiet : callbacks.Quiet) (operation : String) (step : Instance → Step α) :
    let outcome := (holding machine callbacks inst).run operation step
    outcome.result = (step inst).result ∧
      outcome.monitor =
        { holding machine callbacks (step inst).inst with
          isPoisoned := poisons (step inst).result } := by
  have delivered := quiet.deliver (step inst).effects
  dsimp only
  rw [run, if_neg (by simp [holding])]
  simp only [holding, delivered, true_and]
  rfl

end Quiet

/-- A poisoned monitor refuses every message. -/
theorem replies_of_poisoned {monitor : Monitor} (poisoned : monitor.isPoisoned = true)
    (calls : List Call) :
    monitor.replies calls = (calls.filter Call.isMessage).map fun _ =>
      ⟨.error (poisonedIn "on_message"), .error (poisonedIn "snapshot")⟩ := by
  induction calls with
  | nil => rfl
  | cons call rest ih =>
      cases call with
      | timer time =>
          rw [replies, onTimer, run, if_pos poisoned]
          exact ih
      | message topic message time =>
          rw [replies, onMessage, run, if_pos poisoned, List.filter_cons_of_pos rfl, List.map_cons]
          dsimp only
          rw [ih, Outcome.reply, snapshot, look, if_pos poisoned]
          rfl

/-- A message is noticed only by the machine, unless the step crashes. -/
theorem onMessage_holding {callbacks : Callbacks} (quiet : callbacks.Quiet) (machine : Machine)
    (inst : Instance) (topic : String) (message : Message) (time : Timestamp) :
    let step := machine.onMessage inst topic message time
    let outcome := (holding machine callbacks inst).onMessage topic message time
    outcome.result = step.result ∧
      outcome.monitor =
        { holding machine callbacks step.inst with isPoisoned := poisons step.result } :=
  run_quiet quiet _ _

section Polling

variable {property : Property} {core : Core} {callbacks : Callbacks}

/-- Time that passes is noticed only by the machine. -/
theorem onTimer_holding
    (made : property.pattern.core property.scope.kind.isReentrant = .ok core)
    (quiet : callbacks.Quiet) (inst : Instance) (time : Timestamp) :
    ((holding (property.assemble core) callbacks inst).onTimer time).monitor =
      holding (property.assemble core) callbacks
        ((property.assemble core).onTimer inst time).inst := by
  refine (run_eq quiet rfl fun crash crashed => ?_).2
  rw [holding, Property.onTimer_ok made inst time] at crashed
  simp at crashed

/-- The reply to a message is what its step comes to. -/
theorem onMessage_reply {machine : Machine} (quiet : callbacks.Quiet) (inst : Instance)
    (topic : String) (message : Message) (time : Timestamp) :
    let gist := (machine.onMessage inst topic message time).gist
    ((holding machine callbacks inst).onMessage topic message time).reply =
      ⟨gist.1, if poisons gist.1 then .error (poisonedIn "snapshot") else .ok gist.2.snapshot⟩ := by
  obtain ⟨result, after⟩ := onMessage_holding quiet machine inst topic message time
  rw [Outcome.reply, result, after, snapshot, look]
  dsimp only [Step.gist]
  cases poisons (machine.onMessage inst topic message time).result <;> rfl

/-- The timer calls can be left out as long as time does not run backwards, and what is over stays
over. -/
theorem replies_polled
    (made : property.pattern.core property.scope.kind.isReentrant = .ok core)
    (quiet : callbacks.Quiet) {times : List Timestamp}
    (stays : property.pattern.bound.StaysElapsed times) {now : Timestamp} {polled plain : Instance}
    (alike : Polled property times now polled plain) {calls : List Call}
    (known : ∀ call ∈ calls, call.time ∈ times)
    (ascends : (now :: calls.map Call.time).Pairwise (· ≤ ·)) :
    (holding (property.assemble core) callbacks polled).replies calls =
      (holding (property.assemble core) callbacks plain).replies
        (calls.filter Call.isMessage) := by
  induction calls generalizing now polled plain with
  | nil => rfl
  | cons call rest ih =>
      obtain ⟨earliest, later⟩ := List.pairwise_cons.mp ascends
      obtain ⟨here, others⟩ := List.forall_mem_cons.mp known
      cases call with
      | timer time =>
          have order : now ≤ time := earliest time List.mem_cons_self
          rw [replies, onTimer_holding made quiet, List.filter_cons_of_neg (by simp [Call.isMessage])]
          exact ih (alike.onTimer made here order stays) others later
      | message topic message time =>
          have here : time ∈ times := here
          have order : now ≤ time := earliest time List.mem_cons_self
          have same := alike.onMessage made here order topic message
          have result := congrArg Prod.fst same
          have remembered := congrArg Prod.snd same
          have dated : ((property.assemble core).onMessage polled topic message time).inst.Dated
              times := Machine.onMessage_dated alike.dated here topic message
          rw [List.filter_cons_of_pos rfl, replies, replies, onMessage_reply quiet,
            onMessage_reply quiet, same]
          refine congrArg (List.cons _) ?_
          rw [(onMessage_holding quiet _ polled topic message time).2,
            (onMessage_holding quiet _ plain topic message time).2]
          dsimp only [Step.gist] at result remembered
          rw [result]
          cases poisoned : poisons
            ((property.assemble core).onMessage plain topic message time).result with
          | false => exact ih (.of_timeless dated remembered) others later
          | true => rw [replies_of_poisoned rfl, replies_of_poisoned rfl, List.filter_filter]; simp

/-- If no test crashes, every message gets a proper reply. -/
theorem replies_ok {machine : Machine} (sound : machine.Sound) (quiet : callbacks.Quiet)
    {inst : Instance} (suits : machine.Suits inst.state inst.pool) (calls : List Call) :
    ∀ reply ∈ (holding machine callbacks inst).replies calls,
      ∃ consumed shown, reply = ⟨.ok consumed, .ok shown⟩ := by
  induction calls generalizing inst with
  | nil => exact fun reply member => absurd member List.not_mem_nil
  | cons call rest ih =>
      have onward := perform_holding sound quiet suits (.call call)
      have still := sound.perform suits (.call call)
      cases call with
      | timer time =>
          have passed : ((holding machine callbacks inst).onTimer time).monitor = _ := onward
          rw [replies, passed]
          exact ih still
      | message topic message time =>
          have received : ((holding machine callbacks inst).onMessage topic message time).monitor =
            _ := onward
          obtain ⟨⟨consumed, result⟩, _⟩ := sound.onMessage suits topic message time
          have comes : (machine.onMessage inst topic message time).gist =
              (.ok consumed, (machine.onMessage inst topic message time).inst.timeless) := by
            rw [Step.gist, result]
          rw [replies, received, onMessage_reply quiet, comes]
          intro reply member
          rcases List.mem_cons.mp member with rfl | later
          · exact ⟨consumed, _, rfl⟩
          · exact ih still reply later

/-- The replies to the messages of a run do not depend on how often the monitor was polled in
between, as long as time does not run backwards, and what is over stays over. -/
theorem replies_independent_of_polling {machine : Machine}
    (compiled : property.compile = .ok machine) (quiet : callbacks.Quiet) {start : Timestamp}
    {first second : List Call}
    (sameMessages : first.filter Call.isMessage = second.filter Call.isMessage)
    (firstAscends : (start :: first.map Call.time).Pairwise (· ≤ ·))
    (secondAscends : (start :: second.map Call.time).Pairwise (· ≤ ·))
    (firstStays : property.pattern.bound.StaysElapsed (start :: first.map Call.time))
    (secondStays : property.pattern.bound.StaysElapsed (start :: second.map Call.time)) :
    let launched := ((fresh machine callbacks).launch start).monitor
    launched.replies first = launched.replies second ∧
      (property.Tests Predicate.Total → ∀ reply ∈ launched.replies first,
        ∃ consumed shown, reply = ⟨.ok consumed, .ok shown⟩) := by
  obtain ⟨_, core, made, rfl⟩ := property.compile_cases compiled
  have launched : ((fresh (property.assemble core) callbacks).launch start).monitor =
      holding (property.assemble core) callbacks ((property.assemble core).launched start) :=
    (run_eq quiet rfl fun crash => Machine.launch_safe _ _ crash start).2
  have polled {calls : List Call} (ascends : (start :: calls.map Call.time).Pairwise (· ≤ ·))
      (stays : property.pattern.bound.StaysElapsed (start :: calls.map Call.time)) :
      (holding (property.assemble core) callbacks
          ((property.assemble core).launched start)).replies calls =
        (holding (property.assemble core) callbacks
          ((property.assemble core).launched start)).replies (calls.filter Call.isMessage) :=
    replies_polled made quiet stays (.of_timeless (Machine.launched_dated List.mem_cons_self) rfl)
      (fun call member => List.mem_cons_of_mem _ (List.mem_map_of_mem member)) ascends
  dsimp only
  rw [launched]
  constructor
  · rw [polled firstAscends firstStays, sameMessages, polled secondAscends secondStays]
  · intro total
    have sound := property.compile_sound compiled total
    exact replies_ok sound quiet (sound.perform (suits_off _) (.launch start)) first

end Polling

/-- Polling in between makes no difference to a request that is answered too late. -/
theorem replies_independent_of_polling_answered :
    ∃ machine, Property.answered.compile = .ok machine ∧
      let launched := ((fresh machine {}).launch (.ofNanos 0)).monitor
      let start := Call.message "start" ⟨[]⟩ (.ofNanos 1)
      let request := Call.message "request" ⟨[("id", .int 7)]⟩ (.ofNanos 2)
      let reply := Call.message "reply" ⟨[("id", .int 7)]⟩ (.ofNanos 8000000000)
      launched.replies [start, request, reply] =
        launched.replies
          [start, .timer (.ofNanos 1), request, .timer (.ofNanos 4000000000),
            .timer (.ofNanos 6000000000), .timer (.ofNanos 7000000000), reply] := by
  have compiled : Property.answered.compile = .ok _ := rfl
  exact ⟨_, compiled, (replies_independent_of_polling compiled Callbacks.quiet_none rfl
    (by decide) (by decide) (Bound.staysElapsed_of_ordinary (by decide))
    (Bound.staysElapsed_of_ordinary (by decide))).1⟩

end Monitor

/-- Nothing may be heard of an alarm for ten and a half seconds. -/
def Property.muted : Property where
  scope := .global
  pattern := .absence { branches := [{ topic := "alarm" }] } (.within ⟨10500000000⟩)

/-- From 23:59:50 to the end of the leap second 23:59:60 that follows it are almost eleven seconds,
but to the beginning of the new year are only ten. So a monitor that was polled in the leap second
takes the time to be over, and another one hears the alarm. -/
theorem Monitor.polling_noticed_in_leapSecond :
    let start := Timestamp.ofParts 1483228790 0
    let leap := Timestamp.ofParts 1483228799 1900000000
    let alarm := Call.message "alarm" ⟨[]⟩ (.ofParts 1483228800 100000000)
    (start :: [alarm].map Call.time).Pairwise (· ≤ ·) ∧
      (start :: [.timer leap, alarm].map Call.time).Pairwise (· ≤ ·) ∧
      ∃ machine, Property.muted.compile = .ok machine ∧
        let launched := ((fresh machine {}).launch start).monitor
        (launched.replies [alarm]).map Reply.result = [.ok true] ∧
          (launched.replies [.timer leap, alarm]).map Reply.result = [.ok false] :=
  ⟨by decide, by decide, _, rfl, rfl, rfl⟩

end TemporalMonitor
