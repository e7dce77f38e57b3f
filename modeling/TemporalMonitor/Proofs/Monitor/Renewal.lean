import TemporalMonitor.Proofs.Monitor.Account
import TemporalMonitor.Proofs.Monitor.Likeness
import TemporalMonitor.Proofs.Monitor.Lifecycle

/-!
Episodes do not depend on each other.

Whenever a monitor waits for the next episode, it has forgotten all about the earlier ones. What is
left of them, the number of the next arrival and the times of launch and transitions, cannot be
seen. So the monitor answers all further calls as if it had just been launched, unless it runs out
of numbers for the records that arrive.
-/

namespace TemporalMonitor

namespace Pool

/-- What a call may do to a pool: take entries out, and then store a record. -/
inductive Moves (pool : Pool) : Pool → Prop where
  | shrinks {entries : List Entry} (part : entries.Sublist pool.entries) :
      Moves pool { pool with entries := entries }
  | grows {entries : List Entry} (part : entries.Sublist pool.entries) (record : Record) :
      Moves pool ({ pool with entries := entries }.stored record)

theorem updated_moves (pool : Pool) (action : PoolAction) (record : Record) :
    pool.Moves (pool.updated action record) := by
  cases action with
  | keep => exact .shrinks (List.Sublist.refl _)
  | push => exact .grows (List.Sublist.refl _) record
  | clear => exact .shrinks (List.nil_sublist _)
  | replace =>
      unfold updated
      dsimp only
      split
      · exact .shrinks (List.Sublist.refl _)
      · exact .grows (List.nil_sublist _) record

namespace Moves

variable {pool next : Pool}

/-- Some entries may have been taken out before. -/
theorem of_part {entries : List Entry} (part : entries.Sublist pool.entries)
    (moves : { pool with entries := entries }.Moves next) : pool.Moves next := by
  cases moves with
  | shrinks smaller => exact .shrinks (smaller.trans part)
  | grows smaller record => exact .grows (smaller.trans part) record

/-- A record that is stored takes up a number. -/
theorem numbers_le (moves : pool.Moves next) :
    next.nextArrival.toNat ≤
      pool.nextArrival.toNat + if next.nextArrival = pool.nextArrival then 0 else 1 := by
  split
  · next same =>
      rw [same]
      exact Nat.le_refl _
  · next other =>
      cases moves with
      | shrinks => exact absurd rfl other
      | grows part record =>
          change (pool.nextArrival + 1).toNat ≤ _
          rw [UInt64.toNat_add]
          exact Nat.mod_le _ _

end Moves

/-- The pool has the capacity, is in order, and has given out at most `count` numbers. -/
structure Stocked (capacity : Capacity) (count : Nat) (pool : Pool) : Prop where
  capacity_eq : pool.capacity = capacity
  ordered : pool.Ordered
  numbers : pool.nextArrival.toNat ≤ count

namespace Stocked

variable {capacity : Capacity} {count : Nat} {pool next : Pool}

theorem empty (capacity : Capacity) (count : Nat) : (Pool.empty capacity).Stocked capacity count :=
  ⟨rfl, .of_vacant rfl, Nat.zero_le count⟩

theorem mono (stocked : pool.Stocked capacity count) (more : Nat) :
    pool.Stocked capacity (count + more) :=
  ⟨stocked.capacity_eq, stocked.ordered, Nat.le_add_right_of_le stocked.numbers⟩

/-- The pool stays in order as long as the numbers do not run out. -/
theorem moves (stocked : pool.Stocked capacity count) (moves : pool.Moves next) {more : Nat}
    (counted : more = if next.nextArrival = pool.nextArrival then 0 else 1)
    (few : count + more < UInt64.size) : next.Stocked capacity (count + more) := by
  have numbers : next.nextArrival.toNat ≤ count + more := by
    rw [counted]
    exact Nat.le_trans moves.numbers_le (Nat.add_le_add_right stocked.numbers _)
  cases moves with
  | shrinks part => exact ⟨stocked.capacity_eq, stocked.ordered.sublist part, numbers⟩
  | grows part record =>
      have taken : pool.nextArrival + 1 ≠ pool.nextArrival := by simp
      have one : more = 1 := counted.trans (if_neg taken)
      have room : pool.nextArrival.toNat + 1 < UInt64.size := by
        have := stocked.numbers
        omega
      exact ⟨stocked.capacity_eq, (stocked.ordered.sublist part).stored record room, numbers⟩

end Stocked

end Pool

theorem Instance.poolAfter_moves (inst : Instance) (reaction : Reaction) (record : Record)
    (discharged : Record → Bool) : inst.pool.Moves (inst.poolAfter reaction record discharged) := by
  have left : ∃ entries, entries.Sublist inst.pool.entries ∧
      inst.poolLeft reaction.guard discharged = { inst.pool with entries := entries } := by
    unfold poolLeft
    split
    · exact ⟨_, List.filter_sublist, rfl⟩
    · exact ⟨_, List.Sublist.refl _, rfl⟩
  obtain ⟨entries, part, left⟩ := left
  rw [poolAfter, left]
  exact .of_part part (Pool.updated_moves _ _ _)

/-- A call that does not crash stores one record at most. -/
theorem Property.next_moves {property : Property} {core : Core}
    (made : property.pattern.core property.scope.kind.isReentrant = .ok core) {inst : Instance}
    (running : inst.state ≠ .off) {call : Call}
    (survives : (property.assemble core).Survives inst call) :
    inst.pool.Moves ((property.assemble core).next inst call).pool := by
  obtain ⟨latest?, takes⟩ := next_takes made running survives
  generalize (property.assemble core).next inst call = next at takes
  obtain ⟨entries, part, lapsed⟩ :=
    (property.assemble core).checkDeadline_pool { inst with latestSeen? := latest? } call.time
  rw [(checkDeadline_eq made _ _).2] at lapsed
  refine .of_part part ?_
  rw [← lapsed]
  cases takes with
  | nothing => exact .shrinks (List.Sublist.refl _)
  | duty => exact Instance.poolAfter_moves _ _ _ _

namespace Monitor

/-- How many records an operation stores. -/
def pushed (monitor : Monitor) : Operation → Nat
  | .call call =>
      if (monitor.perform (.call call)).inst.pool.nextArrival = monitor.inst.pool.nextArrival then 0
      else 1
  | .launch _ | .shutdown _ | .reset => 0

/-- How many records are stored during some operations. -/
def pushes (monitor : Monitor) : List Operation → Nat
  | [] => 0
  | operation :: rest => monitor.pushed operation + (monitor.perform operation).pushes rest

theorem pushes_append (monitor : Monitor) (operations more : List Operation) :
    monitor.pushes (operations ++ more) =
      monitor.pushes operations + (monitor.after operations).pushes more := by
  induction operations generalizing monitor with
  | nil => exact (Nat.zero_add _).symm
  | cons operation rest ih =>
      rw [List.cons_append, pushes, pushes, ih, Nat.add_assoc]
      rfl

/-- The pool is stocked as long as the monitor is usable. -/
def Stocked (count : Nat) (monitor : Monitor) : Prop :=
  monitor.isPoisoned = false → monitor.inst.pool.Stocked monitor.machine.capacity count

section Compiled

variable {property : Property} {core : Core} {monitor : Monitor}
  (made : property.pattern.core property.scope.kind.isReentrant = .ok core)

include made

theorem Stocked.perform {count : Nat} (stocked : monitor.Stocked count)
    (kept : monitor.Kept (property.assemble core)) (operation : Operation)
    (few : count + monitor.pushed operation < UInt64.size) :
    (monitor.perform operation).Stocked (count + monitor.pushed operation) := by
  intro usable
  obtain ⟨before, survives, performed⟩ := perform_usable usable
  have unchanged := (stocked before).mono (monitor.pushed operation)
  rw [performed]
  dsimp only
  by_cases misplaced : operation.Misplaced monitor.inst.state
  · obtain ⟨error, refused⟩ := monitor.machine.execute_of_misplaced misplaced
    rw [← Machine.execute_inst, refused]
    exact unchanged
  · cases operation with
    | launch time =>
        rw [Machine.perform, Machine.launch_of_off _ (not_not.mp misplaced)]
        exact .empty _ _
    | reset =>
        rw [Machine.perform, Machine.reset_of_off _ (not_not.mp misplaced)]
        exact .empty _ _
    | shutdown time =>
        rw [Machine.perform, Machine.shutdown_of_on misplaced]
        exact unchanged
    | call call =>
        by_cases isOff : monitor.inst.state = .off
        · rw [Machine.perform, Machine.next_of_off isOff]
          exact unchanged
        · have lasts := survives call rfl
          have counted : monitor.pushed (.call call) =
              if (monitor.machine.next monitor.inst call).pool.nextArrival =
                monitor.inst.pool.nextArrival then 0 else 1 := by
            rw [pushed, performed]
            rfl
          rw [kept.machine_eq] at lasts
          have moves := Property.next_moves made isOff lasts
          rw [← kept.machine_eq] at moves
          exact (stocked before).moves moves counted few

theorem Stocked.after {count : Nat} (stocked : monitor.Stocked count)
    (kept : monitor.Kept (property.assemble core)) {operations : List Operation}
    (few : count + monitor.pushes operations < UInt64.size) :
    (monitor.after operations).Stocked (count + monitor.pushes operations) := by
  induction operations generalizing monitor count with
  | nil => exact stocked
  | cons operation rest ih =>
      rw [pushes, ← Nat.add_assoc] at few ⊢
      exact ih (stocked.perform made kept operation (by omega)) (kept.perform made operation) few

end Compiled

/-- What a monitor shows, apart from the times of its launch, its shutdown and its transitions. -/
def shown (monitor : Monitor) : Except Failure Snapshot :=
  monitor.snapshot.map fun snapshot =>
    { snapshot with launchTime? := none, shutdownTime? := none, lastTransition? := none }

/-- What the user sees of a call: the answer, what the callbacks were told, and what is shown. -/
structure Report where
  result : Except Failure (Option Bool)
  calls : List Notice
  shown : Except Failure Snapshot

def report (monitor : Monitor) : Call → Report
  | .timer time =>
      let ended := monitor.onTimer time
      ⟨ended.result.map fun _ => none, ended.calls, ended.monitor.shown⟩
  | .message topic message time =>
      let ended := monitor.onMessage topic message time
      ⟨ended.result.map some, ended.calls, ended.monitor.shown⟩

/-- The reports of some calls. -/
def reports (monitor : Monitor) : List Call → List Report
  | [] => []
  | call :: rest => monitor.report call :: (monitor.perform (.call call)).reports rest

/-- The monitors differ in nothing that their users can see. -/
structure Alike (lead : UInt64) (first second : Monitor) : Prop where
  machine : first.machine = second.machine
  callbacks : first.callbacks = second.callbacks
  poisoned : first.isPoisoned = second.isPoisoned
  inst : first.inst.Alike lead second.inst

namespace Alike

variable {lead : UInt64} {first second : Monitor}

theorem shown_eq (alike : first.Alike lead second) : first.shown = second.shown := by
  unfold shown snapshot look
  rw [alike.poisoned]
  split
  · rfl
  · have same := alike.inst
    simp only [Except.map, Instance.snapshot, same.state, same.verdict, same.witness,
      same.pool.records, same.episode]

/-- Steps that agree are seen alike. -/
theorem run {α : Type} (alike : first.Alike lead second) (operation : String)
    (step : Instance → Step α)
    (agrees : second.isPoisoned = false → (step first.inst).Agrees lead (step second.inst)) :
    (first.run operation step).result = (second.run operation step).result ∧
      (first.run operation step).calls = (second.run operation step).calls ∧
      (first.run operation step).monitor.Alike lead (second.run operation step).monitor := by
  cases poisoned : second.isPoisoned with
  | true =>
      rw [Monitor.run, Monitor.run, if_pos poisoned, if_pos (alike.poisoned.trans poisoned)]
      exact ⟨rfl, rfl, alike⟩
  | false =>
      have same := agrees poisoned
      obtain ⟨one, oneCalls, oneAfter⟩ :=
        run_notices (alike.poisoned.trans poisoned) operation step
      obtain ⟨two, twoCalls, twoAfter⟩ := run_notices poisoned operation step
      simp only [same.notices, same.result, alike.callbacks] at one oneCalls oneAfter
      rw [one, two, oneCalls, twoCalls, oneAfter, twoAfter]
      exact ⟨rfl, rfl, alike.machine, rfl, rfl, same.inst⟩

/-- A call is seen alike, as long as the pools are in order. -/
theorem report (alike : first.Alike lead second) {count : Nat} (stocked : first.Stocked count)
    (otherStocked : second.Stocked count) (call : Call) :
    first.report call = second.report call ∧
      (first.perform (.call call)).Alike lead (second.perform (.call call)) := by
  cases call with
  | timer time =>
      obtain ⟨result, calls, after⟩ := alike.run "on_timer"
        (fun inst => second.machine.onTimer inst time) fun _ =>
          second.machine.onTimer_agrees alike.inst time
      simp only [Monitor.report, perform, onTimer, alike.machine, result, calls, after.shown_eq]
      exact ⟨trivial, after⟩
  | message topic message time =>
      obtain ⟨result, calls, after⟩ := alike.run "on_message"
        (fun inst => second.machine.onMessage inst topic message time) fun usable =>
          second.machine.onMessage_agrees alike.inst (stocked (alike.poisoned.trans usable)).ordered
            (otherStocked usable).ordered topic message time
      simp only [Monitor.report, perform, onMessage, alike.machine, result, calls, after.shown_eq]
      exact ⟨trivial, after⟩

/-- Monitors that stay alike store records in the same calls. -/
theorem pushed_eq (alike : first.Alike lead second) {call : Call}
    (after : (first.perform (.call call)).Alike lead (second.perform (.call call))) :
    first.pushed (.call call) = second.pushed (.call call) := by
  have moved := after.inst.pool.numbers
  have stood := alike.inst.pool.numbers
  have same_iff : (first.perform (.call call)).inst.pool.nextArrival = first.inst.pool.nextArrival ↔
      (second.perform (.call call)).inst.pool.nextArrival = second.inst.pool.nextArrival := by
    rw [moved, stood]
    exact UInt64.add_left_inj lead
  simp only [pushed, same_iff]

/-- All further calls are seen alike, unless the numbers run out. -/
theorem reports_eq {property : Property} {core : Core}
    (made : property.pattern.core property.scope.kind.isReentrant = .ok core)
    (alike : first.Alike lead second) (kept : first.Kept (property.assemble core))
    (otherKept : second.Kept (property.assemble core)) {count : Nat}
    (stocked : first.Stocked count) (otherStocked : second.Stocked count) {calls : List Call}
    (few : count + first.pushes (calls.map .call) < UInt64.size) :
    first.reports calls = second.reports calls := by
  induction calls generalizing first second count with
  | nil => rfl
  | cons call rest ih =>
      obtain ⟨same, after⟩ := alike.report stocked otherStocked call
      rw [List.map_cons, pushes, ← Nat.add_assoc] at few
      have room : count + first.pushed (.call call) < UInt64.size := by omega
      have later := stocked.perform made kept (.call call) room
      have otherLater := otherStocked.perform made otherKept (.call call)
        (alike.pushed_eq after ▸ room)
      rw [← alike.pushed_eq after] at otherLater
      rw [reports, reports, same, ih after (kept.perform made _) (otherKept.perform made _) later
        otherLater few]

end Alike

/-- A launch that waits for an activator tells nothing. -/
theorem launch_of_activated {machine : Machine} (activated : machine.scope.hasActivator = true)
    (callbacks : Callbacks) (start : Timestamp) :
    ((fresh machine callbacks).launch start).monitor =
      { fresh machine callbacks with inst := machine.launched start } := by
  have silent : (machine.launch (Instance.off machine) start).notices = [] := by
    have closed : machine.entersOnLaunch = false := by rw [Machine.entersOnLaunch, activated]; rfl
    simp [Machine.launch, Instance.off, State.isOff, closed, Step.notices, Step.done,
      Instance.scopeEffects, Effect.notice?]
  have usable : (fresh machine callbacks).isPoisoned = false := rfl
  have calm : ((fresh machine callbacks).machine.execute (fresh machine callbacks).inst
    (.launch start)).Calm := fun crash => machine.launch_safe _ crash start
  exact (outcome_of_quiet usable calm silent).2.2

/-- Between two episodes there is nothing to be seen of the earlier ones. -/
theorem alike_launched {property : Property} {core : Core} {monitor : Monitor}
    {chronicle : Chronicle} (account : Account property chronicle monitor.inst)
    (kept : monitor.Kept (property.assemble core)) (usable : monitor.isPoisoned = false)
    (waiting : monitor.inst.state = .inactive)
    (capacity : monitor.inst.pool.capacity = monitor.machine.capacity)
    (activated : property.scope.kind.hasActivator = true) (start : Timestamp) :
    monitor.Alike monitor.inst.pool.nextArrival
      { fresh (property.assemble core) monitor.callbacks with
        inst := (property.assemble core).launched start } := by
  obtain ⟨witness, closed, verdict, vacant⟩ := account.of_waiting waiting
  have state : ((property.assemble core).launched start).state = .inactive := if_pos activated
  have episode : ((property.assemble core).launched start).episodeStart? =
    if !property.scope.kind.hasActivator then some start else none := rfl
  rw [activated] at episode
  refine ⟨kept.machine_eq, rfl, usable, ?_⟩
  rw [kept.machine_eq] at capacity
  exact ⟨waiting.trans state.symm, verdict, witness, closed.trans episode.symm, capacity, vacant,
    (UInt64.zero_add _).symm⟩

theorem state_eq_ok {monitor : Monitor} {state : State} (shown : monitor.state = .ok state) :
    monitor.isPoisoned = false ∧ monitor.inst.state = state := by
  cases poisoned : monitor.isPoisoned with
  | true => simp [Monitor.state, look, poisoned] at shown
  | false =>
      simp only [Monitor.state, look, poisoned, Bool.false_eq_true, if_false] at shown
      exact ⟨rfl, Except.ok.inj shown⟩

/-- A monitor that waits for the next episode answers all further calls like one that has just been
launched, as long as fewer records are stored than there are numbers for them. -/
theorem episodes_independent {property : Property} {machine : Machine}
    (compiled : property.compile = .ok machine)
    (activated : property.scope.kind.hasActivator = true) (callbacks : Callbacks)
    {operations : List Operation}
    (waiting : ((fresh machine callbacks).after operations).state = .ok .inactive)
    {calls : List Call}
    (few : (fresh machine callbacks).pushes (operations ++ calls.map .call) < UInt64.size)
    (start : Timestamp) :
    ((fresh machine callbacks).after operations).reports calls =
      ((fresh machine callbacks).launch start).monitor.reports calls := by
  obtain ⟨_, core, made, rfl⟩ := property.compile_cases compiled
  rw [pushes_append] at few
  obtain ⟨usable, inactive⟩ := state_eq_ok waiting
  have kept := kept_after made callbacks operations
  have account := Account.of_reached made (reached_after usable).2
  have unused : (fresh (property.assemble core) callbacks).Stocked 0 :=
    fun _ => .empty _ _
  have stocked : ((fresh (property.assemble core) callbacks).after operations).Stocked
      (0 + (fresh (property.assemble core) callbacks).pushes operations) :=
    unused.after made (kept_after made callbacks []) (by omega)
  rw [Nat.zero_add] at stocked
  -- From here on the two monitors differ by the number of the next arrival only.
  have launched := launch_of_activated (show (property.assemble core).scope.hasActivator = true from
    activated) callbacks start
  have alike := alike_launched account kept usable inactive (stocked usable).capacity_eq activated start
  rw [callbacks_after] at alike
  refine (launched ▸ alike).reports_eq made kept (kept_after made callbacks [.launch start]) stocked
    (fun _ => ?_) few
  rw [launched]
  exact .empty _ _

/-- An answered request leaves nothing behind: the next episode is seen like that of a new monitor,
though a reply to the old request comes again. -/
theorem episodes_independent_answered :
    ∃ machine operations calls, Property.answered.compile = .ok machine ∧
      operations = [.launch (.ofNanos 0), .call (.message "start" ⟨[]⟩ (.ofNanos 1)),
        .call (.message "request" ⟨[("id", .int 7)]⟩ (.ofNanos 2)),
        .call (.message "reply" ⟨[("id", .int 7)]⟩ (.ofNanos 3)),
        .call (.message "stop" ⟨[]⟩ (.ofNanos 4))] ∧
      calls = [.message "start" ⟨[]⟩ (.ofNanos 5),
        .message "request" ⟨[("id", .int 8)]⟩ (.ofNanos 6),
        .message "reply" ⟨[("id", .int 7)]⟩ (.ofNanos 7), .message "stop" ⟨[]⟩ (.ofNanos 8)] ∧
      ((fresh machine {}).after operations).state = .ok .inactive ∧
      (fresh machine {}).pushes (operations ++ calls.map .call) = 2 ∧
      ((fresh machine {}).after operations).reports calls =
        ((fresh machine {}).launch (.ofNanos 9)).monitor.reports calls := by
  refine ⟨_, _, _, rfl, rfl, rfl, rfl, rfl, ?_⟩
  exact episodes_independent (show Property.answered.compile = _ from rfl) rfl {} rfl
    (by show 2 < UInt64.size; decide) (.ofNanos 9)

end Monitor

end TemporalMonitor
