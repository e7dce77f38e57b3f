import TemporalMonitor.Proofs.Hub.Registry
import TemporalMonitor.Proofs.Monitor.Lifecycle
import TemporalMonitor.Proofs.Monitor.Polling

/-!
Two monitors of one property, in different hubs, of which only one hears all messages.

A message on a topic without rules only lets time pass. So both monitors may be in different states for
a while, but time will make the same of them, and until then they answer alike. After a call of the
timer they show the same.
-/

namespace TemporalMonitor

theorem Hub.forwarding_quiet : Hub.forwarding.Quiet := by
  intro notice result called
  cases notice <;> exact (Option.some.inj called).symm

section Unheard

variable {machine : Machine} {topic : String} (unheard : machine.hasRuleOn topic = false)

include unheard

theorem Machine.rulesAt_unheard (state : State) : machine.rulesAt topic state = [] := by
  rw [rulesAt_eq, rulesFor, List.map_eq_nil_iff, List.filter_eq_nil_iff]
  intro placement member both
  rw [Bool.and_eq_true] at both
  exact List.any_eq_false.mp unheard placement member both.1

/-- A message on a topic without rules only lets time pass. -/
theorem Machine.onMessage_unheard {inst : Instance} {time : Timestamp}
    (passed : (machine.onTimer inst time).result = .ok ()) (message : Message) :
    (machine.onMessage inst topic message time).result = .ok false ∧
      (machine.onMessage inst topic message time).inst = (machine.onTimer inst time).inst := by
  by_cases isOff : inst.state = .off
  · rw [onMessage_of_off isOff, onTimer_of_off isOff]
    exact ⟨rfl, rfl⟩
  · obtain ⟨result, remembered⟩ := onMessage_eq isOff passed topic message
    rw [result, remembered, offer, rulesAt_unheard unheard]
    split
    · exact ⟨rfl, rfl⟩
    · exact ⟨rfl, rfl⟩

end Unheard

theorem Polled.symm {property : Property} {times : List Timestamp} {now : Timestamp}
    {first second : Instance} (alike : Polled property times now first second) :
    Polled property times now second first :=
  ⟨alike.off.symm, alike.plainDated, alike.dated, fun later there order =>
    (alike.lapse later there order).symm⟩

/-- What a user can see of two monitors is the same as long as they run. -/
structure Monitor.Agrees (first second : Monitor) : Prop where
  off : first.inst.state = .off ↔ second.inst.state = .off
  shown : first.inst.state ≠ .off →
    first.inst.state = second.inst.state ∧ first.inst.verdict = second.inst.verdict ∧
      first.inst.witness = second.inst.witness ∧ first.inst.pool = second.inst.pool

/-- Both are off, or from now on time makes the same of both at these points. -/
inductive Twins (property : Property) (times : List Timestamp) (now : Timestamp)
    (first second : Instance) : Prop where
  | off (first_off : first.state = .off) (second_off : second.state = .off)
  | polled (running : first.state ≠ .off) (alike : Polled property times now first second)

namespace Twins

variable {property : Property} {times : List Timestamp} {now : Timestamp} {first second : Instance}

theorem of_timeless (dated : first.Dated times) (same : first.timeless = second.timeless) :
    Twins property times now first second := by
  by_cases isOff : first.state = .off
  · exact .off isOff ((Instance.state_of_timeless same).symm.trans isOff)
  · exact .polled isOff (.of_timeless dated same)

theorem off_iff (twins : Twins property times now first second) :
    first.state = .off ↔ second.state = .off := by
  cases twins with
  | off first_off second_off => exact iff_of_true first_off second_off
  | polled _ alike => exact alike.off

theorem later (twins : Twins property times now first second) {time : Timestamp}
    (order : now ≤ time) : Twins property times time first second := by
  cases twins with
  | off first_off second_off => exact .off first_off second_off
  | polled running alike =>
      exact .polled running ⟨alike.off, alike.dated, alike.plainDated, fun later there since =>
        alike.lapse later there (Std.le_trans order since)⟩

variable {core : Core} (made : property.pattern.core property.scope.kind.isReentrant = .ok core)
  (twins : Twins property times now first second) (here : now ∈ times)

include made twins here

/-- A call of the timer makes the same of both. -/
theorem onTimer :
    Twins property times now ((property.assemble core).onTimer first now).inst
        ((property.assemble core).onTimer second now).inst ∧
      (((property.assemble core).onTimer first now).inst.state ≠ .off →
        ((property.assemble core).onTimer first now).inst.timeless =
          ((property.assemble core).onTimer second now).inst.timeless) := by
  cases twins with
  | off first_off second_off =>
      rw [Machine.onTimer_of_off first_off, Machine.onTimer_of_off second_off]
      exact ⟨.off first_off second_off, fun running => absurd first_off running⟩
  | polled running alike =>
      have same := alike.lapse now here (Std.le_refl _)
      have second_on : second.state ≠ .off := fun isOff => running (alike.off.mpr isOff)
      have firstGist : ((property.assemble core).onTimer first now).gist =
          (.ok (), (property.lapse first now).timeless) := Polled.onTimer_gist made running
      have secondGist : ((property.assemble core).onTimer second now).gist =
          (.ok (), (property.lapse second now).timeless) := Polled.onTimer_gist made second_on
      rw [same, ← secondGist] at firstGist
      have remembered := congrArg Prod.snd firstGist
      exact ⟨.of_timeless (Machine.onTimer_dated alike.dated now) remembered, fun _ => remembered⟩

/-- A message comes to the same for both. -/
theorem onMessage (topic : String) (message : Message) :
    ((property.assemble core).onMessage first topic message now).result =
        ((property.assemble core).onMessage second topic message now).result ∧
      Twins property times now ((property.assemble core).onMessage first topic message now).inst
        ((property.assemble core).onMessage second topic message now).inst := by
  cases twins with
  | off first_off second_off =>
      rw [Machine.onMessage_of_off first_off, Machine.onMessage_of_off second_off]
      exact ⟨rfl, .off first_off second_off⟩
  | polled running alike =>
      have same := alike.onMessage made here (Std.le_refl _) topic message
      exact ⟨congrArg Prod.fst same,
        .of_timeless (Machine.onMessage_dated alike.dated here topic message)
          (congrArg Prod.snd same)⟩

/-- Time may pass for the second one only. -/
theorem onTimer_second (stays : property.pattern.bound.StaysElapsed times) :
    Twins property times now first ((property.assemble core).onTimer second now).inst := by
  cases twins with
  | off first_off second_off =>
      rw [Machine.onTimer_of_off second_off]
      exact .off first_off second_off
  | polled running alike =>
      exact .polled running (alike.symm.onTimer made here (Std.le_refl _) stays).symm

end Twins

namespace Hub

/-- Two monitors of one property, in different hubs, that answer alike from now on. -/
inductive Paired (times : List Timestamp) (now : Timestamp) : Monitor → Monitor → Prop where
  | intro {property : Property} {core : Core} {first second : Instance}
      (made : property.pattern.core property.scope.kind.isReentrant = .ok core)
      (sound : (property.assemble core).Sound)
      (stays : property.pattern.bound.StaysElapsed times)
      (firstSuits : (property.assemble core).Suits first.state first.pool)
      (secondSuits : (property.assemble core).Suits second.state second.pool)
      (twins : Twins property times now first second) :
      Paired times now (Monitor.holding (property.assemble core) forwarding first)
        (Monitor.holding (property.assemble core) forwarding second)

section Paired

variable {times : List Timestamp} {now : Timestamp} {first second : Monitor}

theorem paired_fresh {property : Property} {machine : Machine}
    (compiled : property.compile = .ok machine) (total : property.Tests Predicate.Total)
    (stays : machine.bound.StaysElapsed times) (now : Timestamp) :
    Paired times now (Monitor.fresh machine forwarding) (Monitor.fresh machine forwarding) := by
  have sound := property.compile_sound compiled total
  obtain ⟨_, core, made, rfl⟩ := property.compile_cases compiled
  exact .intro made sound stays (Monitor.suits_off _) (Monitor.suits_off _) (.off rfl rfl)

/-- Steps that answer, and lead to twins, leave a pair. -/
theorem paired_run {α : Type} {property : Property} {core : Core} {one other : Instance}
    (made : property.pattern.core property.scope.kind.isReentrant = .ok core)
    (sound : (property.assemble core).Sound) (stays : property.pattern.bound.StaysElapsed times)
    (operation : String) (step : Instance → Step α)
    {value otherwise : α} (answer : (step one).result = .ok value)
    (otherAnswer : (step other).result = .ok otherwise)
    (suits : (property.assemble core).Suits (step one).inst.state (step one).inst.pool)
    (otherSuits : (property.assemble core).Suits (step other).inst.state (step other).inst.pool)
    (twins : Twins property times now (step one).inst (step other).inst) :
    let outcome := (Monitor.holding (property.assemble core) forwarding one).run operation step
    let other := (Monitor.holding (property.assemble core) forwarding other).run operation step
    outcome.result = .ok value ∧ other.result = .ok otherwise ∧
      Paired times now outcome.monitor other.monitor := by
  dsimp only
  obtain ⟨result, after⟩ := Monitor.run_quiet forwarding_quiet operation step
  obtain ⟨otherResult, otherAfter⟩ := Monitor.run_quiet forwarding_quiet operation step
  rw [result, after, otherResult, otherAfter, answer, otherAnswer]
  exact ⟨rfl, rfl, .intro made sound stays suits otherSuits twins⟩

namespace Paired

variable (paired : Paired times now first second)

include paired

theorem later {time : Timestamp} (order : now ≤ time) : Paired times time first second := by
  obtain ⟨made, sound, stays, suits, otherSuits, twins⟩ := paired
  exact .intro made sound stays suits otherSuits (twins.later order)

theorem usable : first.isPoisoned = false ∧ second.isPoisoned = false := by
  cases paired
  exact ⟨rfl, rfl⟩

theorem machine_eq : first.machine = second.machine := by
  cases paired
  rfl

theorem off_iff : first.inst.state = .off ↔ second.inst.state = .off := by
  obtain ⟨_, _, _, _, _, twins⟩ := paired
  exact twins.off_iff

/-- Both can be launched if one of them is off. -/
theorem launch (here : now ∈ times) (isOff : first.inst.state = .off) :
    (first.launch now).result = .ok () ∧ (second.launch now).result = .ok () ∧
      Paired times now (first.launch now).monitor (second.launch now).monitor := by
  have otherOff := paired.off_iff.mp isOff
  obtain @⟨property, core, one, other, made, sound, stays, _, _, _⟩ := paired
  change one.state = .off at isOff
  change other.state = .off at otherOff
  have suits := sound.perform (Monitor.suits_off _) (.launch now)
  have launched {inst : Instance} (isOff : inst.state = .off) :
      (property.assemble core).launch inst now =
        (property.assemble core).launch (Instance.off (property.assemble core)) now :=
    Machine.launch_of_off _ isOff now
  refine paired_run made sound stays "launch" (fun inst => (property.assemble core).launch inst now)
    ?_ ?_ ?_ ?_ ?_
  · rw [launched isOff]
    rfl
  · rw [launched otherOff]
    rfl
  · rw [launched isOff]
    exact suits
  · rw [launched otherOff]
    exact suits
  · rw [launched isOff, launched otherOff]
    exact .of_timeless (Machine.launched_dated here) rfl

/-- Both can be shut down if one of them is running. -/
theorem shutdown (running : first.inst.state ≠ .off) :
    (first.shutdown now).result = .ok () ∧ (second.shutdown now).result = .ok () ∧
      Paired times now (first.shutdown now).monitor (second.shutdown now).monitor := by
  have otherRunning : second.inst.state ≠ .off := fun isOff => running (paired.off_iff.mpr isOff)
  obtain @⟨property, core, one, other, made, sound, stays, suits, otherSuits, _⟩ := paired
  change one.state ≠ .off at running
  change other.state ≠ .off at otherRunning
  refine paired_run made sound stays "shutdown" (fun inst => Machine.shutdown inst now) ?_ ?_
    (sound.perform suits (.shutdown now)) (sound.perform otherSuits (.shutdown now)) ?_
  · rw [Machine.shutdown_of_on running]
    rfl
  · rw [Machine.shutdown_of_on otherRunning]
    rfl
  · rw [Machine.shutdown_of_on running, Machine.shutdown_of_on otherRunning]
    exact .off rfl rfl

/-- Time passes for both. -/
theorem onTimer (here : now ∈ times) :
    (first.onTimer now).result = .ok () ∧ (second.onTimer now).result = .ok () ∧
      Paired times now (first.onTimer now).monitor (second.onTimer now).monitor := by
  obtain @⟨property, core, one, other, made, sound, stays, suits, otherSuits, twins⟩ := paired
  obtain ⟨passed, still⟩ := sound.onTimer suits now
  obtain ⟨otherPassed, otherStill⟩ := sound.onTimer otherSuits now
  exact paired_run made sound stays "on_timer" (fun inst => (property.assemble core).onTimer inst now)
    passed otherPassed still otherStill (twins.onTimer made here).1

/-- After a call of the timer they show the same. -/
theorem onTimer_agrees (here : now ∈ times) :
    (first.onTimer now).monitor.Agrees (second.onTimer now).monitor := by
  obtain @⟨property, core, one, other, made, sound, stays, suits, otherSuits, twins⟩ := paired
  rw [Monitor.onTimer_holding made forwarding_quiet, Monitor.onTimer_holding made forwarding_quiet]
  obtain ⟨still, remembered⟩ := twins.onTimer made here
  refine ⟨still.off_iff, fun running => ?_⟩
  have same := remembered running
  exact ⟨Instance.state_of_timeless same, congrArg (fun inst => inst.verdict) same,
    congrArg (fun inst => inst.witness) same, congrArg (fun inst => inst.pool) same⟩

/-- Both take a message, or neither of them does. -/
theorem onMessage (here : now ∈ times) (topic : String) (message : Message) :
    ∃ consumed, (first.onMessage topic message now).result = .ok consumed ∧
      (second.onMessage topic message now).result = .ok consumed ∧
      Paired times now (first.onMessage topic message now).monitor
        (second.onMessage topic message now).monitor := by
  obtain @⟨property, core, one, other, made, sound, stays, suits, otherSuits, twins⟩ := paired
  obtain ⟨⟨consumed, answer⟩, still⟩ := sound.onMessage suits topic message now
  obtain ⟨result, alike⟩ := twins.onMessage made here topic message
  refine ⟨consumed, paired_run made sound stays "on_message"
    (fun inst => (property.assemble core).onMessage inst topic message now) answer
    (result.symm.trans answer) still (sound.onMessage otherSuits topic message now).2 alike⟩

/-- A message on a topic without rules need not be passed to the first one. -/
theorem onMessage_unheard (here : now ∈ times) {topic : String}
    (unheard : second.machine.hasRuleOn topic = false) (message : Message) :
    (second.onMessage topic message now).result = .ok false ∧
      Paired times now first (second.onMessage topic message now).monitor := by
  obtain @⟨property, core, one, other, made, sound, stays, suits, otherSuits, twins⟩ := paired
  change (property.assemble core).hasRuleOn topic = false at unheard
  have still := (sound.onMessage otherSuits topic message now).2
  obtain ⟨answer, remembered⟩ := Machine.onMessage_unheard unheard
    (sound.onTimer otherSuits now).1 message
  obtain ⟨result, after⟩ := Monitor.onMessage_holding forwarding_quiet (property.assemble core)
    other topic message now
  rw [result, after, answer]
  refine ⟨rfl, .intro made sound stays suits still ?_⟩
  rw [remembered]
  exact twins.onTimer_second made here stays

end Paired

end Paired

end Hub

end TemporalMonitor
