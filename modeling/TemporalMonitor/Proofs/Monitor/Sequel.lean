import TemporalMonitor.Proofs.Monitor.Renewal

/-!
What follows is seen alike.

Monitors that are alike, and have given out the same numbers, can be told apart by no operation: not
by calls, and not by stopping, resetting and launching them again.
-/

namespace TemporalMonitor

theorem Instance.Alike.refl (inst : Instance) : inst.Alike 0 inst :=
  ⟨rfl, rfl, rfl, rfl, rfl, rfl, (UInt64.add_zero _).symm⟩

namespace Machine

variable (machine : Machine) {first second : Instance} (alike : first.Alike 0 second)

include alike

theorem launch_agrees (time : Timestamp) :
    (machine.launch first time).Agrees 0 (machine.launch second time) := by
  unfold launch
  rw [alike.state]
  split
  · exact ⟨rfl, rfl, .refl _⟩
  · exact ⟨rfl, rfl, alike⟩

theorem reset_agrees : (machine.reset first).Agrees 0 (machine.reset second) := by
  unfold reset
  rw [alike.state]
  split
  · exact ⟨rfl, rfl, .refl _⟩
  · exact ⟨rfl, rfl, alike⟩

theorem shutdown_agrees (time : Timestamp) :
    (shutdown first time).Agrees 0 (shutdown second time) := by
  unfold shutdown
  rw [alike.state]
  split
  · exact ⟨rfl, rfl, alike⟩
  · exact ⟨rfl, rfl, rfl, alike.verdict, alike.witness, alike.episode, alike.pool⟩

end Machine

namespace Monitor

/-- What the user sees of an operation. -/
def reportOf (monitor : Monitor) : Operation → Report
  | .call call => monitor.report call
  | operation =>
      let ended := monitor.outcome operation
      ⟨ended.result.map fun _ => none, ended.calls, ended.monitor.shown⟩

/-- The reports of some operations. -/
def reportsOf (monitor : Monitor) : List Operation → List Report
  | [] => []
  | operation :: rest => monitor.reportOf operation :: (monitor.perform operation).reportsOf rest

namespace Alike

variable {first second : Monitor}

/-- An operation is seen alike, as long as the pools are in order. -/
theorem reportOf (alike : first.Alike 0 second) {count : Nat} (stocked : first.Stocked count)
    (otherStocked : second.Stocked count) (operation : Operation) :
    first.reportOf operation = second.reportOf operation ∧
      (first.perform operation).Alike 0 (second.perform operation) := by
  cases operation with
  | call call => exact alike.report stocked otherStocked call
  | launch time =>
      obtain ⟨result, calls, after⟩ := alike.run "launch"
        (fun inst => second.machine.launch inst time) fun _ =>
          second.machine.launch_agrees alike.inst time
      simp only [Monitor.reportOf, outcome, perform, launch, alike.machine, result, calls,
        after.shown_eq]
      exact ⟨trivial, after⟩
  | shutdown time =>
      obtain ⟨result, calls, after⟩ := alike.run "shutdown"
        (fun inst => Machine.shutdown inst time) fun _ => Machine.shutdown_agrees alike.inst time
      simp only [Monitor.reportOf, outcome, perform, shutdown, result, calls, after.shown_eq]
      exact ⟨trivial, after⟩
  | reset =>
      obtain ⟨result, calls, after⟩ := alike.run "reset"
        (fun inst => second.machine.reset inst) fun _ => second.machine.reset_agrees alike.inst
      simp only [Monitor.reportOf, outcome, perform, reset, alike.machine, result, calls,
        after.shown_eq]
      exact ⟨trivial, after⟩

/-- Monitors that stay alike store records in the same operations. -/
theorem pushedBy_eq (alike : first.Alike 0 second) {operation : Operation}
    (after : (first.perform operation).Alike 0 (second.perform operation)) :
    first.pushed operation = second.pushed operation := by
  cases operation with
  | call call => exact alike.pushed_eq after
  | _ => rfl

/-- All further operations are seen alike, unless the numbers run out. -/
theorem reportsOf_eq {property : Property} {core : Core}
    (made : property.pattern.core property.scope.kind.isReentrant = .ok core)
    (alike : first.Alike 0 second) (kept : first.Kept (property.assemble core))
    (otherKept : second.Kept (property.assemble core)) {count : Nat}
    (stocked : first.Stocked count) (otherStocked : second.Stocked count)
    {operations : List Operation} (few : count + first.pushes operations < UInt64.size) :
    first.reportsOf operations = second.reportsOf operations := by
  induction operations generalizing first second count with
  | nil => rfl
  | cons operation rest ih =>
      obtain ⟨same, after⟩ := alike.reportOf stocked otherStocked operation
      rw [pushes, ← Nat.add_assoc] at few
      have room : count + first.pushed operation < UInt64.size := by omega
      have later := stocked.perform made kept operation room
      have otherLater := otherStocked.perform made otherKept operation
        (alike.pushedBy_eq after ▸ room)
      rw [← alike.pushedBy_eq after] at otherLater
      rw [reportsOf, reportsOf, same, ih after (kept.perform made _) (otherKept.perform made _) later
        otherLater few]

end Alike

end Monitor

end TemporalMonitor
