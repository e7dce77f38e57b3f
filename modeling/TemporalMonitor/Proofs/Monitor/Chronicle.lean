import Mathlib.Data.List.Forall2
import Mathlib.Data.List.Induction
import TemporalMonitor.Proofs.Monitor.Conduct
import TemporalMonitor.Proofs.Monitor.Operation

/-!
The latest episode of a monitor, as its user sees it.

An episode is open while the monitor says when it started. The call with which that began opened the
episode, and the calls since then belong to it. A monitor that is not poisoned has done exactly what
its machine does, whatever its callbacks and the tests of the property do.
-/

namespace TemporalMonitor

/-- The call that opened the latest episode, if a call did, and the calls since then. -/
structure Chronicle where
  opener? : Option Call := none
  calls : List Call := []

namespace Chronicle

/-- A call belongs to the open episode, or else it may open one. -/
def extend (chronicle : Chronicle) (call : Call) (before after : Instance) : Chronicle :=
  match before.episodeStart?, after.episodeStart? with
  | some _, _ => { chronicle with calls := chronicle.calls ++ [call] }
  | none, some _ => { opener? := some call, calls := [] }
  | none, none => chronicle

variable (chronicle : Chronicle) (call : Call) {before after : Instance}

theorem extend_of_open (isOpen : before.episodeStart?.isSome = true) :
    chronicle.extend call before after =
      { chronicle with calls := chronicle.calls ++ [call] } := by
  obtain ⟨start, started⟩ := Option.isSome_iff_exists.mp isOpen
  rw [extend, started]

theorem extend_of_opened (waiting : before.episodeStart? = none)
    (opened : after.episodeStart?.isSome = true) :
    chronicle.extend call before after = { opener? := some call, calls := [] } := by
  obtain ⟨start, started⟩ := Option.isSome_iff_exists.mp opened
  rw [extend, waiting, started]

theorem extend_of_closed (waiting : before.episodeStart? = none)
    (still : after.episodeStart? = none) : chronicle.extend call before after = chronicle := by
  rw [extend, waiting, still]

end Chronicle

namespace Monitor

/-- The latest episode after one more operation. A stopped monitor forgets it at the next launch. -/
def follow (monitor : Monitor) (chronicle : Chronicle) (operation : Operation) : Chronicle :=
  match operation with
  | .launch _ | .reset => if monitor.inst.state.isOff then {} else chronicle
  | .shutdown _ => chronicle
  | .call call =>
      if monitor.inst.state.isOff then chronicle
      else chronicle.extend call monitor.inst (monitor.perform operation).inst

/-- The monitor after some operations, with its latest episode. -/
def followed (monitor : Monitor) (operations : List Operation) : Monitor × Chronicle :=
  operations.foldl (fun seen operation =>
    (seen.1.perform operation, seen.1.follow seen.2 operation)) (monitor, {})

/-- The latest episode after some operations. -/
def chronicle (monitor : Monitor) (operations : List Operation) : Chronicle :=
  (monitor.followed operations).2

theorem followed_append (monitor : Monitor) (operations : List Operation) (operation : Operation) :
    monitor.followed (operations ++ [operation]) =
      ((monitor.followed operations).1.perform operation,
        (monitor.followed operations).1.follow (monitor.followed operations).2 operation) := by
  rw [followed, List.foldl_append]
  rfl

theorem followed_fst (monitor : Monitor) (operations : List Operation) :
    (monitor.followed operations).1 = monitor.after operations := by
  induction operations using List.reverseRecOn with
  | nil => rfl
  | append_singleton rest operation ih =>
      rw [followed_append, ih, after, after, List.foldl_append]
      rfl

/-- A monitor that a step has not poisoned has done what the step says. -/
theorem run_usable {α : Type} {monitor : Monitor} {operation : String} {step : Instance → Step α}
    (usable : (monitor.run operation step).monitor.isPoisoned = false) :
    monitor.isPoisoned = false ∧ (step monitor.inst).Calm ∧
      (monitor.run operation step).monitor =
        { monitor with inst := (step monitor.inst).inst, isPoisoned := false } := by
  unfold run at usable ⊢
  cases poisoned : monitor.isPoisoned with
  | true =>
      rw [poisoned, if_pos rfl] at usable
      rw [poisoned] at usable
      cases usable
  | false =>
      rw [poisoned, if_neg (by decide)] at usable
      rw [if_neg (by decide)]
      refine ⟨rfl, ?_, ?_⟩
      · intro crash crashed
        dsimp only at usable
        rw [crashed] at usable
        cases delivered : (monitor.callbacks.deliver (step monitor.inst).effects).crash? <;>
          simp [delivered] at usable
      · dsimp only at usable ⊢
        rw [usable]

/-- So has a monitor that an operation has not poisoned. -/
theorem perform_usable {monitor : Monitor} {operation : Operation}
    (usable : (monitor.perform operation).isPoisoned = false) :
    monitor.isPoisoned = false ∧
      (∀ call, operation = .call call → monitor.machine.Survives monitor.inst call) ∧
      monitor.perform operation =
        { monitor with inst := monitor.machine.perform monitor.inst operation,
                       isPoisoned := false } := by
  cases operation with
  | launch time =>
      obtain ⟨before, _, same⟩ := run_usable usable
      exact ⟨before, by simp, same⟩
  | shutdown time =>
      obtain ⟨before, _, same⟩ := run_usable usable
      exact ⟨before, by simp, same⟩
  | reset =>
      obtain ⟨before, _, same⟩ := run_usable usable
      exact ⟨before, by simp, same⟩
  | call call =>
      cases call with
      | timer time =>
          obtain ⟨before, _, same⟩ := run_usable usable
          refine ⟨before, ?_, same⟩
          rintro _ ⟨⟩
          trivial
      | message topic message time =>
          obtain ⟨before, calm, same⟩ := run_usable usable
          refine ⟨before, ?_, same⟩
          rintro _ ⟨⟩
          exact calm

end Monitor

/-- A call means nothing to a machine that is stopped. -/
theorem Machine.next_of_off {machine : Machine} {inst : Instance} (isOff : inst.state = .off)
    (call : Call) : machine.next inst call = inst := by
  cases call with
  | timer time =>
      rw [next, onTimer_of_off isOff]
      rfl
  | message topic message time =>
      rw [next, onMessage_of_off isOff]
      rfl

/-- What a monitor may remember after a number of operations, and its latest episode. -/
inductive Machine.Reached (machine : Machine) : Nat → Instance → Chronicle → Prop where
  | fresh : Reached machine 0 (Instance.off machine) {}
  | launch {count : Nat} {inst : Instance} {chronicle : Chronicle}
      (reached : Reached machine count inst chronicle) (isOff : inst.state = .off)
      (time : Timestamp) : Reached machine (count + 1) (machine.launched time) {}
  | reset {count : Nat} {inst : Instance} {chronicle : Chronicle}
      (reached : Reached machine count inst chronicle) (isOff : inst.state = .off) :
      Reached machine (count + 1) (Instance.off machine) {}
  | shutdown {count : Nat} {inst : Instance} {chronicle : Chronicle}
      (reached : Reached machine count inst chronicle) (running : inst.state ≠ .off)
      (time : Timestamp) :
      Reached machine (count + 1) { inst with state := .off, shutdownTime? := some time } chronicle
  | call {count : Nat} {inst : Instance} {chronicle : Chronicle}
      (reached : Reached machine count inst chronicle) (running : inst.state ≠ .off) {call : Call}
      (survives : machine.Survives inst call) :
      Reached machine (count + 1) (machine.next inst call)
        (chronicle.extend call inst (machine.next inst call))
  /-- A call while the monitor is stopped, or an operation that is out of place. -/
  | ignored {count : Nat} {inst : Instance} {chronicle : Chronicle}
      (reached : Reached machine count inst chronicle) : Reached machine (count + 1) inst chronicle

/-- What is remembered after one more operation, and the latest episode then. -/
theorem Machine.Reached.perform {machine : Machine} {count : Nat} {monitor : Monitor}
    {chronicle : Chronicle} (reached : machine.Reached count monitor.inst chronicle)
    (same : monitor.machine = machine) {operation : Operation}
    (usable : (monitor.perform operation).isPoisoned = false) :
    machine.Reached (count + 1) (monitor.perform operation).inst
      (monitor.follow chronicle operation) := by
  obtain ⟨_, survives, performed⟩ := Monitor.perform_usable usable
  have remembered : (monitor.perform operation).inst = machine.perform monitor.inst operation := by
    rw [performed, same]
  rw [same] at survives
  unfold Monitor.follow
  by_cases isOff : monitor.inst.state = .off
  · have off : monitor.inst.state.isOff = true := by rw [isOff]; rfl
    rw [remembered, off]
    cases operation with
    | launch time =>
        rw [Machine.perform, Machine.launch, off]
        exact reached.launch isOff time
    | reset =>
        rw [Machine.perform, Machine.reset, off]
        exact reached.reset isOff
    | shutdown time =>
        rw [Machine.perform, Machine.shutdown, off]
        exact reached.ignored
    | call call =>
        rw [Machine.perform, Machine.next_of_off isOff]
        exact reached.ignored
  · have on := State.isOff_of_ne isOff
    rw [remembered, on]
    cases operation with
    | launch time =>
        rw [Machine.perform, Machine.launch, on]
        exact reached.ignored
    | reset =>
        rw [Machine.perform, Machine.reset, on]
        exact reached.ignored
    | shutdown time =>
        rw [Machine.perform, Machine.shutdown, on]
        exact reached.shutdown isOff time
    | call call => exact reached.call isOff (survives call rfl)

/-- A monitor that is usable after some operations has been usable all along. -/
theorem Monitor.reached_after {machine : Machine} {callbacks : Callbacks}
    {operations : List Operation}
    (usable : ((fresh machine callbacks).after operations).isPoisoned = false) :
    ((fresh machine callbacks).after operations).machine = machine ∧
      machine.Reached operations.length ((fresh machine callbacks).after operations).inst
        ((fresh machine callbacks).chronicle operations) := by
  induction operations using List.reverseRecOn with
  | nil => exact ⟨rfl, .fresh⟩
  | append_singleton rest operation ih =>
      have split : (fresh machine callbacks).after (rest ++ [operation]) =
          ((fresh machine callbacks).after rest).perform operation := by
        rw [after, List.foldl_append]
        rfl
      rw [split] at usable ⊢
      obtain ⟨before, _, performed⟩ := perform_usable usable
      obtain ⟨same, reached⟩ := ih before
      refine ⟨by rw [performed]; exact same, ?_⟩
      rw [chronicle, followed_append, List.length_append, List.length_singleton, followed_fst]
      exact reached.perform same usable

end TemporalMonitor
