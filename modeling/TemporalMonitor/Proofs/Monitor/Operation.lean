import TemporalMonitor.Monitor.Basic
import TemporalMonitor.Proofs.Monitor.Call

/-!
Sequences of operations on a monitor.

Callbacks that do not crash cannot be noticed by the monitor: an operation changes what is remembered
just as its step does, and only a crash of the step can poison the monitor.
-/

namespace TemporalMonitor

/-- No callback crashes. -/
def Callbacks.Quiet (callbacks : Callbacks) : Prop :=
  ∀ notice result, callbacks.call? notice = some result → result = .ok ()

/-- Quiet callbacks let every effect through. -/
theorem Callbacks.Quiet.deliver {callbacks : Callbacks} (quiet : callbacks.Quiet)
    (effects : List Effect) : (callbacks.deliver effects).crash? = none := by
  induction effects with
  | nil => rfl
  | cons effect rest ih =>
      cases effect with
      | log entry => exact ih
      | notify notice =>
          rw [Callbacks.deliver]
          cases called : callbacks.call? notice with
          | none => exact ih
          | some result =>
              obtain rfl := quiet notice result called
              exact ih

/-- What a user can ask of a monitor. -/
inductive Operation where
  | launch (time : Timestamp)
  | shutdown (time : Timestamp)
  | reset
  | call (call : Call)

namespace Machine

/-- What is remembered after an operation. -/
def perform (machine : Machine) (inst : Instance) : Operation → Instance
  | .launch time => (machine.launch inst time).inst
  | .shutdown time => (shutdown inst time).inst
  | .reset => (machine.reset inst).inst
  | .call call => machine.next inst call

/-- What is remembered after a sequence of calls. -/
def run (machine : Machine) (inst : Instance) (calls : List Call) : Instance :=
  calls.foldl machine.next inst

theorem run_append (machine : Machine) (inst : Instance) (calls : List Call) (call : Call) :
    machine.run inst (calls ++ [call]) = machine.next (machine.run inst calls) call := by
  rw [run, List.foldl_append]
  rfl

section Lifecycle

variable (machine : Machine) (inst : Instance) (crash : Crash)

theorem launch_safe (time : Timestamp) :
    (machine.launch inst time).result ≠ .error (.crash crash) := by
  unfold launch
  split <;> simp [Step.done]

theorem shutdown_safe (time : Timestamp) : (shutdown inst time).result ≠ .error (.crash crash) := by
  unfold shutdown
  split <;> simp [Step.done]

theorem reset_safe : (machine.reset inst).result ≠ .error (.crash crash) := by
  unfold reset
  split <;> simp [Step.done]

end Lifecycle

/-- What is remembered right after the launch of a fresh monitor. -/
def launched (machine : Machine) (time : Timestamp) : Instance :=
  (machine.launch (Instance.off machine) time).inst

end Machine

namespace Monitor

/-- The monitor after an operation. -/
def perform (monitor : Monitor) : Operation → Monitor
  | .launch time => (monitor.launch time).monitor
  | .shutdown time => (monitor.shutdown time).monitor
  | .reset => monitor.reset.monitor
  | .call (.timer time) => (monitor.onTimer time).monitor
  | .call (.message topic content time) => (monitor.onMessage topic content time).monitor

/-- The monitor after a sequence of operations. -/
def after (monitor : Monitor) (operations : List Operation) : Monitor :=
  operations.foldl perform monitor

/-- A fresh monitor with callbacks. -/
def fresh (machine : Machine) (callbacks : Callbacks) : Monitor :=
  { ofMachine machine with callbacks := callbacks }

/-- A fresh monitor after its launch and some calls. -/
def traced (machine : Machine) (callbacks : Callbacks) (start : Timestamp) (calls : List Call) :
    Monitor :=
  (fresh machine callbacks).after (.launch start :: calls.map .call)

section Run

variable {α : Type} {monitor : Monitor} {operation : String} {step : Instance → Step α}

/-- A step that does not crash has its own result, and the monitor stays usable. -/
theorem run_eq (quiet : monitor.callbacks.Quiet) (usable : monitor.isPoisoned = false)
    (safe : ∀ crash, (step monitor.inst).result ≠ .error (.crash crash)) :
    (monitor.run operation step).result = (step monitor.inst).result ∧
      (monitor.run operation step).monitor =
        { monitor with inst := (step monitor.inst).inst, isPoisoned := false } := by
  have delivered := quiet.deliver (step monitor.inst).effects
  rw [run, usable, if_neg (by decide)]
  simp only [delivered, true_and]

/-- A monitor never changes its callbacks. -/
theorem run_callbacks (monitor : Monitor) (operation : String) (step : Instance → Step α) :
    (monitor.run operation step).monitor.callbacks = monitor.callbacks := by
  unfold run
  split
  · rfl
  · rfl

end Run

end Monitor

end TemporalMonitor
