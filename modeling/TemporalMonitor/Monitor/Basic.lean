import TemporalMonitor.Machine.Compile
import TemporalMonitor.Monitor.Step

/-!
Monitors: a machine with what it remembers, and the callbacks of its user.

A callback or a test that crashes leaves the monitor poisoned, and a poisoned monitor refuses every
call.
-/

namespace TemporalMonitor

/-- The callbacks that are registered. A callback may crash. -/
structure Callbacks where
  onViolation? : Option (Timestamp → List Record → Except Crash Unit) := none
  onSuccess? : Option (Timestamp → List Record → Except Crash Unit) := none
  onEnter? : Option (Timestamp → Except Crash Unit) := none
  onExit? : Option (Timestamp → Except Crash Unit) := none

/-- The result of the callback for a notice, if one is registered. -/
def Callbacks.call? (callbacks : Callbacks) : Notice → Option (Except Crash Unit)
  | .entered time => callbacks.onEnter?.map fun callback => callback time
  | .exited time => callbacks.onExit?.map fun callback => callback time
  | .satisfied time witness => callbacks.onSuccess?.map fun callback => callback time witness
  | .violated time witness => callbacks.onViolation?.map fun callback => callback time witness

structure Monitor where
  machine : Machine
  inst : Instance
  callbacks : Callbacks := {}
  isPoisoned : Bool := false

/-- The end of a call: its result, the monitor after it, the notices that reached a callback, and
the entries of the log. -/
structure Outcome (α : Type) where
  result : Except Failure α
  monitor : Monitor
  calls : List Notice := []
  log : List LogEntry := []

/-- The effects up to the first crash of a callback. -/
structure Delivery where
  crash? : Option Crash
  calls : List Notice
  log : List LogEntry

/-- Delivers effects in order; nothing is delivered after a crash. -/
def Callbacks.deliver (callbacks : Callbacks) : List Effect → Delivery
  | [] => ⟨none, [], []⟩
  | .log entry :: rest =>
      let others := callbacks.deliver rest
      { others with log := entry :: others.log }
  | .notify notice :: rest =>
      match callbacks.call? notice with
      | none => callbacks.deliver rest
      | some (.error crash) => ⟨some crash, [notice], []⟩
      | some (.ok _) =>
          let others := callbacks.deliver rest
          { others with calls := notice :: others.calls }

namespace Monitor

def ofMachine (machine : Machine) : Monitor where
  machine := machine
  inst := Instance.off machine

/-- The monitor of a property. -/
def ofProperty (property : Property) : Except ValidationError Monitor :=
  property.compile.map ofMachine

def poisonedIn (operation : String) : Failure :=
  .error (.execution (.lockPoisoned ("monitor." ++ operation)))

/-- Runs a step and delivers its effects. -/
def run {α : Type} (monitor : Monitor) (operation : String) (step : Instance → Step α) :
    Outcome α :=
  if monitor.isPoisoned then ⟨.error (poisonedIn operation), monitor, [], []⟩
  else
    let ended := step monitor.inst
    let delivery := monitor.callbacks.deliver ended.effects
    let result := match delivery.crash? with
      | some crash => .error (.crash crash)
      | none => ended.result
    let isPoisoned := match result with
      | .error (.crash _) => true
      | _ => false
    ⟨result, { monitor with inst := ended.inst, isPoisoned := isPoisoned }, delivery.calls,
      delivery.log⟩

def launch (monitor : Monitor) (time : Timestamp) : Outcome Unit :=
  monitor.run "launch" fun inst => monitor.machine.launch inst time

def shutdown (monitor : Monitor) (time : Timestamp) : Outcome Unit :=
  monitor.run "shutdown" fun inst => Machine.shutdown inst time

def reset (monitor : Monitor) : Outcome Unit :=
  monitor.run "reset" fun inst => monitor.machine.reset inst

def onTimer (monitor : Monitor) (now : Timestamp) : Outcome Unit :=
  monitor.run "on_timer" fun inst => monitor.machine.onTimer inst now

def onMessage (monitor : Monitor) (topic : String) (message : Message) (time : Timestamp) :
    Outcome Bool :=
  monitor.run "on_message" fun inst => monitor.machine.onMessage inst topic message time

/-- Looks at the monitor without changing it. -/
def look {α : Type} (monitor : Monitor) (operation : String) (view : Instance → α) :
    Except Failure α :=
  if monitor.isPoisoned then .error (poisonedIn operation) else .ok (view monitor.inst)

def state (monitor : Monitor) : Except Failure State :=
  monitor.look "state" Instance.state

def verdict (monitor : Monitor) : Except Failure Verdict :=
  monitor.look "verdict" Instance.verdict

def witness (monitor : Monitor) : Except Failure (List Record) :=
  monitor.look "witness" Instance.witness

def snapshot (monitor : Monitor) : Except Failure Snapshot :=
  monitor.look "snapshot" Instance.snapshot

end Monitor

end TemporalMonitor
