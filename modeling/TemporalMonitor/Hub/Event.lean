import TemporalMonitor.Hub.Uuid
import TemporalMonitor.Monitor.Log

/-!
Events that a hub sends to its subscribers, and filters for them.
-/

namespace TemporalMonitor

/-- What happened in a monitor. -/
inductive EventKind where
  | scopeEntered
  | scopeExited
  | satisfied
  | violated
  deriving DecidableEq, Repr

namespace EventKind

def all : List EventKind := [scopeEntered, scopeExited, satisfied, violated]

def name : EventKind → String
  | scopeEntered => "scope_entered"
  | scopeExited => "scope_exited"
  | satisfied => "satisfied"
  | violated => "violated"

def describe : EventKind → String
  | scopeEntered => "ScopeEntered"
  | scopeExited => "ScopeExited"
  | satisfied => "Satisfied"
  | violated => "Violated"

def isVerdict : EventKind → Bool
  | satisfied | violated => true
  | scopeEntered | scopeExited => false

def ofJson? (document : Json) : Option EventKind :=
  document.choice? all name

end EventKind

/-- A notice of a registered monitor. -/
structure MonitorEvent where
  monitor : Uuid
  property? : Option String
  kind : EventKind
  timestamp : Timestamp
  witness : List Record

/-- An event as it is stored and sent, with an identifier of its own. -/
structure IdentifiedEvent where
  id : Uuid
  event : MonitorEvent

/-- Only a verdict comes with records. -/
structure UnexpectedWitness where
  kind : EventKind
  records : Nat
  deriving DecidableEq, Repr

def UnexpectedWitness.message (fault : UnexpectedWitness) : String :=
  fault.kind.describe ++ " events carry no witness, got " ++ toString fault.records ++ " record(s)"

/-- Which events a subscriber wants; an empty list asks for nothing in particular. -/
structure EventFilter where
  monitors : List Uuid := []
  kinds : List EventKind := []
  deriving DecidableEq, Repr

namespace MonitorEvent

def create (monitor : Uuid) (property? : Option String) (kind : EventKind)
    (timestamp : Timestamp) (witness : List Record) : Except UnexpectedWitness MonitorEvent :=
  if !kind.isVerdict && !witness.isEmpty then .error ⟨kind, witness.length⟩
  else .ok ⟨monitor, property?, kind, timestamp, witness⟩

/-- The event of a notice. -/
def ofNotice (monitor : Uuid) (property? : Option String) : Notice → MonitorEvent
  | .entered time => ⟨monitor, property?, .scopeEntered, time, []⟩
  | .exited time => ⟨monitor, property?, .scopeExited, time, []⟩
  | .satisfied time witness => ⟨monitor, property?, .satisfied, time, witness⟩
  | .violated time witness => ⟨monitor, property?, .violated, time, witness⟩

/-- What follows the monitor's identifier. -/
def details (event : MonitorEvent) : List (String × Json) :=
  Json.optionalMember "property_id" .string event.property? ++
    [("kind", .string event.kind.name), ("timestamp", event.timestamp.toJson)] ++
    Json.listMember "witness" Record.toJson event.witness

def members (event : MonitorEvent) : List (String × Json) :=
  ("monitor_id", event.monitor.toJson) :: event.details

end MonitorEvent

namespace IdentifiedEvent

def toJson (event : IdentifiedEvent) : Json :=
  .object (("event_id", event.id.toJson) :: event.event.members)

def ofJson? (document : Json) : Option IdentifiedEvent := do
  let fields ← document.fields? ["event_id", "monitor_id", "property_id", "kind", "timestamp",
    "witness"]
  some {
    id := ← fields.required "event_id" Uuid.ofJson?
    event := {
      monitor := ← fields.required "monitor_id" Uuid.ofJson?
      property? := ← fields.orDefault "property_id" none (Json.nullable? Json.string?)
      kind := ← fields.required "kind" EventKind.ofJson?
      timestamp := ← fields.required "timestamp" Timestamp.ofJson?
      witness := ← fields.orDefault "witness" [] (Json.list? Record.ofJson?) } }

end IdentifiedEvent

namespace EventFilter

def everything : EventFilter := {}

def verdicts : EventFilter := { kinds := [.satisfied, .violated] }

/-- Asks for one more monitor. -/
def monitor (filter : EventFilter) (id : Uuid) : EventFilter :=
  { filter with monitors := filter.monitors ++ [id] }

def accepts (filter : EventFilter) (event : MonitorEvent) : Bool :=
  (filter.monitors.isEmpty || filter.monitors.contains event.monitor) &&
    (filter.kinds.isEmpty || filter.kinds.contains event.kind)

def toJson (filter : EventFilter) : Json :=
  .object (Json.listMember "monitors" Uuid.toJson filter.monitors ++
    Json.listMember "kinds" (fun kind => .string kind.name) filter.kinds)

def ofJson? (document : Json) : Option EventFilter := do
  let fields ← document.fields? ["monitors", "kinds"]
  some {
    monitors := ← fields.orDefault "monitors" [] (Json.list? Uuid.ofJson?)
    kinds := ← fields.orDefault "kinds" [] (Json.list? EventKind.ofJson?) }

end EventFilter

end TemporalMonitor
