import TemporalMonitor.Json.Fields

/-!
States of a monitor.
-/

namespace TemporalMonitor

inductive State where
  /-- Not launched, or shut down. -/
  | off
  /-- Waiting for the activator of the scope. -/
  | inactive
  /-- The scope is open. -/
  | engaged
  /-- The scope is open and nothing is owed. -/
  | idle
  /-- The scope is open and a behavior is owed. -/
  | pending
  /-- The episode cannot be violated any more, but it is not over. -/
  | safe
  /-- The property is satisfied. -/
  | accepted
  /-- The property is violated. -/
  | rejected
  deriving DecidableEq, Repr

namespace State

def all : List State :=
  [off, inactive, engaged, idle, pending, safe, accepted, rejected]

def rank : State → Nat
  | off => 0
  | inactive => 1
  | engaged => 2
  | idle => 3
  | pending => 4
  | safe => 5
  | accepted => 6
  | rejected => 7

instance : LT State := ⟨fun a b => a.rank < b.rank⟩

instance : DecidableLT State := fun a b => inferInstanceAs (Decidable (a.rank < b.rank))

def name : State → String
  | off => "OFF"
  | inactive => "INACTIVE"
  | engaged => "ENGAGED"
  | idle => "IDLE"
  | pending => "PENDING"
  | safe => "SAFE"
  | accepted => "TRUE"
  | rejected => "FALSE"

def describe : State → String
  | off => "Off"
  | inactive => "Inactive"
  | engaged => "Engaged"
  | idle => "Idle"
  | pending => "Pending"
  | safe => "Safe"
  | accepted => "True"
  | rejected => "False"

/-- The verdict is settled. -/
def isTerminal : State → Bool
  | accepted | rejected => true
  | _ => false

def isOff : State → Bool
  | off => true
  | _ => false

/-- The state that a verdict leads to. -/
def ofVerdict : Bool → State
  | true => accepted
  | false => rejected

def toJson (state : State) : Json :=
  .string state.name

def read? (manner : Json.Manner) (document : Json) : Option State :=
  document.choice? all name manner

def ofJson? (document : Json) : Option State :=
  read? .direct document

end State

end TemporalMonitor
