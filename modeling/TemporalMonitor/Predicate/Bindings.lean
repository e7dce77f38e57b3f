import TemporalMonitor.Value.Basic

/-!
Messages bound to the names of events.
-/

namespace TemporalMonitor

/-- The bindings in force, the latest one first. -/
structure Bindings where
  entries : List (String × Message)

namespace Bindings

def empty : Bindings := ⟨[]⟩

/-- Binds a name; an earlier binding of the name is hidden. -/
def bind (bindings : Bindings) (name : String) (message : Message) : Bindings :=
  ⟨(name, message) :: bindings.entries⟩

/-- The latest message bound to a name. -/
def get? (bindings : Bindings) (name : String) : Option Message :=
  bindings.entries.lookup name

def contains (bindings : Bindings) (name : String) : Bool :=
  (bindings.get? name).isSome

/-- The number of bindings, hidden ones included. -/
def size (bindings : Bindings) : Nat :=
  bindings.entries.length

end Bindings

end TemporalMonitor
