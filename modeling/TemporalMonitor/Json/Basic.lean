/-!
JSON documents. Members keep their order, and a name may be repeated.
-/

namespace TemporalMonitor

/-- A number without fraction and exponent is an `int`, if 64 bits can hold it. -/
inductive Json where
  /-- A part of a well-formed text that has no value: a number that is too large, text with half of a
  surrogate pair, or a container that stands too deep inside others. -/
  | unreadable
  | null
  | bool (value : Bool)
  | int (value : Int)
  | float (value : Float)
  | string (value : String)
  | array (items : List Json)
  | object (members : List (String × Json))
  deriving Inhabited

namespace Json

mutual

/-- How many arrays and objects stand inside each other at the deepest point. -/
def depth : Json → Nat
  | array items => depthItems items + 1
  | object members => depthMembers members + 1
  | _ => 0

def depthItems : List Json → Nat
  | [] => 0
  | item :: rest => max (depth item) (depthItems rest)

def depthMembers : List (String × Json) → Nat
  | [] => 0
  | (_, value) :: rest => max (depth value) (depthMembers rest)

end

mutual

/-- Every part of the document has a value. -/
def isReadable : Json → Bool
  | unreadable => false
  | array items => areReadable items
  | object members => haveReadable members
  | _ => true

def areReadable : List Json → Bool
  | [] => true
  | item :: rest => isReadable item && areReadable rest

def haveReadable : List (String × Json) → Bool
  | [] => true
  | (_, value) :: rest => isReadable value && haveReadable rest

end

/-- The first member with the given name. -/
def member? (name : String) : Json → Option Json
  | object members => members.lookup name
  | _ => none

def ofOption {α : Type} (encode : α → Json) : Option α → Json
  | some value => encode value
  | none => null

/-- A member that is left out when there is nothing to say. -/
def optionalMember {α : Type} (name : String) (encode : α → Json) :
    Option α → List (String × Json)
  | some value => [(name, encode value)]
  | none => []

/-- A list member that is left out when the list is empty. -/
def listMember {α : Type} (name : String) (encode : α → Json) (items : List α) :
    List (String × Json) :=
  if items.isEmpty then [] else [(name, array (items.map encode))]

end Json

end TemporalMonitor
