import TemporalMonitor.Json.Basic

/-!
Taking JSON documents apart: scalars, records, choices among names, and tagged alternatives.

A record is given as an object, whose other members do not matter, or as an array of its fields in
order. A field must not be given twice.

Some parts cannot be understood where they stand, because what says how to read them may come later.
Such a part is set aside first, so all of it must have a value, and names in it may be given in more
ways.
-/

namespace TemporalMonitor.Json

def bool? : Json → Option Bool
  | bool value => some value
  | _ => none

def string? : Json → Option String
  | string value => some value
  | _ => none

/-- A whole number from `low` to `high`. -/
def intWithin? (low high : Int) : Json → Option Int
  | int value => if low ≤ value ∧ value ≤ high then some value else none
  | _ => none

/-- A natural number below `2 ^ width`. -/
def word? (width : Nat) (document : Json) : Option Nat :=
  (document.intWithin? 0 (Nat.pow 2 width - 1)).map Int.toNat

def int64? (document : Json) : Option Int64 :=
  (document.intWithin? Int64.minValue.toInt Int64.maxValue.toInt).map Int64.ofInt

/-- Whole numbers are doubles as well. -/
def float? : Json → Option Float
  | float value => some value
  | int value => some (Float.ofInt value)
  | _ => none

def list? {α : Type} (decode : Json → Option α) : Json → Option (List α)
  | array items => items.mapM decode
  | _ => none

/-- Nothing, or a value. -/
def nullable? {α : Type} (decode : Json → Option α) : Json → Option (Option α)
  | null => some none
  | document => (decode document).map some

/-- How a part of a document is read. -/
inductive Manner where
  /-- Where it stands. -/
  | direct
  /-- After it was set aside. -/
  | deferred
  deriving DecidableEq, Repr

/-- A bare name: a string, or an object with the name as its only member and no content. An empty
object is no content either in what was set aside. -/
def name? (manner : Manner) : Json → Option String
  | string name => some name
  | object [(name, null)] => some name
  | object [(name, object [])] => if manner = .deferred then some name else none
  | _ => none

/-- One value of a finite choice, given by its name. -/
def choice? {α : Type} (options : List α) (name : α → String) (document : Json)
    (manner : Manner := .direct) : Option α := do
  let given ← document.name? manner
  options.find? fun option => name option == given

def occurrences (name : String) (members : List (String × Json)) : Nat :=
  members.countP fun member => member.1 == name

/-- The fields of a record, by name or in the order of the names. -/
inductive Fields where
  | named (members : List (String × Json))
  | positional (names : List String) (items : List Json)

/-- Only the names given are fields; an array may be shorter than they are, but not longer. -/
def fields? (names : List String) : Json → Option Fields
  | object members =>
      if names.all fun name => decide (occurrences name members ≤ 1) then
        some (.named members)
      else none
  | array items =>
      if items.length ≤ names.length then some (.positional names items) else none
  | _ => none

def Fields.find? (name : String) : Fields → Option Json
  | .named members => members.lookup name
  | .positional names items => (names.zip items).lookup name

/-- A field that must be given. -/
def Fields.required {α : Type} (fields : Fields) (name : String) (decode : Json → Option α) :
    Option α :=
  (fields.find? name).bind decode

/-- A field that has a value of its own when it is not given. -/
def Fields.orDefault {α : Type} (fields : Fields) (name : String) (value : α)
    (decode : Json → Option α) : Option α :=
  match fields.find? name with
  | some document => decode document
  | none => some value

/-- A field that may be null. An object may leave it out, an array may not. -/
def Fields.orNull {α : Type} (fields : Fields) (name : String) (decode : Json → Option α) :
    Option (Option α) :=
  match fields.find? name, fields with
  | some document, _ => nullable? decode document
  | none, .named _ => some none
  | none, .positional _ _ => none

/-- The name of one of the alternatives. In what was set aside, it may be given by its place among
them. -/
def alternative? (manner : Manner) (names : List String) : Json → Option String
  | string name => some name
  | int place => if manner = .deferred ∧ 0 ≤ place then names[place.toNat]? else none
  | _ => none

/-- An alternative whose tag stands among its fields: the tag, and the fields without it. As the tag
may come last, all the fields are set aside. -/
def tagged? (manner : Manner) (tag : String) (names : List String) :
    Json → Option (String × Json)
  | object members => do
      let body := object (members.filter fun member => member.1 != tag)
      if occurrences tag members = 1 ∧ body.isReadable then
        let name ← (members.lookup tag).bind (alternative? manner names)
        some (name, body)
      else none
  | array (given :: items) => do
      let name ← alternative? manner names given
      if (array items).isReadable then some (name, array items) else none
  | _ => none

/-- An alternative whose content stands beside its tag: the tag, and the content if given. -/
def beside? (tag content : String) : Json → Option (String × Option Json)
  | object members =>
      if occurrences tag members = 1 ∧ occurrences content members ≤ 1 then do
        let name ← (members.lookup tag).bind (name? .direct)
        some (name, members.lookup content)
      else none
  | array [given, body] => do
      let name ← given.name? .direct
      some (name, some body)
  | _ => none

/-- The content of an alternative that has none: absent, or null. -/
def isVoid : Option Json → Bool
  | none | some null => true
  | some _ => false

end TemporalMonitor.Json
