import TemporalMonitor.Unicode.Age
import TemporalMonitor.Unicode.Binary
import TemporalMonitor.Unicode.Script

/-!
Properties of characters by name.
-/

namespace TemporalMonitor.Unicode

/-- How a property is asked for: by a name of its own, or as the value of another property. -/
inductive Query where
  | name (name : String)
  | value (property value : String)
  deriving DecidableEq, Repr

def startsWithIs (name : List Char) : Bool :=
  (name.take 2).map Char.toLower == ['i', 's']

/-- Names are compared without regard to case, blanks, underscores, hyphens, a leading `is`, and
characters beyond ASCII. The name `isc` is kept apart from `c`. -/
def normalize (name : String) : String :=
  let chars := name.toList
  let isMarked := startsWithIs chars
  let kept := (if isMarked then chars.drop 2 else chars).filter fun c =>
    c.toNat < 0x80 && c != ' ' && c != '_' && c != '-'
  let lower := kept.map Char.toLower
  String.ofList (if isMarked && lower == ['c'] then ['i', 's', 'c'] else lower)

/-- A name is that of a property, of a category or of a script. -/
def byName? (name : String) : Option CharSet :=
  match binary? name with
  | some set => some set
  | none =>
    match category? name with
    | some set => some set
    | none => script? name

def byValue? (property value : String) : Option CharSet :=
  match property with
  | "gc" | "generalcategory" => category? value
  | "sc" | "script" => script? value
  | "scx" | "scriptextensions" => extension? value
  | "age" => age? value
  | "gcb" | "graphemeclusterbreak" => graphemeClass? value
  | "wb" | "wordbreak" => wordClass? value
  | "sb" | "sentencebreak" => sentenceClass? value
  | _ => none

/-- The characters that a query asks for, if there is such a property. -/
def Query.find? : Query → Option CharSet
  | name text => byName? (normalize text)
  | value property text => byValue? (normalize property) (normalize text)

end TemporalMonitor.Unicode
