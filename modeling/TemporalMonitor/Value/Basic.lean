import TemporalMonitor.Decimal.Layout
import TemporalMonitor.Ordered
import TemporalMonitor.Text.Quoted

/-!
Values of message fields, and messages.
-/

namespace TemporalMonitor

/-- The kinds of values. -/
inductive ValueKind where
  | bool
  | int
  | float
  | string
  | list
  | record
  | null
  deriving DecidableEq, Repr

def ValueKind.all : List ValueKind :=
  [bool, int, float, string, list, record, null]

def ValueKind.name : ValueKind → String
  | bool => "bool"
  | int => "int"
  | float => "float"
  | string => "string"
  | list => "list"
  | record => "record"
  | null => "null"

/-- A value of a field. A record holds its fields in ascending order of their names. -/
inductive Value where
  | bool (value : Bool)
  | int (value : Int64)
  | float (value : Float)
  | string (value : String)
  | list (items : List Value)
  | record (fields : List (String × Value))
  | null
  deriving Inhabited

/-- The content of a message: fields in ascending order of their names. -/
structure Message where
  fields : List (String × Value)
  deriving Inhabited

namespace Value

def ofMessage (message : Message) : Value :=
  record message.fields

/-- Single precision numbers are doubles as well. -/
def ofSingle (value : Float32) : Value :=
  float value.toFloat

def kind : Value → ValueKind
  | bool _ => .bool
  | int _ => .int
  | float _ => .float
  | string _ => .string
  | list _ => .list
  | record _ => .record
  | null => .null

/-- Whole numbers and doubles are the numbers. -/
def isNumber (value : Value) : Bool :=
  value.kind == .int || value.kind == .float

def bool? : Value → Option Bool
  | bool value => some value
  | _ => none

def int? : Value → Option Int64
  | int value => some value
  | _ => none

/-- Every number is a double, a whole number the nearest one. -/
def float? : Value → Option Float
  | float value => some value
  | int value => some (Float.ofInt value.toInt)
  | _ => none

def string? : Value → Option String
  | string value => some value
  | _ => none

def list? : Value → Option (List Value)
  | list items => some items
  | _ => none

def message? : Value → Option Message
  | record fields => some ⟨fields⟩
  | _ => none

mutual

/-- The text of a value: strings are quoted, and of a list only the length is shown. -/
def text : Value → String
  | bool value => toString value
  | int value => toString value.toInt
  | float value => Decimal.plain.text value
  | string value => Text.quoted value
  | list items => "list[" ++ toString items.length ++ "]"
  | record [] => "\x7b\x7d"
  | record (field :: rest) => "\x7b" ++ textField field ++ textFields rest
  | null => "null"

def textField : String × Value → String
  | (name, value) => name ++ ": " ++ text value

/-- What follows a field of a record. -/
def textFields : List (String × Value) → String
  | [] => "\x7d"
  | field :: rest => ", " ++ textField field ++ textFields rest

end

mutual

/-- The value spelled out with the kind of each part. -/
def describe : Value → String
  | bool value => "Bool(" ++ toString value ++ ")"
  | int value => "Int(" ++ toString value.toInt ++ ")"
  | float value => "Float(" ++ Decimal.descriptive.text value ++ ")"
  | string value => "String(" ++ Text.quoted value ++ ")"
  | list items => "List(" ++ Text.bracketed (describeItems items) ++ ")"
  | record fields =>
      "Record(Message \x7b fields: \x7b" ++ ", ".intercalate (describeFields fields) ++ "\x7d \x7d)"
  | null => "Null"

def describeItems : List Value → List String
  | [] => []
  | item :: rest => describe item :: describeItems rest

def describeFields : List (String × Value) → List String
  | [] => []
  | (name, value) :: rest => (Text.quoted name ++ ": " ++ describe value) :: describeFields rest

end

end Value

namespace Message

def empty : Message := ⟨[]⟩

/-- Adds a field, or replaces the one of that name. -/
def set (message : Message) (name : String) (value : Value) : Message :=
  ⟨Ordered.insert name value message.fields⟩

/-- The message with the fields given; of fields with one name the last one counts. -/
def ofFields (fields : List (String × Value)) : Message :=
  ⟨Ordered.ofPairs fields⟩

def size (message : Message) : Nat :=
  message.fields.length

/-- Follows names through nested records. -/
def find? : List String → List (String × Value) → Option Value
  | [], _ => none
  | [name], fields => fields.lookup name
  | name :: rest, fields =>
      match fields.lookup name with
      | some (.record inner) => find? rest inner
      | _ => none

/-- The parts of a path between its dots; a path has at least one part. -/
def splitPath : List Char → List (List Char)
  | [] => [[]]
  | c :: rest =>
      if c = '.' then [] :: splitPath rest
      else match splitPath rest with
        | [] => [[c]]
        | part :: parts => (c :: part) :: parts

/-- The value at a path whose parts are divided by dots. -/
def get? (message : Message) (path : String) : Option Value :=
  find? ((splitPath path.toList).map String.ofList) message.fields

def text (message : Message) : String :=
  (Value.ofMessage message).text

end Message

end TemporalMonitor
