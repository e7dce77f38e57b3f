import TemporalMonitor.Json.Fields
import TemporalMonitor.Value.Basic

/-!
Values and messages as JSON documents.

A value is an object with its kind beside its content; a message is an object with a value for
each of its fields. Content that comes before its kind is set aside until the kind is known.
-/

namespace TemporalMonitor

namespace Value

def tagged (kind : ValueKind) (content : Json) : Json :=
  .object [("type", .string kind.name), ("value", content)]

mutual

def toJson : Value → Json
  | bool value => tagged .bool (.bool value)
  | int value => tagged .int (.int value.toInt)
  | float value => tagged .float (.float value)
  | string value => tagged .string (.string value)
  | list items => tagged .list (.array (itemsToJson items))
  | record fields => tagged .record (.object (fieldsToJson fields))
  | null => .object [("type", .string ValueKind.null.name)]

def itemsToJson : List Value → List Json
  | [] => []
  | item :: rest => toJson item :: itemsToJson rest

def fieldsToJson : List (String × Value) → List (String × Json)
  | [] => []
  | (name, value) :: rest => (name, toJson value) :: fieldsToJson rest

end

def kindOfName? (manner : Json.Manner) (document : Json) : Option ValueKind :=
  document.choice? ValueKind.all ValueKind.name manner

/-- The kind of the value with the members given. -/
def kindOfMembers? (manner : Json.Manner) (members : List (String × Json)) : Option ValueKind :=
  if Json.occurrences "type" members = 1 ∧ Json.occurrences "value" members ≤ 1 then
    (members.lookup "type").bind (kindOfName? manner)
  else none

mutual

/-- The value of the given kind with the given content. -/
def ofContent? (manner : Json.Manner) (kind : ValueKind) : Json → Option Value
  | .unreadable => none
  | .null => if kind = .null then some null else none
  | .bool value => if kind = .bool then some (bool value) else none
  | .int value =>
      match kind with
      | .int => (Json.int value).int64?.map int
      | .float => some (float (Float.ofInt value))
      | _ => none
  | .float value => if kind = .float then some (float value) else none
  | .string value => if kind = .string then some (string value) else none
  | .array items => if kind = .list then (ofItems? manner items).map list else none
  | .object members =>
      if kind = .record then
        (ofMembers? manner members).map fun fields => record (Ordered.ofPairs fields)
      else none

/-- A value with its kind and its content. -/
def read? (manner : Json.Manner) : Json → Option Value
  | .object members =>
      match kindOfMembers? manner members with
      | some kind => ofContentMember? manner false kind members
      | none => none
  | .array [given, content] =>
      match kindOfName? manner given with
      | some kind => ofContent? manner kind content
      | none => none
  | _ => none

/-- The kind may be given after the content, and a null value needs no content. -/
def ofContentMember? (manner : Json.Manner) (isKindGiven : Bool) (kind : ValueKind) :
    List (String × Json) → Option Value
  | [] => if kind = .null then some null else none
  | (name, content) :: rest =>
      if name = "type" then ofContentMember? manner true kind rest
      else if name = "value" then
        if isKindGiven then ofContent? manner kind content
        else if content.isReadable then ofContent? .deferred kind content
        else none
      else ofContentMember? manner isKindGiven kind rest

def ofItems? (manner : Json.Manner) : List Json → Option (List Value)
  | [] => some []
  | item :: rest =>
      match read? manner item, ofItems? manner rest with
      | some value, some values => some (value :: values)
      | _, _ => none

def ofMembers? (manner : Json.Manner) : List (String × Json) → Option (List (String × Value))
  | [] => some []
  | (name, item) :: rest =>
      match read? manner item, ofMembers? manner rest with
      | some value, some fields => some ((name, value) :: fields)
      | _, _ => none

end

def ofJson? (document : Json) : Option Value :=
  read? .direct document

end Value

namespace Message

def toJson (message : Message) : Json :=
  .object (Value.fieldsToJson message.fields)

def ofJson? : Json → Option Message
  | .object members => (Value.ofMembers? .direct members).map ofFields
  | _ => none

end Message

end TemporalMonitor
