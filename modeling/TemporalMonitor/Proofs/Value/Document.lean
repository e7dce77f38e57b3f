import Mathlib.Data.String.Basic
import TemporalMonitor.Proofs.Json.Records
import TemporalMonitor.Proofs.Ordered
import TemporalMonitor.Value.Document

/-!
Messages and values are read back from their text.

A value holds lists and records of values to any depth, and its document repeats each of them with its
kind beside it. Nothing is lost on the way to the text and back unless a number is a double, or the
document is nested deeper than texts may be.
-/

namespace TemporalMonitor

namespace Json

theorem depthItems_le {items : List Json} {limit : Nat} :
    depthItems items ≤ limit ↔ ∀ item ∈ items, item.depth ≤ limit := by
  induction items with
  | nil => simp [depthItems]
  | cons item items ih => simp [depthItems, ih]

theorem depthMembers_le {members : List (String × Json)} {limit : Nat} :
    depthMembers members ≤ limit ↔ ∀ member ∈ members, member.2.depth ≤ limit := by
  induction members with
  | nil => simp [depthMembers]
  | cons member members ih => simp [depthMembers, ih]

/-- Only its depth can keep the document from being read back. -/
def Plain (document : Json) : Prop :=
  ∀ limit, document.depth ≤ limit → Legible limit document

theorem Plain.array {items : List Json} (all : ∀ item ∈ items, item.Plain) :
    (array items).Plain := by
  intro limit shallow
  cases limit with
  | zero => cases shallow
  | succ limit =>
      have each := depthItems_le.mp (Nat.le_of_succ_le_succ shallow)
      exact .array fun item member => all item member limit (each item member)

theorem Plain.object {members : List (String × Json)} (all : ∀ member ∈ members, member.2.Plain) :
    (object members).Plain := by
  intro limit shallow
  cases limit with
  | zero => cases shallow
  | succ limit =>
      have each := depthMembers_le.mp (Nat.le_of_succ_le_succ shallow)
      exact .object fun member inside => all member inside limit (each member inside)

end Json

theorem ValueKind.names : Json.Names ValueKind.all ValueKind.name :=
  ⟨fun kind => by cases kind <;> decide, by decide⟩

namespace Value

/-- A value without doubles in it, where the fields of each record are in order. -/
inductive Discrete : Value → Prop where
  | bool (value : Bool) : Discrete (bool value)
  | int (value : Int64) : Discrete (int value)
  | string (value : String) : Discrete (string value)
  | list {items : List Value} (all : ∀ item ∈ items, Discrete item) : Discrete (list items)
  | record {fields : List (String × Value)} (ascending : Ordered.Ascending fields)
      (all : ∀ field ∈ fields, Discrete field.2) : Discrete (record fields)
  | null : Discrete null

attribute [simp] Discrete.bool Discrete.int Discrete.string Discrete.null

theorem itemsToJson_eq (items : List Value) : itemsToJson items = items.map toJson := by
  induction items with
  | nil => rfl
  | cons item items ih => rw [itemsToJson, ih, List.map_cons]

theorem fieldsToJson_eq (fields : List (String × Value)) :
    fieldsToJson fields = fields.map fun field => (field.1, field.2.toJson) := by
  induction fields with
  | nil => rfl
  | cons field fields ih => rw [fieldsToJson, ih, List.map_cons]

section Legible

theorem plain_tagged (kind : ValueKind) {content : Json} (plain : content.Plain) :
    (tagged kind content).Plain := by
  refine .object fun member inside => ?_
  rcases List.mem_pair.mp inside with rfl | rfl
  · exact fun _ _ => .string _
  · exact plain

theorem plain_items {items : List Value} (all : ∀ item ∈ items, item.toJson.Plain) :
    (Json.array (itemsToJson items)).Plain := by
  rw [itemsToJson_eq]
  exact .array (List.forall_mem_map.mpr all)

theorem plain_fields {fields : List (String × Value)} (all : ∀ field ∈ fields, field.2.toJson.Plain) :
    (Json.object (fieldsToJson fields)).Plain := by
  rw [fieldsToJson_eq]
  exact .object (List.forall_mem_map.mpr all)

theorem Discrete.plain {value : Value} (discrete : value.Discrete) : value.toJson.Plain := by
  induction discrete with
  | bool value => exact plain_tagged .bool fun _ _ => .bool value
  | int value => exact plain_tagged .int fun limit _ => (Json.faithful_int64 limit value).legible
  | string value => exact plain_tagged .string fun _ _ => .string value
  | list _ plain => exact plain_tagged .list (plain_items plain)
  | record _ _ plain => exact plain_tagged .record (plain_fields plain)
  | null => exact .object (by simp [Json.Plain])

end Legible

section Decoded

variable {manner : Json.Manner}

/-- The kind comes first, so the content is not set aside. -/
theorem read_tagged (kind : ValueKind) (content : Json) :
    read? manner (tagged kind content) = ofContent? manner kind content := by
  have named : kindOfName? manner (.string kind.name) = some kind :=
    (ValueKind.names.faithful 0 manner kind).decoded
  have given : kindOfMembers? manner [("type", .string kind.name), ("value", content)] =
      some kind := by
    rw [kindOfMembers?, if_pos (by simp [Json.occurrences]), List.lookup_cons_self]
    exact named
  simp [tagged, read?, given, ofContentMember?]

theorem ofItems_itemsToJson {items : List Value}
    (all : ∀ item ∈ items, read? manner item.toJson = some item) :
    ofItems? manner (itemsToJson items) = some items := by
  induction items with
  | nil => rfl
  | cons item items ih =>
      have first := all item List.mem_cons_self
      have rest := ih fun item member => all item (List.mem_cons_of_mem _ member)
      simp only [itemsToJson, ofItems?, first, rest]

theorem ofMembers_fieldsToJson {fields : List (String × Value)}
    (all : ∀ field ∈ fields, read? manner field.2.toJson = some field.2) :
    ofMembers? manner (fieldsToJson fields) = some fields := by
  induction fields with
  | nil => rfl
  | cons field fields ih =>
      have first := all field List.mem_cons_self
      have rest := ih fun field member => all field (List.mem_cons_of_mem _ member)
      simp only [fieldsToJson, ofMembers?, first, rest]

/-- A document holds its value. -/
theorem Discrete.read_toJson {value : Value} (discrete : value.Discrete) :
    read? manner value.toJson = some value := by
  induction discrete with
  | bool value => rw [toJson, read_tagged, ofContent?, if_pos rfl]
  | int value =>
      rw [toJson, read_tagged, ofContent?, (Json.faithful_int64 0 value).decoded, Option.map_some]
  | string value => rw [toJson, read_tagged, ofContent?, if_pos rfl]
  | list _ read =>
      rw [toJson, read_tagged, ofContent?, if_pos rfl, ofItems_itemsToJson read, Option.map_some]
  | record ascending _ read =>
      rw [toJson, read_tagged, ofContent?, if_pos rfl, ofMembers_fieldsToJson read,
        Option.map_some, ascending.ofPairs_eq]
  | null => cases manner <;> rfl

end Decoded

theorem Discrete.parse_text {value : Value} (discrete : value.Discrete)
    (shallow : value.toJson.depth ≤ Json.depthLimit) (spacing : Json.Spacing) :
    (Json.parse? (value.toJson.text spacing)).bind ofJson? = some value := by
  rw [(discrete.plain _ shallow).parse_text spacing, Option.bind_some]
  exact discrete.read_toJson

end Value

namespace Message

/-- The message as a record is a value like any other. -/
def Discrete (message : Message) : Prop :=
  (Value.ofMessage message).Discrete

theorem Discrete.ofJson_toJson {message : Message} (discrete : message.Discrete) :
    ofJson? message.toJson = some message := by
  cases discrete with
  | record ascending all =>
      have read : Value.ofMembers? .direct (Value.fieldsToJson message.fields) =
          some message.fields :=
        Value.ofMembers_fieldsToJson fun field member => (all field member).read_toJson
      rw [toJson, ofJson?, read, Option.map_some, ofFields, ascending.ofPairs_eq]

theorem Discrete.parse_text {message : Message} (discrete : message.Discrete)
    (shallow : message.toJson.depth ≤ Json.depthLimit) (spacing : Json.Spacing) :
    (Json.parse? (message.toJson.text spacing)).bind ofJson? = some message := by
  have plain : message.toJson.Plain := by
    cases discrete with
    | record _ all => exact Value.plain_fields fun field member => (all field member).plain
  rw [(plain _ shallow).parse_text spacing, Option.bind_some]
  exact discrete.ofJson_toJson

end Message

/-- Messages and values are read back from their texts, whatever the spacing. -/
theorem Value.read_text (spacing : Json.Spacing) :
    (∀ message : Message, message.Discrete → message.toJson.depth ≤ Json.depthLimit →
      (Json.parse? (message.toJson.text spacing)).bind Message.ofJson? = some message) ∧
    ∀ value : Value, value.Discrete → value.toJson.depth ≤ Json.depthLimit →
      (Json.parse? (value.toJson.text spacing)).bind ofJson? = some value := by
  constructor
  · intro message discrete shallow
    exact discrete.parse_text shallow spacing
  · intro value discrete shallow
    exact discrete.parse_text shallow spacing

/-- The names of its fields are those under which values keep their kind and their content. -/
def Message.intricate : Message where
  fields := [("", .list [.null, .int Int64.minValue, .list []]),
    ("type", .string "\"\\\n\x01\u2028𝄞"),
    ("value", .record [("type", .record []), ("zeit", .bool false), ("ключ", .int Int64.maxValue)])]

theorem Message.intricate_discrete : intricate.Discrete := by
  have list : (Value.list [.null, .int Int64.minValue, .list []]).Discrete :=
    .list (by simp [Value.Discrete.list])
  have empty : (Value.record []).Discrete := .record (by decide) (by simp)
  have record : (Value.record [("type", .record []), ("zeit", .bool false),
      ("ключ", .int Int64.maxValue)]).Discrete :=
    .record (by decide) (by simp [empty])
  exact .record (by decide) (by simp [intricate, list, record])

theorem Value.read_text_intricate :
    Message.intricate.Discrete ∧ Message.intricate.toJson.depth ≤ Json.depthLimit ∧
      (ofMessage .intricate).toJson.depth ≤ Json.depthLimit ∧
      (Json.parse? (Message.intricate.toJson.text .tight)).bind Message.ofJson? =
        some .intricate ∧
      (Json.parse? ((ofMessage .intricate).toJson.text .tight)).bind ofJson? =
        some (ofMessage .intricate) := by
  have discrete := Message.intricate_discrete
  have shallow : Message.intricate.toJson.depth ≤ Json.depthLimit := by decide
  have within : (ofMessage .intricate).toJson.depth ≤ Json.depthLimit := by decide
  exact ⟨discrete, shallow, within, (Value.read_text .tight).1 _ discrete shallow,
    (Value.read_text .tight).2 _ discrete within⟩

end TemporalMonitor
