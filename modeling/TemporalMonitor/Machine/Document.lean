import TemporalMonitor.Machine.Basic
import TemporalMonitor.Value.Document

/-!
Parts of machines as JSON documents.
-/

namespace TemporalMonitor

namespace Operand

def toJson : Operand → Json
  | const value => .object [("type", .string "const"), ("value", value.toJson)]
  | field name path =>
      .object [("type", .string "ref"), ("alias", .string name), ("field", .string path)]

def ofJson? (document : Json) : Option Operand := do
  let (kind, body) ← document.tagged? .direct "type" ["const", "ref"]
  match kind with
  | "const" => do
      let fields ← body.fields? ["value"]
      some (const (← fields.required "value" (Value.read? .deferred)))
  | "ref" => do
      let fields ← body.fields? ["alias", "field"]
      some (field (← fields.required "alias" Json.string?)
        (← fields.required "field" Json.string?))
  | _ => none

def describe : Operand → String
  | const value => "Const \x7b value: " ++ value.describe ++ " \x7d"
  | field name path =>
      "Ref \x7b alias: " ++ Text.quoted name ++ ", field: " ++ Text.quoted path ++ " \x7d"

end Operand

namespace Comparison

def all : List Comparison := [eq, ne, lt, le, gt, ge]

def name : Comparison → String
  | eq => "eq"
  | ne => "ne"
  | lt => "lt"
  | le => "le"
  | gt => "gt"
  | ge => "ge"

def describe : Comparison → String
  | eq => "Eq"
  | ne => "Ne"
  | lt => "Lt"
  | le => "Le"
  | gt => "Gt"
  | ge => "Ge"

end Comparison

namespace Next

def toJson : Next → Json
  | stay => .object [("type", .string "stay")]
  | goto state => .object [("type", .string "to"), ("state", state.toJson)]
  | drain empty otherwise =>
      .object [("type", .string "drain"), ("empty", empty.toJson), ("otherwise", otherwise.toJson)]

def ofJson? (document : Json) : Option Next := do
  let (kind, body) ← document.tagged? .direct "type" ["stay", "to", "drain"]
  match kind with
  | "stay" => do
      let _ ← body.fields? []
      some stay
  | "to" => do
      let fields ← body.fields? ["state"]
      some (goto (← fields.required "state" (State.read? .deferred)))
  | "drain" => do
      let fields ← body.fields? ["empty", "otherwise"]
      some (drain (← fields.required "empty" (State.read? .deferred))
        (← fields.required "otherwise" (State.read? .deferred)))
  | _ => none

end Next

namespace DeadlineEffect

/-- A transition always says what becomes of the verdict. -/
def toJson : DeadlineEffect → Json
  | evict => .object [("type", .string "evict")]
  | transition witness verdict? next =>
      .object [("type", .string "transition"), ("witness", .string witness.name),
        ("verdict", Json.ofOption .bool verdict?), ("next", next.toJson)]

def read? (manner : Json.Manner) (document : Json) : Option DeadlineEffect := do
  let (kind, body) ← document.tagged? manner "type" ["evict", "transition"]
  match kind with
  | "evict" => do
      let _ ← body.fields? []
      some evict
  | "transition" => do
      let fields ← body.fields? ["witness", "verdict", "next"]
      some (transition
        (← fields.required "witness" fun document =>
          document.choice? WitnessAction.all WitnessAction.name .deferred)
        (← fields.orNull "verdict" Json.bool?)
        (← fields.required "next" (State.read? .deferred)))
  | _ => none

end DeadlineEffect

namespace Deadline

def members (deadline : Deadline) : List (String × Json) :=
  [("anchor", .string deadline.anchor.name), ("effect", deadline.effect.toJson)]

def toJson (deadline : Deadline) : Json :=
  .object deadline.members

def ofFields? (manner : Json.Manner) (fields : Json.Fields) : Option Deadline := do
  some {
    anchor := ← fields.required "anchor" fun document =>
      document.choice? Anchor.all Anchor.name manner
    effect := ← fields.required "effect" (DeadlineEffect.read? manner) }

def ofJson? (document : Json) : Option Deadline := do
  ofFields? .direct (← document.fields? ["anchor", "effect"])

end Deadline

end TemporalMonitor
