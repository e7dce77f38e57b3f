import TemporalMonitor.Time.Bound
import TemporalMonitor.Value.Document

/-!
Records of messages that matched an event.
-/

namespace TemporalMonitor

structure Record where
  topic : String
  timestamp : Timestamp
  message : Message
  /-- The name that the message is bound to. -/
  alias? : Option String := none

namespace Record

def toJson (record : Record) : Json :=
  .object ([("topic", .string record.topic), ("timestamp", record.timestamp.toJson),
    ("message", record.message.toJson)] ++ Json.optionalMember "alias" .string record.alias?)

def ofJson? (document : Json) : Option Record := do
  let fields ← document.fields? ["topic", "timestamp", "message", "alias"]
  some {
    topic := ← fields.required "topic" Json.string?
    timestamp := ← fields.required "timestamp" Timestamp.ofJson?
    message := ← fields.required "message" Message.ofJson?
    alias? := ← fields.orDefault "alias" none (Json.nullable? Json.string?) }

end Record

end TemporalMonitor
