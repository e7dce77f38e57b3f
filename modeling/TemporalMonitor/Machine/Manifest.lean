import TemporalMonitor.Json.Reader
import TemporalMonitor.Json.Writer
import TemporalMonitor.Machine.Document

/-!
Manifests: machines as plain data, for other programs to read.

A test cannot be written down, so a rule shows the names that its test reads.
-/

namespace TemporalMonitor

namespace Manifest

/-- The states in which a topic matters, and the types declared for it. -/
structure Topic where
  topic : String
  messageTypes : List String
  states : List State
  deriving DecidableEq, Repr

/-- A rule with its place among the rules for its topic and state. -/
structure Entry where
  topic : String
  state : State
  order : Nat
  role : Role
  alias? : Option String
  references : List String
  reaction : Reaction
  deriving DecidableEq, Repr

end Manifest

structure Manifest where
  version : Nat
  summary : Summary
  scope : ScopeKind
  pattern : PatternKind
  bound : Bound
  initial : State
  states : List State
  capacity : Capacity
  isCorrelated : Bool
  topics : List Manifest.Topic
  reactions : List Manifest.Entry
  deadlines : List (State × Deadline)
  deriving DecidableEq, Repr

namespace Manifest

/-- The version of the layout. -/
def currentVersion : Nat := 1

def Entry.ofRule (topic : String) (state : State) (rule : Rule) (order : Nat) : Entry where
  topic := topic
  state := state
  order := order
  role := rule.role
  alias? := rule.alias?
  references := rule.predicate.references
  reaction := rule.reaction

/-- The entries of the rules for a topic and a state, in the order in which they are tried. -/
def bucketOf (topic : String) (state : State) (rules : List Rule) : List Entry :=
  rules.zipIdx.map fun (rule, order) => Entry.ofRule topic state rule order

def ofMachine (machine : Machine) : Manifest where
  version := currentVersion
  summary := machine.summary
  scope := machine.scope
  pattern := machine.pattern
  bound := machine.bound
  initial := machine.initial
  states := machine.states
  capacity := machine.capacity
  isCorrelated := machine.isCorrelated
  topics := machine.table.topics.map fun entry =>
    { topic := entry.1
      messageTypes := entry.2.messageTypes
      states := entry.2.states }
  reactions := machine.table.rules.flatMap fun entry =>
    entry.2.flatMap fun bucket => bucketOf entry.1 bucket.1 bucket.2
  deadlines := machine.deadlines

/-- The entries for a topic and a state. -/
def bucket (manifest : Manifest) (topic : String) (state : State) : List Entry :=
  manifest.reactions.filter fun entry => entry.topic == topic && entry.state == state

def Topic.toJson (topic : Topic) : Json :=
  .object ([("topic", .string topic.topic)] ++
    Json.listMember "message_types" .string topic.messageTypes ++
    [("states", .array (topic.states.map State.toJson))])

def Topic.ofJson? (document : Json) : Option Topic := do
  let fields ← document.fields? ["topic", "message_types", "states"]
  some {
    topic := ← fields.required "topic" Json.string?
    messageTypes := ← fields.orDefault "message_types" [] (Json.list? Json.string?)
    states := ← fields.required "states" (Json.list? State.ofJson?) }

def Entry.toJson (entry : Entry) : Json :=
  let reaction := entry.reaction
  .object ([("topic", .string entry.topic), ("state", entry.state.toJson),
      ("order", .int entry.order), ("role", .string entry.role.name)] ++
    Json.optionalMember "alias" .string entry.alias? ++
    Json.listMember "references" .string entry.references ++
    [("guard", .string reaction.guard.name), ("buffer", .string reaction.pool.name),
      ("witness", .string reaction.witness.name), ("scope", .string reaction.scope.name)] ++
    Json.optionalMember "verdict" .bool reaction.verdict? ++
    [("next", reaction.next.toJson)])

def Entry.ofJson? (document : Json) : Option Entry := do
  let fields ← document.fields? ["topic", "state", "order", "role", "alias", "references",
    "guard", "buffer", "witness", "scope", "verdict", "next"]
  some {
    topic := ← fields.required "topic" Json.string?
    state := ← fields.required "state" State.ofJson?
    order := ← fields.required "order" (Json.word? 64)
    role := ← fields.required "role" fun document => document.choice? Role.all Role.name
    alias? := ← fields.orDefault "alias" none (Json.nullable? Json.string?)
    references := ← fields.orDefault "references" [] (Json.list? Json.string?)
    reaction := {
      guard := ← fields.required "guard" fun document => document.choice? Guard.all Guard.name
      pool := ← fields.required "buffer" fun document =>
        document.choice? PoolAction.all PoolAction.name
      witness := ← fields.required "witness" fun document =>
        document.choice? WitnessAction.all WitnessAction.name
      scope := ← fields.required "scope" fun document =>
        document.choice? ScopeAction.all ScopeAction.name
      verdict? := ← fields.orDefault "verdict" none (Json.nullable? Json.bool?)
      next := ← fields.required "next" Next.ofJson? } }

def bufferToJson (capacity : Capacity) (isCorrelated : Bool) : Json :=
  .object [("capacity", .string capacity.name), ("correlated", .bool isCorrelated)]

def bufferOfJson? (document : Json) : Option (Capacity × Bool) := do
  let fields ← document.fields? ["capacity", "correlated"]
  some (← fields.required "capacity" fun document =>
      document.choice? Capacity.all Capacity.name,
    ← fields.required "correlated" Json.bool?)

/-- The state of a deadline stands among the members of the deadline. -/
def deadlineToJson (entry : State × Deadline) : Json :=
  .object (("state", entry.1.toJson) :: entry.2.members)

/-- An object, since members are not given by position here. All members but the state are set
aside. -/
def deadlineOfJson? (document : Json) : Option (State × Deadline) :=
  match document with
  | .object members => do
      let fields ← document.fields? ["state", "anchor", "effect"]
      if (Json.object (members.filter fun member => member.1 != "state")).isReadable then
        some (← fields.required "state" State.ofJson?, ← Deadline.ofFields? .deferred fields)
      else none
  | _ => none

/-- There is no document if the bound has none. -/
def toJson? (manifest : Manifest) : Option Json :=
  manifest.bound.toJson?.map fun bound => .object [
    ("version", .int manifest.version),
    ("meta", manifest.summary.toJson),
    ("scope", .string manifest.scope.name),
    ("pattern", .string manifest.pattern.name),
    ("bound", bound),
    ("initial", manifest.initial.toJson),
    ("states", .array (manifest.states.map State.toJson)),
    ("buffer", bufferToJson manifest.capacity manifest.isCorrelated),
    ("topics", .array (manifest.topics.map Topic.toJson)),
    ("reactions", .array (manifest.reactions.map Entry.toJson)),
    ("timers", .array (manifest.deadlines.map deadlineToJson))]

def ofJson? (document : Json) : Option Manifest := do
  let fields ← document.fields? ["version", "meta", "scope", "pattern", "bound", "initial",
    "states", "buffer", "topics", "reactions", "timers"]
  let (capacity, isCorrelated) ← fields.required "buffer" bufferOfJson?
  some {
    version := ← fields.required "version" (Json.word? 32)
    summary := ← fields.required "meta" Summary.ofJson?
    scope := ← fields.required "scope" fun document =>
      document.choice? ScopeKind.all ScopeKind.name
    pattern := ← fields.required "pattern" fun document =>
      document.choice? PatternKind.all PatternKind.name
    bound := ← fields.required "bound" Bound.ofJson?
    initial := ← fields.required "initial" State.ofJson?
    states := ← fields.required "states" (Json.list? State.ofJson?)
    capacity := capacity
    isCorrelated := isCorrelated
    topics := ← fields.required "topics" (Json.list? Topic.ofJson?)
    reactions := ← fields.required "reactions" (Json.list? Entry.ofJson?)
    deadlines := ← fields.required "timers" (Json.list? deadlineOfJson?) }

/-- The text of a manifest, on one line or indented. -/
def text (manifest : Manifest) (isPretty : Bool) : Except Error String :=
  match manifest.toJson? with
  | some document => .ok (if isPretty then document.pretty else document.compact)
  | none => .error (.internal "serialize manifest: duration overflows microseconds")

/-- Why a text is not read as a manifest. -/
inductive ReadError where
  | malformed
  | unsupportedVersion (version : Nat)
  deriving DecidableEq, Repr

def ReadError.toError : ReadError → Error
  | malformed => .internal "deserialize manifest: not a manifest"
  | unsupportedVersion version =>
      .internal ("unsupported manifest version " ++ toString version ++ " (expected " ++
        toString currentVersion ++ ")")

/-- Reads a manifest of the current version. -/
def ofText (text : String) : Except ReadError Manifest :=
  match (Json.parse? text).bind ofJson? with
  | none => .error .malformed
  | some manifest =>
    if manifest.version = currentVersion then .ok manifest
    else .error (.unsupportedVersion manifest.version)

end Manifest

end TemporalMonitor
