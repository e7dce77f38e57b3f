import TemporalMonitor.Machine.Manifest
import TemporalMonitor.Proofs.Json.Records
import TemporalMonitor.Proofs.Machine.Rules

/-!
The manifest of a machine is read back from its text.

Each part of a manifest is a record, a choice or a list of such parts, and its document holds it. A
bound is stored in microseconds and the place of a rule in 64 bits; these are the only parts whose
documents may not hold them.
-/

namespace TemporalMonitor

open Json

section Names

theorem State.names : Names State.all State.name :=
  ⟨fun state => by cases state <;> decide, by decide⟩

theorem ScopeKind.names : Names ScopeKind.all ScopeKind.name :=
  ⟨fun kind => by cases kind <;> decide, by decide⟩

theorem PatternKind.names : Names PatternKind.all PatternKind.name :=
  ⟨fun kind => by cases kind <;> decide, by decide⟩

theorem Capacity.names : Names Capacity.all Capacity.name :=
  ⟨fun capacity => by cases capacity <;> decide, by decide⟩

theorem Role.names : Names Role.all Role.name :=
  ⟨fun role => by cases role <;> decide, by decide⟩

theorem Guard.names : Names Guard.all Guard.name :=
  ⟨fun guard => by cases guard <;> decide, by decide⟩

theorem PoolAction.names : Names PoolAction.all PoolAction.name :=
  ⟨fun action => by cases action <;> decide, by decide⟩

theorem WitnessAction.names : Names WitnessAction.all WitnessAction.name :=
  ⟨fun action => by cases action <;> decide, by decide⟩

theorem ScopeAction.names : Names ScopeAction.all ScopeAction.name :=
  ⟨fun action => by cases action <;> decide, by decide⟩

theorem Anchor.names : Names Anchor.all Anchor.name :=
  ⟨fun anchor => by cases anchor <;> decide, by decide⟩

end Names

variable (limit : Nat)

theorem State.faithful (manner : Manner) (state : State) :
    Faithful limit (State.read? manner) state.toJson state :=
  State.names.faithful limit manner state

theorem State.faithful_direct (state : State) : Faithful limit State.ofJson? state.toJson state :=
  State.faithful limit .direct state

namespace Next

def kind : Next → String
  | stay => "stay"
  | goto _ => "to"
  | drain _ _ => "drain"

def table : Next → Table
  | stay => ⟨[], by simp⟩
  | goto state => ⟨[("state", some state.toJson)], by simp⟩
  | drain empty otherwise =>
      ⟨[("empty", some empty.toJson), ("otherwise", some otherwise.toJson)], by simp⟩

theorem toJson_eq (next : Next) : next.toJson = next.table.tagged "type" next.kind := by
  cases next <;> rfl

theorem legible_table (next : Next) : Legible (limit + 1) next.table.document := by
  apply Table.legible
  cases next <;> simp [table, State.toJson]

theorem faithful (next : Next) : Faithful (limit + 1) ofJson? next.toJson next := by
  have legible := next.legible_table limit
  have untagged : "type" ∉ next.table.parts.map Prod.fst := by cases next <;> simp [table]
  have state := State.faithful limit .deferred
  rw [toJson_eq]
  refine ⟨Table.legible_tagged legible "type" next.kind, ?_⟩
  rw [ofJson?, Table.tagged_tagged legible untagged]
  cases next with
  | stay => rfl
  | goto target =>
      simp only [kind, Table.fields_document, bind, Option.bind,
        (goto target).table.required_fields "state" rfl (state target)]
  | drain empty otherwise =>
      simp only [kind, Table.fields_document, bind, Option.bind,
        (drain empty otherwise).table.required_fields "empty" rfl (state empty),
        (drain empty otherwise).table.required_fields "otherwise" rfl (state otherwise)]

end Next

namespace DeadlineEffect

def kind : DeadlineEffect → String
  | evict => "evict"
  | transition _ _ _ => "transition"

def table : DeadlineEffect → Table
  | evict => ⟨[], by simp⟩
  | transition witness verdict? next =>
      ⟨[("witness", some (.string witness.name)), ("verdict", some (ofOption .bool verdict?)),
        ("next", some next.toJson)], by simp⟩

theorem toJson_eq (effect : DeadlineEffect) :
    effect.toJson = effect.table.tagged "type" effect.kind := by
  cases effect <;> rfl

theorem legible_table (effect : DeadlineEffect) : Legible (limit + 1) effect.table.document := by
  apply Table.legible
  cases effect with
  | evict => simp [table]
  | transition witness verdict? next => cases verdict? <;> simp [table, State.toJson, ofOption]

theorem faithful (manner : Manner) (effect : DeadlineEffect) :
    Faithful (limit + 1) (read? manner) effect.toJson effect := by
  have legible := effect.legible_table limit
  have untagged : "type" ∉ effect.table.parts.map Prod.fst := by cases effect <;> simp [table]
  rw [toJson_eq]
  refine ⟨Table.legible_tagged legible "type" effect.kind, ?_⟩
  rw [read?, Table.tagged_tagged legible untagged]
  cases effect with
  | evict => rfl
  | transition witness verdict? next =>
      have verdict : nullable? bool? (ofOption .bool verdict?) = some verdict? := by
        cases verdict? <;> rfl
      simp only [kind, Table.fields_document, bind, Option.bind,
        (transition witness verdict? next).table.required_fields "witness" rfl
          (WitnessAction.names.faithful limit .deferred witness),
        (transition witness verdict? next).table.nullable_fields "verdict" rfl, verdict,
        (transition witness verdict? next).table.required_fields "next" rfl
          (State.faithful limit .deferred next)]

end DeadlineEffect

namespace Summary

def table (summary : Summary) : Table where
  parts := [("id", summary.id?.map .string), ("title", summary.title?.map .string),
    ("description", summary.description?.map .string),
    ("source_text", summary.sourceText?.map .string)]
  distinct := by simp

theorem toJson_eq (summary : Summary) : summary.toJson = summary.table.document := by
  obtain ⟨id?, title?, description?, sourceText?⟩ := summary
  cases id? <;> cases title? <;> cases description? <;> cases sourceText? <;> rfl

theorem faithful (summary : Summary) :
    Faithful (limit + 1) ofJson? summary.toJson summary := by
  rw [toJson_eq]
  refine ⟨Table.legible (by simp [table]), ?_⟩
  simp only [ofJson?, Table.fields_document, bind, Option.bind,
    summary.table.optional_fields "id" rfl nullable_string,
    summary.table.optional_fields "title" rfl nullable_string,
    summary.table.optional_fields "description" rfl nullable_string,
    summary.table.optional_fields "source_text" rfl nullable_string]

end Summary

theorem Duration.micros_ofMicros (micros : Int64) :
    (Duration.ofMicros micros.toInt).micros? = some micros := by
  have whole : (micros.toInt * 1000).tdiv 1000 = micros.toInt :=
    Int.mul_tdiv_cancel _ (by decide)
  rw [micros?, ofMicros, whole, if_pos ⟨micros.minValue_le_toInt, micros.toInt_le⟩,
    Int64.ofInt_toInt]

theorem Json.faithful_word {width n : Nat} (narrow : n < Nat.pow 2 width)
    (word : n < UInt64.size) : Faithful limit (word? width) (.int n) n := by
  have low : Int64.minValue.toInt ≤ (n : Int) := by
    have : Int64.minValue.toInt ≤ 0 := by decide
    omega
  refine ⟨.int ⟨low, by omega⟩, ?_⟩
  simp only [word?, intWithin?]
  rw [if_pos (by omega), Option.map_some, Int.toNat_natCast]

/-- A bound is held if it is a whole number of microseconds in 64 bits. -/
theorem Bound.faithful {bound : Bound}
    (whole : ∀ span, bound = .within span → ∃ micros : Int64, span = .ofMicros micros.toInt) :
    ∃ document, bound.toJson? = some document ∧
      Faithful (limit + 1) Bound.ofJson? document bound := by
  cases bound with
  | unbounded => exact ⟨_, rfl, .object (by simp), rfl⟩
  | within span =>
      obtain ⟨micros, rfl⟩ := whole span rfl
      have stored := faithful_int64 limit micros
      refine ⟨.object [("type", .string "within"), ("micros", .int micros.toInt)], ?_, ?_, ?_⟩
      · rw [toJson?, Duration.micros_ofMicros]
        rfl
      · exact .object (by simp [stored.legible])
      · have apart : (object [("type", string "within"), ("micros", int micros.toInt)]).beside?
            "type" "micros" = some ("within", some (int micros.toInt)) := rfl
        rw [ofJson?, apart]
        simp only [bind, Option.bind, stored.decoded, Option.map_some]

namespace Manifest

namespace Topic

def table (topic : Topic) : Table where
  parts := [("topic", some (.string topic.topic)),
    ("message_types", unlessEmpty .string topic.messageTypes),
    ("states", some (.array (topic.states.map State.toJson)))]
  distinct := by simp

theorem toJson_eq (topic : Topic) : topic.toJson = topic.table.document := by
  obtain ⟨topic, messageTypes, states⟩ := topic
  cases messageTypes <;> rfl

theorem faithful (topic : Topic) : Faithful (limit + 2) ofJson? topic.toJson topic := by
  have states := faithful_list fun state (_ : state ∈ topic.states) => state.faithful_direct limit
  have types : ∀ document ∈ unlessEmpty .string topic.messageTypes, Legible (limit + 1) document :=
    legible_unlessEmpty fun text _ => .string text
  rw [toJson_eq]
  refine ⟨Table.legible (by simpa [table] using ⟨types, states.legible⟩), ?_⟩
  simp only [ofJson?, Table.fields_document, bind, Option.bind,
    topic.table.required_fields "topic" rfl (faithful_string limit topic.topic),
    topic.table.list_fields "message_types" rfl fun text _ => faithful_string limit text,
    topic.table.required_fields "states" rfl states]

end Topic

namespace Entry

def table (entry : Entry) : Table where
  parts := [("topic", some (.string entry.topic)), ("state", some entry.state.toJson),
    ("order", some (.int entry.order)), ("role", some (.string entry.role.name)),
    ("alias", entry.alias?.map .string), ("references", unlessEmpty .string entry.references),
    ("guard", some (.string entry.reaction.guard.name)),
    ("buffer", some (.string entry.reaction.pool.name)),
    ("witness", some (.string entry.reaction.witness.name)),
    ("scope", some (.string entry.reaction.scope.name)),
    ("verdict", entry.reaction.verdict?.map .bool), ("next", some entry.reaction.next.toJson)]
  distinct := by simp

theorem toJson_eq (entry : Entry) : entry.toJson = entry.table.document := by
  obtain ⟨topic, state, order, role, alias?, references, reaction⟩ := entry
  obtain ⟨guard, pool, witness, scope, verdict?, next⟩ := reaction
  cases alias? <;> cases references <;> cases verdict? <;> rfl

theorem faithful {entry : Entry} (placed : entry.order < UInt64.size) :
    Faithful (limit + 2) ofJson? entry.toJson entry := by
  have order : Faithful (limit + 1) (word? 64) (.int entry.order) entry.order :=
    faithful_word (limit + 1) placed placed
  have next := entry.reaction.next.faithful limit
  have references : ∀ document ∈ unlessEmpty .string entry.references,
      Legible (limit + 1) document := legible_unlessEmpty fun text _ => .string text
  rw [toJson_eq]
  refine ⟨Table.legible ?_, ?_⟩
  · simpa [table, State.toJson, -Bool.exists_bool, -Bool.forall_bool] using
      ⟨order.legible, references, next.legible⟩
  simp only [ofJson?, Table.fields_document, bind, Option.bind,
    entry.table.required_fields "topic" rfl (faithful_string limit entry.topic),
    entry.table.required_fields "state" rfl (entry.state.faithful_direct limit),
    entry.table.required_fields "order" rfl order,
    entry.table.required_fields "role" rfl (Role.names.faithful limit .direct entry.role),
    entry.table.optional_fields "alias" rfl nullable_string,
    entry.table.list_fields "references" rfl fun text _ => faithful_string limit text,
    entry.table.required_fields "guard" rfl
      (Guard.names.faithful limit .direct entry.reaction.guard),
    entry.table.required_fields "buffer" rfl
      (PoolAction.names.faithful limit .direct entry.reaction.pool),
    entry.table.required_fields "witness" rfl
      (WitnessAction.names.faithful limit .direct entry.reaction.witness),
    entry.table.required_fields "scope" rfl
      (ScopeAction.names.faithful limit .direct entry.reaction.scope),
    entry.table.optional_fields "verdict" rfl nullable_bool,
    entry.table.required_fields "next" rfl next]

end Entry

def bufferTable (capacity : Capacity) (isCorrelated : Bool) : Table where
  parts := [("capacity", some (.string capacity.name)), ("correlated", some (.bool isCorrelated))]
  distinct := by simp

theorem faithful_buffer (capacity : Capacity) (isCorrelated : Bool) :
    Faithful (limit + 1) bufferOfJson? (bufferToJson capacity isCorrelated)
      (capacity, isCorrelated) := by
  show Faithful (limit + 1) bufferOfJson? (bufferTable capacity isCorrelated).document _
  refine ⟨Table.legible (by simp [bufferTable]), ?_⟩
  simp only [bufferOfJson?, Table.fields_document, bind, Option.bind,
    (bufferTable capacity isCorrelated).required_fields "capacity" rfl
      (Capacity.names.faithful limit .direct capacity),
    (bufferTable capacity isCorrelated).required_fields "correlated" rfl
      (faithful_bool limit isCorrelated)]

def deadlineTable (entry : State × Deadline) : Table where
  parts := [("state", some entry.1.toJson), ("anchor", some (.string entry.2.anchor.name)),
    ("effect", some entry.2.effect.toJson)]
  distinct := by simp

theorem faithful_deadline (entry : State × Deadline) :
    Faithful (limit + 2) deadlineOfJson? (deadlineToJson entry) entry := by
  have effect := entry.2.effect.faithful limit .deferred
  have legible : Legible (limit + 2) (deadlineTable entry).document :=
    Table.legible (by simpa [deadlineTable, State.toJson] using effect.legible)
  refine ⟨legible, ?_⟩
  show (do
    let fields ← (deadlineTable entry).document.fields? ["state", "anchor", "effect"]
    if (object ((given (deadlineTable entry).parts).filter
        fun member => member.1 != "state")).isReadable then
      some (← fields.required "state" State.ofJson?, ← Deadline.ofFields? .deferred fields)
    else none) = some entry
  simp only [Table.fields_document, Table.isReadable_filter legible, Deadline.ofFields?, bind,
    Option.bind, if_true,
    (deadlineTable entry).required_fields "state" rfl (entry.1.faithful_direct limit),
    (deadlineTable entry).required_fields "anchor" rfl
      (Anchor.names.faithful limit .deferred entry.2.anchor),
    (deadlineTable entry).required_fields "effect" rfl effect]

/-- The document of the bound is not part of the manifest. -/
def table (manifest : Manifest) (bound : Json) : Table where
  parts := [("version", some (.int manifest.version)), ("meta", some manifest.summary.toJson),
    ("scope", some (.string manifest.scope.name)),
    ("pattern", some (.string manifest.pattern.name)), ("bound", some bound),
    ("initial", some manifest.initial.toJson),
    ("states", some (.array (manifest.states.map State.toJson))),
    ("buffer", some (bufferToJson manifest.capacity manifest.isCorrelated)),
    ("topics", some (.array (manifest.topics.map Topic.toJson))),
    ("reactions", some (.array (manifest.reactions.map Entry.toJson))),
    ("timers", some (.array (manifest.deadlines.map deadlineToJson)))]
  distinct := by simp

/-- A manifest is held if its version, its bound and the places of its entries are. -/
theorem faithful (manifest : Manifest) (versioned : manifest.version < UInt32.size)
    (whole : ∀ span, manifest.bound = .within span →
      ∃ micros : Int64, span = .ofMicros micros.toInt)
    (placed : ∀ entry ∈ manifest.reactions, entry.order < UInt64.size) :
    ∃ document, manifest.toJson? = some document ∧
      Faithful (limit + 4) ofJson? document manifest := by
  -- The bound is the only part that may have no document.
  obtain ⟨stored, written, bound⟩ := Bound.faithful (limit + 2) whole
  have version : Faithful (limit + 3) (word? 32) (.int manifest.version) manifest.version :=
    faithful_word _ versioned (Nat.lt_trans versioned (by decide))
  have summary := manifest.summary.faithful (limit + 2)
  have buffer := faithful_buffer (limit + 2) manifest.capacity manifest.isCorrelated
  have states := faithful_list fun state (_ : state ∈ manifest.states) =>
    state.faithful_direct (limit + 2)
  have topics := faithful_list fun topic (_ : topic ∈ manifest.topics) => topic.faithful limit
  have reactions := faithful_list fun entry mem => Entry.faithful limit (placed entry mem)
  have deadlines := faithful_list fun entry (_ : entry ∈ manifest.deadlines) =>
    faithful_deadline limit entry
  refine ⟨(manifest.table stored).document, ?_, Table.legible ?_, ?_⟩
  · rw [toJson?, written]
    rfl
  · simpa [table, State.toJson] using ⟨version.legible, summary.legible, bound.legible,
      states.legible, buffer.legible, topics.legible, reactions.legible, deadlines.legible⟩
  · simp only [ofJson?, Table.fields_document, bind, Option.bind,
      (manifest.table stored).required_fields "buffer" rfl buffer,
      (manifest.table stored).required_fields "version" rfl version,
      (manifest.table stored).required_fields "meta" rfl summary,
      (manifest.table stored).required_fields "scope" rfl
        (ScopeKind.names.faithful limit .direct manifest.scope),
      (manifest.table stored).required_fields "pattern" rfl
        (PatternKind.names.faithful limit .direct manifest.pattern),
      (manifest.table stored).required_fields "bound" rfl bound,
      (manifest.table stored).required_fields "initial" rfl
        (manifest.initial.faithful_direct limit),
      (manifest.table stored).required_fields "states" rfl states,
      (manifest.table stored).required_fields "topics" rfl topics,
      (manifest.table stored).required_fields "reactions" rfl reactions,
      (manifest.table stored).required_fields "timers" rfl deadlines]

/-- A rule has a place among all rules of the machine. -/
theorem order_lt {machine : Machine} {entry : Entry}
    (mem : entry ∈ (ofMachine machine).reactions) : entry.order < machine.ruleCount := by
  rw [ofMachine_reactions] at mem
  simp only [bucketOf, List.mem_flatMap, List.mem_map] at mem
  obtain ⟨topic, _, state, _, ⟨rule, order⟩, placed, rfl⟩ := mem
  calc order < (machine.rulesAt topic state).length := List.snd_lt_of_mem_zipIdx placed
    _ ≤ machine.ruleCount := by
        rw [Machine.rulesAt_eq, rulesFor, List.length_map, Machine.ruleCount_eq]
        exact List.length_filter_le _ _

/-- If the bound is a whole number of microseconds, the manifest can be written, on one line or
indented, and its text is read as that manifest. -/
theorem ofText_text {property : Property} {machine : Machine}
    (compiled : property.compile = .ok machine)
    (whole : ∀ span, property.pattern.bound = .within span →
      ∃ micros : Int64, span = .ofMicros micros.toInt)
    (few : machine.ruleCount < UInt64.size) (isPretty : Bool) :
    ∃ text, (ofMachine machine).text isPretty = .ok text ∧
      ofText text = .ok (ofMachine machine) := by
  obtain ⟨_, core, _, rfl⟩ := property.compile_cases compiled
  have placed : ∀ entry ∈ (ofMachine (property.assemble core)).reactions,
      entry.order < UInt64.size := fun entry mem => Nat.lt_trans (order_lt mem) few
  obtain ⟨document, written, held⟩ :=
    faithful 123 (ofMachine (property.assemble core)) (show 1 < UInt32.size by decide) whole
      placed
  have parsed := held.legible.parse_text (if isPretty then .indented else .tight)
  refine ⟨document.text (if isPretty then .indented else .tight), ?_, ?_⟩
  · rw [text, written]
    cases isPretty <;> rfl
  · simp only [ofText, parsed, Option.bind_some, held.decoded]
    rfl

end Manifest

/-- Nothing is said for a second and a half after a greeting, on topics with unusual names. -/
def Property.hushed : Property where
  summary := { title? := some "\x22hush\x22\n\x07", description? := some "тишина \\ 静けさ" }
  scope := .after { branches := [{ topic := "/привет", messageType? := some "std\x00msg" }] }
  pattern := .absence { branches := [{ topic := "\tsay" }, { topic := "/привет" }] }
    (.within (.ofMicros 1500000))

theorem Manifest.ofText_text_hushed :
    ∃ machine, Property.hushed.compile = .ok machine ∧ machine.ruleCount = 3 ∧
      ∀ isPretty, ∃ text, (ofMachine machine).text isPretty = .ok text ∧
        ofText text = .ok (ofMachine machine) := by
  refine ⟨_, rfl, rfl, fun isPretty => ?_⟩
  refine ofText_text (show Property.hushed.compile = _ from rfl) ?_ (by decide) isPretty
  rintro span ⟨⟩
  exact ⟨1500000, by decide⟩

end TemporalMonitor
