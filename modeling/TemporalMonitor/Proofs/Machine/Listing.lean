import TemporalMonitor.Proofs.Machine.Table
import TemporalMonitor.Proofs.Machine.Tabulation

/-!
The manifest of a machine lists all of its rules.

The rules are listed topic by topic, and those of a topic state by state. No topic and no state comes
twice, so the entries for a topic and a state are those of one part of the list, and the parts
together hold each rule once.
-/

namespace TemporalMonitor

/-- The items with a key are those of its part. -/
theorem filter_parts {κ α : Type} [DecidableEq κ] {keys : List κ} (distinct : keys.Nodup)
    (key : α → κ) {part : κ → List α} (own : ∀ k, ∀ item ∈ part k, key item = k) (wanted : κ) :
    (keys.flatMap part).filter (fun item => key item == wanted) =
      if wanted ∈ keys then part wanted else [] := by
  induction keys with
  | nil => rfl
  | cons first rest ih =>
      obtain ⟨fresh, others⟩ := List.nodup_cons.mp distinct
      rw [List.flatMap_cons, List.filter_append, ih others]
      by_cases same : wanted = first
      · subst same
        have whole : (part wanted).filter (fun item => key item == wanted) = part wanted :=
          List.filter_eq_self.mpr fun item member => beq_iff_eq.mpr (own wanted item member)
        rw [whole, if_neg fresh, if_pos List.mem_cons_self, List.append_nil]
      · have nothing : (part first).filter (fun item => key item == wanted) = [] :=
          List.filter_eq_nil_iff.mpr fun item member found =>
            same ((beq_iff_eq.mp found).symm.trans (own first item member))
        rw [nothing, List.nil_append]
        simp only [List.mem_cons, same, false_or]

namespace Machine

variable (machine : Machine)

/-- A topic is listed if some rule is for it. -/
theorem mem_topics (topic : String) :
    topic ∈ machine.topics ↔ ∃ state, machine.rulesAt topic state ≠ [] := by
  rw [topics_eq, Ordered.mem_ofItems, List.mem_map]
  constructor
  · rintro ⟨placement, listed, onTopic⟩
    exact ⟨placement.state,
      List.ne_nil_of_mem (mem_rulesAt.mpr ⟨placement, listed, rfl, onTopic, rfl⟩)⟩
  · rintro ⟨state, some⟩
    obtain ⟨rule, member⟩ := List.exists_mem_of_ne_nil _ some
    obtain ⟨placement, listed, rfl, onTopic, _⟩ := mem_rulesAt.mp member
    exact ⟨placement, listed, onTopic⟩

end Machine

/-- Each state has one deadline at most. -/
theorem Property.core_deadlines_nodup {property : Property} {core : Core}
    (made : property.pattern.core property.scope.kind.isReentrant = .ok core) :
    (core.deadlines.map Prod.fst).Nodup := by
  have single (bound : Bound) (state : State) (deadline : Deadline) :
      ((Core.deadlineIf bound state deadline).map Prod.fst).Nodup := by
    unfold Core.deadlineIf
    split
    · exact List.nodup_singleton _
    · exact List.nodup_nil
  cases hasCore made with
  | absence => exact single _ _ _
  | existence => exact single _ _ _
  | simpleRequirement => exact List.nodup_nil
  | pooledRequirement => exact single _ _ _
  | response => exact single _ _ _

namespace Manifest

/-- The entry tells all there is to tell about a rule that applies in a state. -/
structure Entry.Shows (entry : Entry) (state : State) (rule : Rule) : Prop where
  topic : entry.topic = rule.topic
  state : entry.state = state
  role : entry.role = rule.role
  alias? : entry.alias? = rule.alias?
  references : entry.references = rule.predicate.references
  reaction : entry.reaction = rule.reaction

/-- The manifest lists what the machine has. -/
structure Lists (manifest : Manifest) (machine : Machine) : Prop where
  /-- One entry for each rule, in the order in which they are tried. -/
  entries : ∀ topic state, List.Forall₂ (fun entry rule => Entry.Shows entry state rule)
    (manifest.bucket topic state) (machine.rulesAt topic state)
  orders : ∀ topic state, (manifest.bucket topic state).map Entry.order =
    List.range (machine.rulesAt topic state).length
  count : manifest.reactions.length = machine.ruleCount
  topics : ∀ topic, topic ∈ manifest.topics ↔ machine.listensTo topic.topic = true ∧
    topic.messageTypes = machine.messageTypesOf topic.topic ∧
    topic.states = machine.statesOf topic.topic
  topicsOnce : (manifest.topics.map Topic.topic).Nodup
  deadlines : ∀ state deadline, (state, deadline) ∈ manifest.deadlines ↔
    machine.deadline? state = some deadline
  deadlinesOnce : (manifest.deadlines.map Prod.fst).Nodup

section Bucket

variable (machine : Machine)

theorem topic_of_mem_bucketOf {topic : String} {state : State} {rules : List Rule} {entry : Entry}
    (member : entry ∈ bucketOf topic state rules) : entry.topic = topic ∧ entry.state = state := by
  obtain ⟨_, _, rfl⟩ := List.mem_map.mp member
  exact ⟨rfl, rfl⟩

/-- What is found for a topic and a state has been listed for them. -/
theorem bucket_eq (topic : String) (state : State) :
    (ofMachine machine).bucket topic state =
      bucketOf topic state (machine.rulesAt topic state) := by
  let part (topic : String) (state : State) := bucketOf topic state (machine.rulesAt topic state)
  have ofTopic (other : String) (entry : Entry)
      (member : entry ∈ (machine.statesOf other).flatMap (part other)) : entry.topic = other := by
    obtain ⟨_, _, listed⟩ := List.mem_flatMap.mp member
    exact (topic_of_mem_bucketOf listed).1
  have ofState (other : State) (entry : Entry) (member : entry ∈ part topic other) :
      entry.state = other :=
    (topic_of_mem_bucketOf member).2
  have empty (vacant : machine.rulesAt topic state = []) : part topic state = [] := by
    simp only [part, vacant]
    rfl
  calc (ofMachine machine).bucket topic state
      = ((machine.topics.flatMap fun other => (machine.statesOf other).flatMap (part other)).filter
          fun entry => entry.topic == topic).filter fun entry => entry.state == state := by
        rw [bucket, ofMachine_reactions, List.filter_filter]
        simp only [Bool.and_comm, part]
    _ = (if topic ∈ machine.topics then (machine.statesOf topic).flatMap (part topic)
          else []).filter fun entry => entry.state == state := by
        rw [filter_parts machine.topics_nodup Entry.topic ofTopic]
    _ = part topic state := by
        split
        · rw [filter_parts (machine.statesOf_nodup topic) Entry.state ofState]
          split
          · rfl
          · next unlisted =>
              exact (empty (not_not.mp fun some =>
                unlisted ((machine.mem_statesOf topic state).mpr some))).symm
        · next unlisted =>
            exact (empty (not_not.mp fun some =>
              unlisted ((machine.mem_topics topic).mpr ⟨state, some⟩))).symm

theorem shows_bucketOf (topic : String) (state : State) :
    List.Forall₂ (fun entry rule => Entry.Shows entry state rule)
      (bucketOf topic state (machine.rulesAt topic state)) (machine.rulesAt topic state) := by
  have onTopic : ∀ rule ∈ machine.rulesAt topic state, rule.topic = topic := fun rule member =>
    (Machine.mem_rulesAt.mp member).choose_spec.2.2.1
  rw [bucketOf]
  generalize machine.rulesAt topic state = rules at onTopic
  -- The place of the first rule is any number, since it grows with the induction.
  suffices placed : ∀ start, List.Forall₂ (fun entry rule => Entry.Shows entry state rule)
      ((rules.zipIdx start).map fun placed => Entry.ofRule topic state placed.1 placed.2) rules from
    placed 0
  induction rules with
  | nil => exact fun _ => .nil
  | cons rule rest ih =>
      intro start
      rw [List.zipIdx_cons, List.map_cons]
      have here : topic = rule.topic := (onTopic rule List.mem_cons_self).symm
      exact .cons ⟨here, rfl, rfl, rfl, rfl, rfl⟩
        (ih (fun other member => onTopic other (List.mem_cons_of_mem _ member)) (start + 1))

theorem orders_bucketOf (topic : String) (state : State) (rules : List Rule) :
    (bucketOf topic state rules).map Entry.order = List.range rules.length := by
  rw [bucketOf, List.map_map, List.range_eq_range', ← List.zipIdx_map_snd]
  rfl

/-- There are as many entries as rules. -/
theorem length_reactions : (ofMachine machine).reactions.length = machine.ruleCount := by
  simp only [ofMachine, bucketOf, Machine.ruleCount, List.length_flatMap, List.length_map,
    List.length_zipIdx]

theorem mem_topics_ofMachine (topic : Topic) :
    topic ∈ (ofMachine machine).topics ↔ machine.listensTo topic.topic = true ∧
      topic.messageTypes = machine.messageTypesOf topic.topic ∧
      topic.states = machine.statesOf topic.topic := by
  rw [ofMachine_topics, List.mem_map, Machine.listensTo_iff]
  constructor
  · rintro ⟨name, listed, rfl⟩
    exact ⟨listed, rfl, rfl⟩
  · rintro ⟨listed, types, states⟩
    refine ⟨topic.topic, listed, ?_⟩
    rw [← types, ← states]

end Bucket

/-- The manifest of a compiled machine lists every rule in its place, and every topic and every
deadline once. -/
theorem lists_compiled {property : Property} {machine : Machine}
    (compiled : property.compile = .ok machine) : (ofMachine machine).Lists machine := by
  obtain ⟨_, core, made, rfl⟩ := property.compile_cases compiled
  exact {
    entries := fun topic state => by
      rw [bucket_eq]
      exact shows_bucketOf _ topic state
    orders := fun topic state => by
      rw [bucket_eq]
      exact orders_bucketOf topic state _
    count := length_reactions _
    topics := mem_topics_ofMachine _
    topicsOnce := by
      rw [ofMachine_topics, List.map_map]
      exact (List.map_id _).symm ▸ Machine.topics_nodup _
    deadlines := fun state deadline =>
      ⟨fun member => Property.core_deadline made member, Machine.mem_deadlines⟩
    deadlinesOnce := Property.core_deadlines_nodup made }

/-- Four rules for one topic in one state are numbered in the order in which they are tried, among
nine rules for two topics. -/
theorem lists_compiled_crowded :
    ∃ machine, Property.crowded.compile = .ok machine ∧ machine.ruleCount = 9 ∧
      machine.topics = ["data", "stop"] ∧
      ((ofMachine machine).bucket "data" .pending).map Entry.order = [0, 1, 2, 3] ∧
      (ofMachine machine).Lists machine := by
  have lists := lists_compiled (show Property.crowded.compile = _ from rfl)
  exact ⟨_, rfl, rfl, rfl, lists.orders "data" .pending, lists⟩

end Manifest

end TemporalMonitor
