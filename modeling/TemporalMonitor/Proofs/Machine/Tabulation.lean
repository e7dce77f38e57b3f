import Mathlib.Data.String.Basic
import TemporalMonitor.Machine.Manifest
import TemporalMonitor.Proofs.Ordered

/-!
What is looked up in a machine is what was placed in it.

The states, the rules and the topics of a machine are entered into three maps, one placement after
another. Each of the maps is shown to hold what the placements say: the rules under a topic and a
state are those placed for both, in the order of placement, and every other list is the ascending
list of what occurs in the placements.
-/

namespace TemporalMonitor

instance : IsStrictTotalOrder State (· < ·) where
  trichotomous first second notLess notGreater := by
    have same : first.rank = second.rank :=
      Nat.le_antisymm (Nat.not_lt.mp notGreater) (Nat.not_lt.mp notLess)
    cases first <;> cases second <;> first | rfl | cases same
  irrefl state := Nat.lt_irrefl state.rank
  trans _ _ _ := Nat.lt_trans

/-- The rules among the placements for a topic and a state. -/
def rulesFor (placements : List Placement) (topic : String) (state : State) : List Rule :=
  (placements.filter fun placement =>
    placement.rule.topic == topic && placement.state == state).map Placement.rule

namespace Machine

variable (machine : Machine) (topic : String) (state : State)

/-- Deadlines enter nothing but their states. -/
theorem foldl_addDeadline (deadlines : List (State × Deadline)) (table : Table) :
    deadlines.foldl Table.addDeadline table =
      { table with
        states := Ordered.addAll
          (deadlines.flatMap fun entry => entry.1 :: entry.2.effect.targets) table.states } := by
  induction deadlines generalizing table with
  | nil => rfl
  | cons entry rest ih =>
      rw [List.foldl_cons, ih, List.flatMap_cons, Ordered.addAll, Ordered.addAll, List.foldl_append]
      rfl

theorem table_states :
    machine.table.states = Ordered.ofItems (machine.initial ::
      (machine.placements.flatMap fun placement =>
        placement.state :: placement.rule.reaction.next.targets) ++
      (machine.deadlines.flatMap fun entry => entry.1 :: entry.2.effect.targets)) := by
  have placed (placements : List Placement) (table : Table) :
      (placements.foldl Table.place table).states =
        Ordered.addAll (placements.flatMap fun placement =>
          placement.state :: placement.rule.reaction.next.targets) table.states := by
    rw [Ordered.addAll, List.foldl_flatMap]
    exact (List.foldl_hom Table.states fun _ _ => rfl).symm
  rw [table, foldl_addDeadline]
  dsimp only
  rw [placed, Ordered.ofItems, Ordered.addAll, Ordered.addAll, Ordered.addAll, List.foldl_append,
    List.foldl_cons]
  rfl

theorem table_rules :
    machine.table.rules = Ordered.grouped [] (fun placement : Placement => placement.rule.topic)
      (fun placement => Ordered.update [] placement.state (· ++ [placement.rule]))
      machine.placements := by
  rw [table, foldl_addDeadline]
  exact (List.foldl_hom Table.rules fun _ _ => rfl).symm

theorem table_topics :
    machine.table.topics = Ordered.grouped {} (fun placement : Placement => placement.rule.topic)
      (fun placement info => info.add placement) machine.placements := by
  rw [table, foldl_addDeadline]
  exact (List.foldl_hom Table.topics fun _ _ => rfl).symm

/-- The rules of a topic by their states. -/
def bucketsOn : List (State × List Rule) :=
  Ordered.grouped [] Placement.state (fun placement rules => rules ++ [placement.rule])
    (machine.placements.filter fun placement => placement.rule.topic == topic)

theorem lookup_rules : (machine.table.rules.lookup topic).getD [] = machine.bucketsOn topic := by
  rw [table_rules, Ordered.lookup_grouped]
  rfl

theorem lookup_bucketsOn :
    ((machine.bucketsOn topic).lookup state).getD [] =
      rulesFor machine.placements topic state := by
  have listed (placements : List Placement) (rules : List Rule) :
      placements.foldl (fun rules placement => rules ++ [placement.rule]) rules =
        rules ++ placements.map Placement.rule := by
    induction placements generalizing rules with
    | nil => exact (List.append_nil rules).symm
    | cons placement rest ih => rw [List.foldl_cons, ih, List.append_assoc]; rfl
  rw [bucketsOn, Ordered.lookup_grouped, listed, List.nil_append, List.filter_filter, rulesFor]
  simp only [Bool.and_comm]

theorem rulesAt_eq : machine.rulesAt topic state = rulesFor machine.placements topic state := by
  rw [← lookup_bucketsOn, ← lookup_rules, rulesAt]
  cases machine.table.rules.lookup topic <;> rfl

theorem mem_rulesAt {machine : Machine} {topic : String} {state : State} {rule : Rule} :
    rule ∈ machine.rulesAt topic state ↔
      ∃ placement ∈ machine.placements,
        placement.rule = rule ∧ rule.topic = topic ∧ placement.state = state := by
  rw [rulesAt_eq, rulesFor, List.mem_map]
  constructor
  · rintro ⟨placement, kept, rfl⟩
    obtain ⟨listed, here⟩ := List.mem_filter.mp kept
    rw [Bool.and_eq_true, beq_iff_eq, beq_iff_eq] at here
    exact ⟨placement, listed, rfl, here⟩
  · rintro ⟨placement, listed, rfl, here⟩
    refine ⟨placement, List.mem_filter.mpr ⟨listed, ?_⟩, rfl⟩
    rw [Bool.and_eq_true, beq_iff_eq, beq_iff_eq]
    exact here

theorem topics_eq :
    machine.topics =
      Ordered.ofItems (machine.placements.map fun placement => placement.rule.topic) := by
  rw [topics, table_topics, Ordered.keys_grouped]

theorem topics_nodup : machine.topics.Nodup := by
  rw [topics_eq]
  exact Ordered.nodup_ofItems _

theorem listensTo_iff : machine.listensTo topic = true ↔ topic ∈ machine.topics :=
  Ordered.lookup_isSome_iff _ topic

theorem statesOf_eq :
    machine.statesOf topic = Ordered.ofItems
      ((machine.placements.filter fun placement => placement.rule.topic == topic).map
        Placement.state) := by
  rw [statesOf, table_topics, Ordered.lookup_grouped, Ordered.ofItems, Ordered.addAll,
    List.foldl_map]
  exact (List.foldl_hom TopicInfo.states fun _ _ => rfl).symm

theorem statesOf_nodup : (machine.statesOf topic).Nodup := by
  rw [statesOf_eq]
  exact Ordered.nodup_ofItems _

theorem messageTypesOf_eq :
    machine.messageTypesOf topic = Ordered.ofItems
      ((machine.placements.filter fun placement => placement.rule.topic == topic).filterMap
        Placement.messageType?) := by
  rw [messageTypesOf, table_topics, Ordered.lookup_grouped, Ordered.ofItems, Ordered.addAll,
    List.filterMap_eq_flatMap_toList, List.foldl_flatMap]
  exact (List.foldl_hom TopicInfo.messageTypes fun _ _ => rfl).symm

/-- Every placement counts as one rule. -/
theorem ruleCount_eq : machine.ruleCount = machine.placements.length := by
  have counted (placements : List Placement) (table : Table) :
      ((placements.foldl Table.place table).rules.flatMap fun entry =>
        entry.2.flatMap Prod.snd).length =
      (table.rules.flatMap fun entry => entry.2.flatMap Prod.snd).length + placements.length := by
    induction placements generalizing table with
    | nil => rfl
    | cons placement rest ih =>
        have longer (rules : List Rule) :
            (rules ++ [placement.rule]).length = rules.length + 1 := List.length_append
        have bucket := Ordered.length_update [] id rfl longer placement.state
        have whole := Ordered.length_update []
          (fun buckets : List (State × List Rule) => buckets.flatMap Prod.snd) rfl bucket
          placement.rule.topic table.rules
        rw [List.foldl_cons, ih, List.length_cons, Table.place, whole]
        omega
  rw [ruleCount, table, foldl_addDeadline]
  exact (counted machine.placements _).trans (Nat.zero_add _)

/-- The rules are listed under the same topics. -/
theorem rules_keys : machine.table.rules.map Prod.fst = machine.topics := by
  rw [table_rules, Ordered.keys_grouped, topics_eq]

/-- The rules of a topic are listed under its states. -/
theorem bucketsOn_keys : (machine.bucketsOn topic).map Prod.fst = machine.statesOf topic := by
  rw [bucketsOn, Ordered.keys_grouped, statesOf_eq]

/-- The rules, topic by topic and state by state. -/
theorem table_rules_eq :
    machine.table.rules = machine.topics.map fun topic =>
      (topic, (machine.statesOf topic).map fun state => (state, machine.rulesAt topic state)) := by
  have ascending : Ordered.Ascending machine.table.rules := by
    rw [table_rules]
    exact Ordered.ascending_grouped _ _ _ _
  have buckets (topic : String) : machine.bucketsOn topic =
      (machine.statesOf topic).map fun state => (state, machine.rulesAt topic state) := by
    have inOrder : Ordered.Ascending (machine.bucketsOn topic) := Ordered.ascending_grouped _ _ _ _
    refine (inOrder.eq_map_keys []).trans ?_
    rw [bucketsOn_keys]
    simp only [lookup_bucketsOn, rulesAt_eq]
  refine (ascending.eq_map_keys []).trans ?_
  rw [rules_keys]
  simp only [lookup_rules, buckets]

/-- The topics with what is known of them. -/
theorem table_topics_eq :
    machine.table.topics = machine.topics.map fun topic =>
      (topic, ⟨machine.statesOf topic, machine.messageTypesOf topic⟩) := by
  have ascending : Ordered.Ascending machine.table.topics := by
    rw [table_topics]
    exact Ordered.ascending_grouped _ _ _ _
  exact ascending.eq_map_keys {}

end Machine

namespace Manifest

variable (machine : Machine)

theorem ofMachine_topics :
    (ofMachine machine).topics = machine.topics.map fun topic =>
      { topic := topic
        messageTypes := machine.messageTypesOf topic
        states := machine.statesOf topic } := by
  rw [ofMachine, machine.table_topics_eq, List.map_map]
  rfl

theorem ofMachine_reactions :
    (ofMachine machine).reactions = machine.topics.flatMap fun topic =>
      (machine.statesOf topic).flatMap fun state =>
        bucketOf topic state (machine.rulesAt topic state) := by
  rw [ofMachine, machine.table_rules_eq, List.flatMap_map]
  simp only [List.flatMap_map]

end Manifest

end TemporalMonitor
