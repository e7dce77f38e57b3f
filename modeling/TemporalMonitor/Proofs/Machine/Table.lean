import Mathlib.Logic.Relation
import TemporalMonitor.Proofs.Machine.Posts
import TemporalMonitor.Proofs.Monitor.Lifecycle
import TemporalMonitor.Proofs.Property.Acceptance

/-!
The tables of compiled machines.

The states of a machine are those that its rules and deadlines lead to from the initial one, and a
verdict is settled exactly on the way to the state that stands for it. The rules for a topic and a
state are sorted by their roles, and what a machine says about its topics is what the branches of the
property say.
-/

namespace TemporalMonitor

namespace Machine

/-- A rule or a deadline of the state may lead to another one, with the verdict that it settles. -/
inductive Leads (machine : Machine) : State → Option Bool → State → Prop where
  | stays {topic : String} {state : State} {rule : Rule}
      (listed : rule ∈ machine.rulesAt topic state) (stays : rule.reaction.next = .stay) :
      Leads machine state rule.reaction.verdict? state
  | moves {topic : String} {state target : State} {rule : Rule}
      (listed : rule ∈ machine.rulesAt topic state)
      (aims : target ∈ rule.reaction.next.targets) :
      Leads machine state rule.reaction.verdict? target
  | lapses {state target : State} {deadline : Deadline} {witness : WitnessAction}
      {verdict? : Option Bool} (timed : machine.deadline? state = some deadline)
      (effect : deadline.effect = .transition witness verdict? target) :
      Leads machine state verdict? target

/-- The state can be reached from the initial one. -/
def Reaches (machine : Machine) (state : State) : Prop :=
  Relation.ReflTransGen (fun source target => ∃ verdict?, machine.Leads source verdict? target)
    machine.initial state

/-- The table of the machine fits the property. -/
structure Tabulates (machine : Machine) (property : Property) : Prop where
  states : ∀ state, state ∈ machine.states ↔ machine.Reaches state
  off : .off ∉ machine.states
  /-- Nothing happens any more once a monitor is stopped or has its verdict. -/
  rules : ∀ topic state, machine.rulesAt topic state ≠ [] → state ≠ .off ∧ state.isTerminal = false
  deadlines : ∀ state, machine.deadline? state ≠ none → state ≠ .off ∧ state.isTerminal = false
  verdicts : ∀ source verdict? target verdict, machine.Leads source verdict? target →
    (verdict? = some verdict ↔ target = .ofVerdict verdict)
  ordered : ∀ topic state, (machine.rulesAt topic state).Pairwise fun first second =>
    first.role.rank ≤ second.role.rank
  /-- The rules of one event with one reaction are those of its branches, in their order. -/
  branches : ∀ topic state, ∀ rule ∈ machine.rulesAt topic state,
    ∃ event, property.event? rule.role = some event ∧
      (machine.rulesAt topic state).filter
          (fun other => other.role == rule.role && other.reaction == rule.reaction) =
        event.rules rule.role rule.reaction topic
  topics : ∀ topic, topic ∈ machine.topics ↔
    ∃ branch, property.HasBranch branch ∧ branch.topic = topic
  statesOf : ∀ topic state, state ∈ machine.statesOf topic ↔ machine.rulesAt topic state ≠ []
  messageTypes : ∀ topic name, name ∈ machine.messageTypesOf topic ↔
    ∃ branch, property.HasBranch branch ∧ branch.topic = topic ∧ branch.messageType? = some name

/-- A state is listed for a topic if there is a rule for both. -/
theorem mem_statesOf (machine : Machine) (topic : String) (state : State) :
    state ∈ machine.statesOf topic ↔ machine.rulesAt topic state ≠ [] := by
  rw [statesOf_eq, Ordered.mem_ofItems, List.mem_map]
  constructor
  · rintro ⟨placement, kept, here⟩
    obtain ⟨listed, onTopic⟩ := List.mem_filter.mp kept
    exact List.ne_nil_of_mem (mem_rulesAt.mpr ⟨placement, listed, rfl, beq_iff_eq.mp onTopic, here⟩)
  · intro some
    obtain ⟨rule, member⟩ := List.exists_mem_of_ne_nil _ some
    obtain ⟨placement, listed, rfl, onTopic, here⟩ := mem_rulesAt.mp member
    exact ⟨placement, List.mem_filter.mpr ⟨listed, beq_iff_eq.mpr onTopic⟩, here⟩

/-- What can be reached is listed. -/
theorem Reaches.mem_states {machine : Machine} {state : State} (reached : machine.Reaches state) :
    state ∈ machine.states := by
  induction reached with
  | refl => exact Machine.mem_states.mpr (.inl rfl)
  | tail _ step ih =>
      obtain ⟨verdict?, leads⟩ := step
      cases leads with
      | stays => exact ih
      | moves listed aims =>
          obtain ⟨placement, member, rfl, _⟩ := mem_rulesAt.mp listed
          exact Machine.mem_states.mpr (.inr (.inl ⟨placement, member, .inr aims⟩))
      | lapses timed effect =>
          refine Machine.mem_states.mpr (.inr (.inr ⟨_, mem_deadlines timed, .inr ?_⟩))
          rw [effect]
          exact List.mem_singleton.mpr rfl

end Machine

namespace State

/-- A running monitor may be in the state, which stands for the verdict if there is one. -/
def Bears (state : State) (verdict? : Option Bool) : Prop :=
  state ≠ .off ∧ ∀ verdict, verdict? = some verdict ↔ state = .ofVerdict verdict

theorem bears_none {state : State} (running : state ≠ .off) (unsettled : state.isTerminal = false) :
    state.Bears none := by
  refine ⟨running, fun verdict => iff_of_false (by simp) ?_⟩
  rintro rfl
  cases verdict <;> cases unsettled

theorem bears_some (verdict : Bool) : (ofVerdict verdict).Bears (some verdict) := by
  constructor
  · cases verdict <;> decide
  · intro other
    cases verdict <;> cases other <;> decide

end State

/-- What a duty leads to, and the verdict that comes with it. -/
theorem Duty.bears {property : Property} {role : Role} {state target : State} {reaction : Reaction}
    (duty : Duty property role state reaction) (aims : target ∈ reaction.next.targets) :
    target.Bears reaction.verdict? := by
  cases duty with
  | opens =>
      obtain rfl := List.mem_singleton.mp aims
      cases property.pattern.kind <;> exact State.bears_none (by decide) (by decide)
  | leaves =>
      obtain rfl := List.mem_singleton.mp aims
      exact State.bears_none (by decide) (by decide)
  | closes =>
      obtain rfl := List.mem_singleton.mp aims
      exact State.bears_some _
  | closesOwed =>
      obtain rfl := List.mem_singleton.mp aims
      exact State.bears_some _
  | decides =>
      obtain rfl := List.mem_singleton.mp aims
      exact State.bears_some _
  | secures =>
      obtain rfl := List.mem_singleton.mp aims
      exact State.bears_none (by decide) (by decide)
  | stores => exact absurd aims List.not_mem_nil
  | allows => exact absurd aims List.not_mem_nil
  | owes =>
      obtain rfl := List.mem_singleton.mp aims
      exact State.bears_none (by decide) (by decide)
  | owesMore => exact absurd aims List.not_mem_nil
  | answers =>
      rcases List.mem_pair.mp aims with rfl | rfl
      · exact State.bears_none (by decide) (by decide)
      · exact State.bears_none (by decide) (by decide)

theorem Duty.silent_of_stay {property : Property} {role : Role} {state : State} {reaction : Reaction}
    (duty : Duty property role state reaction) (stays : reaction.next = .stay) :
    reaction.verdict? = none := by
  cases duty with
  | stores => rfl
  | allows => rfl
  | owesMore => rfl
  | _ => cases stays

namespace Property

section Compiled

variable {property : Property} {core : Core}
  (made : property.pattern.core property.scope.kind.isReentrant = .ok core)

include made

/-- A verdict is settled exactly on the way to the state that stands for it. -/
theorem leads_bears {source target : State} {verdict? : Option Bool}
    (leads : (property.assemble core).Leads source verdict? target) : target.Bears verdict? := by
  cases leads with
  | stays listed stays =>
      have duty := (rulesAt_performs made listed).duty
      rw [duty.silent_of_stay stays]
      exact State.bears_none duty.live.1 duty.live.2
  | moves listed aims => exact (rulesAt_performs made listed).duty.bears aims
  | lapses timed effect =>
      obtain ⟨_, effects⟩ := core_deadlines made _ (Machine.mem_deadlines timed)
      rw [effect] at effects
      rcases effects with evicts | safe | ⟨action, verdict, settled⟩
      · cases evicts
      · obtain ⟨_, rfl, rfl⟩ := DeadlineEffect.transition.inj safe
        exact State.bears_none (by decide) (by decide)
      · obtain ⟨_, rfl, rfl⟩ := DeadlineEffect.transition.inj settled
        exact State.bears_some verdict

theorem initial_ne_off : (property.assemble core).initial ≠ .off := by
  change (if property.scope.kind.hasActivator then State.inactive else core.entry) ≠ .off
  split
  · decide
  · exact ((Pattern.core_regular made).live _ (Pattern.core_regular made).entry).1

theorem reaches_ne_off {state : State} (reached : (property.assemble core).Reaches state) :
    state ≠ .off := by
  cases reached.cases_tail with
  | inl same =>
      rw [same]
      exact initial_ne_off made
  | inr last =>
      obtain ⟨_, _, verdict?, leads⟩ := last
      exact (leads_bears made leads).1

/-- A deadline leads to the state that it aims at. -/
theorem leads_of_timed {timed : State × Deadline} (member : timed ∈ core.deadlines) {target : State}
    (aims : target ∈ timed.2.effect.targets) :
    ∃ verdict?, (property.assemble core).Leads timed.1 verdict? target := by
  have looked : (property.assemble core).deadline? timed.1 = some timed.2 := core_deadline made member
  cases effect : timed.2.effect with
  | evict =>
      rw [effect] at aims
      exact absurd aims List.not_mem_nil
  | transition witness verdict? next =>
      rw [effect] at aims
      obtain rfl := List.mem_singleton.mp aims
      exact ⟨verdict?, .lapses looked effect⟩

end Compiled

section Arranged

variable {property : Property} {core : Core} {posts : List Post}

/-- An event that can occur leads from its post to every state that its reaction aims at. -/
theorem leads_of_post (wellFormed : property.WellFormed)
    (arranged : (property.assemble core).Arranged property posts) {post : Post}
    (member : post ∈ posts) {event : Event} (plays : property.event? post.role = some event)
    {target : State} (aims : target ∈ post.reaction.next.targets) :
    (property.assemble core).Leads post.state post.reaction.verdict? target := by
  obtain ⟨branch, listed⟩ := List.exists_mem_of_ne_nil _ (wellFormed.sound plays).branches
  have rule : event.rule post.role post.reaction branch ∈
      (property.assemble core).rulesAt branch.topic post.state := by
    rw [Machine.rulesAt_eq, arranged.placements_eq, mem_rulesFor_placed]
    exact ⟨post, member, rfl, mem_rulesOf.mpr ⟨event, plays,
      Event.mem_rules.mpr ⟨branch, listed, rfl, rfl⟩⟩⟩
  exact .moves rule aims

variable (made : property.pattern.core property.scope.kind.isReentrant = .ok core)
  (wellFormed : property.WellFormed) (posted : core.Posted property posts)

include made wellFormed posted

/-- The scope opens with the launch, or the activator opens it. -/
theorem reaches_entry : (property.assemble core).Reaches core.entry := by
  cases given : property.scope.activator? with
  | none =>
      have start : (property.assemble core).initial = core.entry :=
        if_neg (by rw [Scope.hasActivator_eq, given]; decide)
      rw [Machine.Reaches, start]
  | some activator =>
      have start : (property.assemble core).initial = .inactive :=
        if_pos (by rw [Scope.hasActivator_eq, given]; rfl)
      rw [Machine.Reaches, start]
      exact .single ⟨_, leads_of_post wellFormed (posted.arranged (Pattern.core_regular made))
        (List.mem_append_left _ List.mem_cons_self) given (List.mem_singleton.mpr rfl)⟩

theorem reaches_open {state : State} (isOpen : state ∈ core.openStates) :
    (property.assemble core).Reaches state := by
  have entered := reaches_entry made wellFormed posted
  rcases posted.reached state isOpen with rfl | ⟨post, member, here, aims⟩ | ⟨timed, member, here, aims⟩
  · exact entered
  · obtain ⟨_, event, plays⟩ := posted.given post member
    rw [← here] at entered
    exact entered.tail ⟨_, leads_of_post wellFormed (posted.arranged (Pattern.core_regular made))
      (List.mem_append_right _ member) plays aims⟩
  · rw [← here] at entered
    exact entered.tail (leads_of_timed made member aims)

/-- A state in which some rule is placed is reached. -/
theorem reaches_placement {placement : Placement}
    (member : placement ∈ (property.assemble core).placements) :
    (property.assemble core).Reaches placement.state := by
  have regular := Pattern.core_regular made
  rcases List.mem_append.mp member with ofScope | ofCore
  · rw [scopePlacements_eq, mem_placed] at ofScope
    obtain ⟨post, stationed, event, plays, member⟩ := ofScope
    rw [(Event.mem_place member).1]
    rcases List.mem_cons.mp stationed with rfl | closes
    · have start : (property.assemble core).initial = .inactive :=
        if_pos (by rw [Scope.hasActivator_eq]; exact Option.isSome_of_eq_some plays)
      rw [Machine.Reaches, start]
    · obtain ⟨state, isOpen, rfl⟩ := List.mem_map.mp closes
      exact reaches_open made wellFormed posted isOpen
  · exact reaches_open made wellFormed posted (regular.placed placement ofCore)

/-- All states are reached that the machine lists. -/
theorem reaches_of_mem {state : State} (member : state ∈ (property.assemble core).states) :
    (property.assemble core).Reaches state := by
  rcases Machine.mem_states.mp member with rfl | ⟨placement, listed, here⟩ | ⟨timed, listed, here⟩
  · exact .refl
  · have reached := reaches_placement made wellFormed posted listed
    rcases here with rfl | aims
    · exact reached
    · exact reached.tail ⟨_, .moves (Machine.mem_rulesAt.mpr ⟨placement, listed, rfl, rfl, rfl⟩) aims⟩
  · have reached := reaches_open made wellFormed posted
      ((Pattern.core_regular made).timed timed listed)
    rcases here with rfl | aims
    · exact reached
    · exact reached.tail (leads_of_timed made listed aims)

end Arranged

/-- The table of a compiled machine fits the property. -/
theorem compile_tabulates {property : Property} {machine : Machine}
    (compiled : property.compile = .ok machine) : machine.Tabulates property := by
  obtain ⟨valid, core, made, rfl⟩ := property.compile_cases compiled
  have wellFormed := validate_ok_iff.mp valid
  have regular := Pattern.core_regular made
  obtain ⟨posts, posted⟩ := core_posted made
  have arranged := posted.arranged regular
  exact {
    states := fun state => ⟨reaches_of_mem made wellFormed posted, Machine.Reaches.mem_states⟩
    off := fun member => reaches_ne_off made (reaches_of_mem made wellFormed posted member) rfl
    rules := by
      intro topic state some
      obtain ⟨rule, member⟩ := List.exists_mem_of_ne_nil _ some
      exact (rulesAt_performs made member).duty.live
    deadlines := by
      intro state timed
      have isOpen : state ∈ core.openStates := by
        by_contra closed
        exact timed (deadline_eq_none regular closed)
      exact ⟨(regular.live state isOpen).1, (regular.live state isOpen).2.2⟩
    verdicts := fun source verdict? target verdict leads => (leads_bears made leads).2 verdict
    ordered := by
      intro topic state
      rw [Machine.rulesAt_eq, arranged.placements_eq]
      exact rulesFor_ordered arranged.ordered topic state
    branches := by
      intro topic state rule member
      rw [Machine.rulesAt_eq, arranged.placements_eq] at member ⊢
      obtain ⟨post, stationed, rfl, listed⟩ := mem_rulesFor_placed.mp member
      obtain ⟨event, plays, _⟩ := mem_rulesOf.mp listed
      obtain ⟨role, reaction⟩ := of_mem_rulesOf listed
      rw [role, reaction, rulesFor_post arranged.distinct stationed topic, rulesOf, plays]
      exact ⟨event, rfl, rfl⟩
    topics := by
      intro topic
      rw [Machine.topics_eq, Ordered.mem_ofItems, List.mem_map, arranged.placements_eq]
      exact exists_placed_iff arranged.complete fun given _ => given = topic
    statesOf := (property.assemble core).mem_statesOf
    messageTypes := by
      intro topic name
      rw [Machine.messageTypesOf_eq, Ordered.mem_ofItems, List.mem_filterMap, arranged.placements_eq]
      simp only [List.mem_filter, beq_iff_eq, and_assoc]
      exact exists_placed_iff arranged.complete fun given type? => given = topic ∧ type? = some name }

/-- The activator, the terminator, the trigger and the behavior of this property share a topic. -/
def crowded : Property where
  scope := .between { branches := [{ topic := "data", messageType? := some "Packet" }] }
    { branches := [{ topic := "stop" }, {
        topic := "data"
        predicate := .compare "last" .eq (.const (.bool true)) }] }
  pattern := .response { alias? := some "request", branches := [{ topic := "data" }] }
    { branches := [{
        topic := "data"
        predicate := .compare "id" .eq (.field "request" "id") },
      { topic := "data", messageType? := some "Reply" }] }
    .unbounded

/-- While a behavior is owed, a message on the shared topic is tried as the end of the scope first, and
last as one of the two behaviors. -/
theorem compile_tabulates_crowded :
    ∃ machine, crowded.compile = .ok machine ∧
      machine.states = [.inactive, .idle, .pending, .rejected] ∧
      (machine.rulesAt "data" .pending).map Rule.role =
        [.terminator, .trigger, .behavior, .behavior] ∧
      machine.messageTypesOf "data" = ["Packet", "Reply"] ∧ machine.Tabulates crowded := by
  refine ⟨_, rfl, rfl, rfl, rfl, ?_⟩
  exact compile_tabulates (show crowded.compile = _ from rfl)

end Property

end TemporalMonitor
