import TemporalMonitor.Machine.Compile
import TemporalMonitor.Proofs.Machine.Tabulation
import TemporalMonitor.Proofs.Trace.Episode

/-!
The rules and deadlines of compiled machines.

In an open state the rules of the terminator come first and those of the pattern follow. Before an
episode opens there are only the rules of the activator, and after the verdict there are none.
-/

namespace TemporalMonitor

/-- A property compiles if it is well formed and its pattern has a core. -/
theorem Property.compile_cases {property : Property} {machine : Machine}
    (compiled : property.compile = .ok machine) :
    property.validate = .ok () ∧
      ∃ core, property.pattern.core property.scope.kind.isReentrant = .ok core ∧
        machine = property.assemble core := by
  unfold Property.compile at compiled
  cases validated : property.validate with
  | error fault => simp [validated, bind, Except.bind] at compiled
  | ok _ =>
      cases made : property.pattern.core property.scope.kind.isReentrant with
      | error fault => simp [validated, made, bind, Except.bind] at compiled
      | ok core =>
          simp only [validated, made, bind, Except.bind, Except.ok.injEq] at compiled
          exact ⟨rfl, core, rfl, compiled.symm⟩

namespace Event

/-- The rule of a branch. -/
def rule (event : Event) (role : Role) (reaction : Reaction) (branch : Branch) : Rule where
  role := role
  topic := branch.topic
  alias? := event.alias?
  predicate := branch.predicate
  reaction := reaction

/-- The rules of the branches on a topic. -/
def rules (event : Event) (role : Role) (reaction : Reaction) (topic : String) : List Rule :=
  (event.branches.filter fun branch => branch.topic == topic).map (event.rule role reaction)

theorem mem_rules {event : Event} {role : Role} {reaction : Reaction} {topic : String}
    {rule : Rule} :
    rule ∈ event.rules role reaction topic ↔
      ∃ branch ∈ event.branches, branch.topic = topic ∧ event.rule role reaction branch = rule := by
  simp [rules, and_assoc]

/-- The first rule of an event that admits a message is that of the first branch that passes. -/
theorem find_rules_passing {event : Event} {role : Role} {reaction : Reaction} {topic : String}
    {admits : Rule → Bool} {test : Predicate → Bool}
    (same : ∀ branch, admits (event.rule role reaction branch) = test branch.predicate) :
    (event.rules role reaction topic).find? admits =
      (event.passing? topic test).map (event.rule role reaction) := by
  rw [rules, List.find?_map, List.find?_filter, passing?]
  congr 2
  funext branch
  simp [same, Bool.beq_eq_decide_eq]

/-- There is such a rule exactly if a branch passes. -/
theorem find_rules (event : Event) (role : Role) (reaction : Reaction) (topic : String)
    {admits : Rule → Bool} (test : Predicate → Bool)
    (same : ∀ branch, admits (event.rule role reaction branch) = test branch.predicate) :
    (event.passes topic test = false ∧ (event.rules role reaction topic).find? admits = none) ∨
      (event.passes topic test = true ∧
        ∃ branch ∈ event.branches, branch.topic = topic ∧ test branch.predicate = true ∧
          (event.rules role reaction topic).find? admits = some (event.rule role reaction branch)) := by
  rw [find_rules_passing same, ← isSome_passing]
  cases first : event.passing? topic test with
  | none => exact .inl ⟨rfl, rfl⟩
  | some branch =>
      obtain ⟨member, onTopic, passes⟩ := passing_eq_some first
      exact .inr ⟨rfl, branch, member, onTopic, passes, rfl⟩

end Event

section RulesFor

variable (topic : String) (state : State)

@[simp] theorem rulesFor_nil : rulesFor [] topic state = [] := rfl

@[simp] theorem rulesFor_append (first second : List Placement) :
    rulesFor (first ++ second) topic state =
      rulesFor first topic state ++ rulesFor second topic state := by
  simp [rulesFor]

/-- An event that is placed in one state has its rules there and nowhere else. -/
theorem rulesFor_place (event : Event) (role : Role) (placed : State) (reaction : Reaction) :
    rulesFor (event.place role placed reaction) topic state =
      if placed = state then event.rules role reaction topic else [] := by
  by_cases same : placed = state
  · simp [rulesFor, Event.place, Event.rules, Event.rule, same, List.filter_map,
      Function.comp_def]
  · simp [rulesFor, Event.place, same]

@[simp] theorem rulesFor_place_self (event : Event) (role : Role) (reaction : Reaction) :
    rulesFor (event.place role state reaction) topic state = event.rules role reaction topic := by
  rw [rulesFor_place, if_pos rfl]

theorem rulesFor_eq_nil {placements : List Placement}
    (elsewhere : ∀ placement ∈ placements, placement.state ≠ state) :
    rulesFor placements topic state = [] := by
  simp only [rulesFor, List.map_eq_nil_iff, List.filter_eq_nil_iff]
  intro placement member
  simp [elsewhere placement member]

/-- An event that is placed in several states reacts in each as it should there. -/
theorem rulesFor_places (event : Event) (role : Role) (reactions : State → Reaction)
    {states : List State} (distinct : states.Nodup) :
    rulesFor (states.flatMap fun placed => event.place role placed (reactions placed)) topic state =
      if state ∈ states then event.rules role (reactions state) topic else [] := by
  induction states with
  | nil => simp
  | cons first rest ih =>
      obtain ⟨absent, distinct⟩ := List.nodup_cons.mp distinct
      rw [List.flatMap_cons, rulesFor_append, rulesFor_place, ih distinct]
      by_cases same : first = state
      · subst same
        simp [absent]
      · simp [same, Ne.symm same]

end RulesFor

theorem Event.mem_place {event : Event} {role : Role} {state : State} {reaction : Reaction}
    {placement : Placement} (member : placement ∈ event.place role state reaction) :
    placement.state = state ∧
      ∃ branch ∈ event.branches, placement.rule = event.rule role reaction branch := by
  obtain ⟨branch, listed, rfl⟩ := List.mem_map.mp member
  exact ⟨rfl, branch, listed, rfl⟩

/-- The rules and deadlines of a pattern stand in the states in which the scope is open. -/
structure Core.Regular (core : Core) : Prop where
  distinct : core.openStates.Nodup
  live : ∀ state ∈ core.openStates,
    state ≠ .off ∧ state ≠ .inactive ∧ state.isTerminal = false
  entry : core.entry ∈ core.openStates
  placed : ∀ placement ∈ core.placements, placement.state ∈ core.openStates
  timed : ∀ timed ∈ core.deadlines, timed.1 ∈ core.openStates

namespace Core

theorem mem_deadlineIf {bound : Bound} {state : State} {deadline : Deadline}
    {timed : State × Deadline} (member : timed ∈ deadlineIf bound state deadline) :
    bound.isBounded = true ∧ timed = (state, deadline) := by
  unfold deadlineIf at member
  split at member
  · next bounded => exact ⟨bounded, List.mem_singleton.mp member⟩
  · exact absurd member List.not_mem_nil

theorem lookup_deadlineIf {bound : Bound} (bounded : bound.isBounded = true) (state : State)
    (deadline : Deadline) : (deadlineIf bound state deadline).lookup state = some deadline := by
  simp [deadlineIf, bounded]

theorem lookup_deadlineIf_other (bound : Bound) {state other : State} (different : other ≠ state)
    (deadline : Deadline) : (deadlineIf bound state deadline).lookup other = none := by
  unfold deadlineIf
  split
  · rw [List.lookup_cons, beq_eq_false_iff_ne.mpr different]
    rfl
  · rfl

/-- There are three choices of open states, and all of them are fit to be open. -/
theorem openStates_fit {states : List State}
    (choice : states = [.engaged] ∨ states = [.engaged, .safe] ∨ states = [.idle, .pending]) :
    states.Nodup ∧ ∀ state ∈ states,
      state ≠ .off ∧ state ≠ .inactive ∧ state.isTerminal = false := by
  rcases choice with rfl | rfl | rfl <;> decide

/-- A core that starts in the engaged state is regular if its rules and deadlines stand there. -/
theorem regular_of_engaged {core : Core} (entry : core.entry = .engaged)
    (choice : core.openStates = [.engaged] ∨ core.openStates = [.engaged, .safe])
    (placed : ∀ placement ∈ core.placements, placement.state = .engaged)
    (timed : ∀ timed ∈ core.deadlines, timed.1 = .engaged) : core.Regular := by
  have fit := openStates_fit (choice.imp_right .inl)
  have engaged : State.engaged ∈ core.openStates := by
    rcases choice with only | both
    · rw [only]; exact List.mem_cons_self
    · rw [both]; exact List.mem_cons_self
  exact {
    distinct := fit.1
    live := fit.2
    entry := entry ▸ engaged
    placed := fun placement member => placed placement member ▸ engaged
    timed := fun timed' member => timed timed' member ▸ engaged }

theorem absence_regular (isReentrant : Bool) (behavior : Event) (bound : Bound) :
    (absence isReentrant behavior bound).Regular := by
  refine regular_of_engaged rfl ?_ ?_ ?_
  · unfold absence
    dsimp only
    split
    · exact .inr rfl
    · exact .inl rfl
  · exact fun placement member => (Event.mem_place member).1
  · exact fun timed member => congrArg Prod.fst (mem_deadlineIf member).2

theorem existence_regular (isReentrant : Bool) (behavior : Event) (bound : Bound) :
    (existence isReentrant behavior bound).Regular := by
  refine regular_of_engaged rfl ?_ ?_ ?_
  · cases isReentrant
    · exact .inl rfl
    · exact .inr rfl
  · exact fun placement member => (Event.mem_place member).1
  · exact fun timed member => congrArg Prod.fst (mem_deadlineIf member).2

/-- Nothing is pooled if behaviors do not read the trigger and there is no bound. -/
theorem requirementCapacity_eq_zero {isCorrelated : Bool} {bound : Bound} :
    requirementCapacity isCorrelated bound = .zero ↔ isCorrelated = false ∧ bound = .unbounded := by
  cases isCorrelated <;> cases bound <;> simp [requirementCapacity, Bound.isBounded]

theorem simpleRequirement_regular (isReentrant : Bool) (behavior trigger : Event) :
    (simpleRequirement isReentrant behavior trigger).Regular := by
  refine regular_of_engaged rfl ?_ ?_ ?_
  · cases isReentrant
    · exact .inl rfl
    · exact .inr rfl
  · intro placement member
    rcases List.mem_append.mp member with member | member <;> exact (Event.mem_place member).1
  · exact fun timed member => absurd member List.not_mem_nil

theorem pooledRequirement_regular (behavior trigger : Event) (bound : Bound) :
    (pooledRequirement behavior trigger bound).Regular := by
  refine regular_of_engaged rfl (.inl rfl) ?_ ?_
  · intro placement member
    rcases List.mem_append.mp member with member | member
    · rcases List.mem_append.mp member with member | member <;> exact (Event.mem_place member).1
    · exact (Event.mem_place member).1
  · exact fun timed member => congrArg Prod.fst (mem_deadlineIf member).2

theorem response_regular (trigger behavior : Event) (bound : Bound) :
    (response trigger behavior bound).Regular where
  distinct := (openStates_fit (.inr (.inr rfl))).1
  live := (openStates_fit (.inr (.inr rfl))).2
  entry := List.mem_cons_self
  placed := by
    intro placement member
    have idle : State.idle ∈ (response trigger behavior bound).openStates := List.mem_cons_self
    have pending : State.pending ∈ (response trigger behavior bound).openStates :=
      List.mem_cons_of_mem _ List.mem_cons_self
    rcases List.mem_append.mp member with member | member
    · rcases List.mem_append.mp member with member | member
      · rw [(Event.mem_place member).1]
        exact idle
      · split at member
        · rw [(Event.mem_place member).1]
          exact pending
        · exact absurd member List.not_mem_nil
    · rw [(Event.mem_place member).1]
      exact pending
  timed := by
    intro timed member
    rw [(mem_deadlineIf member).2]
    exact List.mem_cons_of_mem _ List.mem_cons_self

end Core

/-- The core that belongs to the pattern of a property. A requirement pools nothing if it has no bound
and its behaviors do not read the trigger. -/
inductive Property.HasCore (property : Property) : Core → Prop where
  | absence {behavior : Event} {bound : Bound}
      (pattern : property.pattern = .absence behavior bound) :
      HasCore property (.absence property.scope.kind.isReentrant behavior bound)
  | existence {behavior : Event} {bound : Bound}
      (pattern : property.pattern = .existence behavior bound) :
      HasCore property (.existence property.scope.kind.isReentrant behavior bound)
  | simpleRequirement {behavior trigger : Event}
      (pattern : property.pattern = .requirement behavior trigger .unbounded)
      (unread : behavior.readsAliasOf trigger = false) :
      HasCore property (.simpleRequirement property.scope.kind.isReentrant behavior trigger)
  | pooledRequirement {behavior trigger : Event} {bound : Bound}
      (pattern : property.pattern = .requirement behavior trigger bound)
      (pooled : Core.requirementCapacity (behavior.readsAliasOf trigger) bound ≠ .zero) :
      HasCore property (.pooledRequirement behavior trigger bound)
  | response {trigger behavior : Event} {bound : Bound}
      (pattern : property.pattern = .response trigger behavior bound) :
      HasCore property (.response trigger behavior bound)

theorem Property.hasCore {property : Property} {core : Core}
    (made : property.pattern.core property.scope.kind.isReentrant = .ok core) :
    property.HasCore core := by
  cases pattern : property.pattern with
  | absence behavior bound =>
      rw [pattern] at made
      obtain rfl := Except.ok.inj made
      exact .absence pattern
  | existence behavior bound =>
      rw [pattern] at made
      obtain rfl := Except.ok.inj made
      exact .existence pattern
  | requirement behavior trigger bound =>
      rw [pattern] at made
      obtain rfl := Except.ok.inj made
      by_cases unpooled : Core.requirementCapacity (behavior.readsAliasOf trigger) bound = .zero
      · rw [Core.requirement, if_pos unpooled]
        obtain ⟨unread, rfl⟩ := Core.requirementCapacity_eq_zero.mp unpooled
        exact .simpleRequirement pattern unread
      · rw [Core.requirement, if_neg unpooled]
        exact .pooledRequirement pattern unpooled
  | response trigger behavior bound =>
      rw [pattern] at made
      obtain rfl := Except.ok.inj made
      exact .response pattern
  | prevention trigger behavior bound =>
      rw [pattern] at made
      cases made

/-- The core of every pattern is regular. -/
theorem Pattern.core_regular {pattern : Pattern} {isReentrant : Bool} {core : Core}
    (made : pattern.core isReentrant = .ok core) : core.Regular := by
  cases pattern with
  | absence behavior bound =>
      obtain rfl := Except.ok.inj made
      exact Core.absence_regular isReentrant behavior bound
  | existence behavior bound =>
      obtain rfl := Except.ok.inj made
      exact Core.existence_regular isReentrant behavior bound
  | requirement behavior trigger bound =>
      obtain rfl := Except.ok.inj made
      unfold Core.requirement
      split
      · exact Core.simpleRequirement_regular isReentrant behavior trigger
      · exact Core.pooledRequirement_regular behavior trigger bound
  | response trigger behavior bound =>
      obtain rfl := Except.ok.inj made
      exact Core.response_regular trigger behavior bound
  | prevention trigger behavior bound => simp [Pattern.core] at made

namespace Property

variable {property : Property} {core : Core}

/-- The rules that open an episode. -/
def openingRules (property : Property) (entry : State) (topic : String) : List Rule :=
  match property.scope.activator? with
  | some activator => activator.rules .activator (.enter entry) topic
  | none => []

/-- The rules that close an episode in an open state. -/
def closingRules (property : Property) (state : State) (topic : String) : List Rule :=
  match property.scope.terminator? with
  | some terminator =>
      terminator.rules .terminator
        (closing property.scope.kind.isReentrant property.pattern.kind state) topic
  | none => []

theorem rulesFor_scopePlacements (regular : core.Regular) (topic : String) (state : State) :
    rulesFor (property.scopePlacements core) topic state =
      (if .inactive = state then property.openingRules core.entry topic else []) ++
        (if state ∈ core.openStates then property.closingRules state topic else []) := by
  rw [scopePlacements, rulesFor_append, openingRules, closingRules]
  congr 1
  · cases property.scope.activator? with
    | none => simp
    | some activator => exact rulesFor_place topic state activator .activator .inactive _
  · cases property.scope.terminator? with
    | none => simp
    | some terminator =>
        exact rulesFor_places topic state terminator .terminator _ regular.distinct

/-- In an open state the terminator comes first. -/
theorem rulesAt_open (regular : core.Regular) {state : State} (isOpen : state ∈ core.openStates)
    (topic : String) :
    (property.assemble core).rulesAt topic state =
      property.closingRules state topic ++ rulesFor core.placements topic state := by
  have waiting : State.inactive ≠ state := (regular.live state isOpen).2.1.symm
  rw [Machine.rulesAt_eq, assemble]
  dsimp only
  rw [rulesFor_append, rulesFor_scopePlacements regular, if_neg waiting, if_pos isOpen,
    List.nil_append]

/-- Before an episode opens there is only the activator. -/
theorem rulesAt_inactive (regular : core.Regular) (topic : String) :
    (property.assemble core).rulesAt topic .inactive =
      property.openingRules core.entry topic := by
  have closed : State.inactive ∉ core.openStates :=
    fun isOpen => (regular.live _ isOpen).2.1 rfl
  have later : rulesFor core.placements topic .inactive = [] :=
    rulesFor_eq_nil topic .inactive fun placement member same =>
      closed (same ▸ regular.placed placement member)
  rw [Machine.rulesAt_eq, assemble]
  dsimp only
  rw [rulesFor_append, rulesFor_scopePlacements regular, later, if_pos rfl, if_neg closed,
    List.append_nil, List.append_nil]

/-- Deadlines apply in open states only. -/
theorem deadline_eq_none (regular : core.Regular) {state : State}
    (closed : state ∉ core.openStates) : (property.assemble core).deadline? state = none := by
  refine List.lookup_eq_none_iff.mpr fun timed member => ?_
  have isOpen := regular.timed timed member
  rw [bne_iff_ne]
  intro same
  exact closed (same ▸ isOpen)

/-- Every test of the property meets the condition. -/
def Tests (property : Property) (condition : Predicate → Prop) : Prop :=
  ∀ entry ∈ property.events, ∀ branch ∈ entry.2.branches, condition branch.predicate

namespace Tests

variable {condition : Predicate → Prop}

theorem mono {weaker : Predicate → Prop} (tests : property.Tests condition)
    (weak : ∀ predicate, condition predicate → weaker predicate) : property.Tests weaker :=
  fun entry listed branch member => weak _ (tests entry listed branch member)

theorem total (tests : property.Tests Predicate.Faithful) : property.Tests Predicate.Total :=
  tests.mono fun _ faithful => faithful.total

/-- Tests without parts that the user did not supply are faithful. -/
theorem of_atomic (atomic : ∀ entry ∈ property.events, ∀ branch ∈ entry.2.branches,
    branch.predicate.isAtomic = true) : property.Tests Predicate.Faithful :=
  fun entry listed branch member => Predicate.faithful_of_isAtomic (atomic entry listed branch member)

theorem activator (tests : property.Tests condition) {activator : Event}
    (given : property.scope.activator? = some activator) :
    ∀ branch ∈ activator.branches, condition branch.predicate :=
  tests ("activator", activator) (by simp [events, given])

theorem terminator (tests : property.Tests condition) {terminator : Event}
    (given : property.scope.terminator? = some terminator) :
    ∀ branch ∈ terminator.branches, condition branch.predicate :=
  tests ("terminator", terminator) (by simp [events, given])

theorem trigger (tests : property.Tests condition) {trigger : Event}
    (given : property.pattern.trigger? = some trigger) :
    ∀ branch ∈ trigger.branches, condition branch.predicate :=
  tests ("trigger", trigger) (by simp [events, given])

theorem behavior (tests : property.Tests condition) :
    ∀ branch ∈ property.pattern.behavior.branches, condition branch.predicate :=
  tests ("behavior", property.pattern.behavior) (by simp [events])

end Tests

end Property

/-- The rules of a core are those of the trigger and of the behavior. -/
theorem Pattern.core_sources {pattern : Pattern} {isReentrant : Bool} {core : Core}
    (made : pattern.core isReentrant = .ok core) :
    ∀ placement ∈ core.placements, ∃ event role reaction,
      (event = pattern.behavior ∨ pattern.trigger? = some event) ∧
        placement ∈ event.place role placement.state reaction := by
  have placed {event : Event} {role : Role} {state : State} {reaction : Reaction}
      {placement : Placement} (member : placement ∈ event.place role state reaction) :
      placement ∈ event.place role placement.state reaction := by
    rw [(Event.mem_place member).1]
    exact member
  cases pattern with
  | absence behavior bound =>
      obtain rfl := Except.ok.inj made
      exact fun placement member => ⟨behavior, _, _, .inl rfl, placed member⟩
  | existence behavior bound =>
      obtain rfl := Except.ok.inj made
      exact fun placement member => ⟨behavior, _, _, .inl rfl, placed member⟩
  | requirement behavior trigger bound =>
      obtain rfl := Except.ok.inj made
      intro placement member
      unfold Core.requirement at member
      split at member
      · rcases List.mem_append.mp member with member | member
        · exact ⟨trigger, _, _, .inr rfl, placed member⟩
        · exact ⟨behavior, _, _, .inl rfl, placed member⟩
      · rcases List.mem_append.mp member with member | member
        · rcases List.mem_append.mp member with member | member
          · exact ⟨trigger, _, _, .inr rfl, placed member⟩
          · exact ⟨behavior, _, _, .inl rfl, placed member⟩
        · exact ⟨behavior, _, _, .inl rfl, placed member⟩
  | response trigger behavior bound =>
      obtain rfl := Except.ok.inj made
      intro placement member
      rcases List.mem_append.mp member with member | member
      · rcases List.mem_append.mp member with member | member
        · exact ⟨trigger, _, _, .inr rfl, placed member⟩
        · split at member
          · exact ⟨trigger, _, _, .inr rfl, placed member⟩
          · exact absurd member List.not_mem_nil
      · exact ⟨behavior, _, _, .inl rfl, placed member⟩
  | prevention trigger behavior bound => simp [Pattern.core] at made

/-- The rules of a machine test what the property tests. -/
theorem Property.rulesAt_tests {property : Property} {core : Core}
    (made : property.pattern.core property.scope.kind.isReentrant = .ok core)
    {condition : Predicate → Prop} (tests : property.Tests condition) (topic : String)
    (state : State) :
    ∀ rule ∈ (property.assemble core).rulesAt topic state, condition rule.predicate := by
  have placed {event : Event} {role : Role} {state : State} {reaction : Reaction}
      {placement : Placement} (each : ∀ branch ∈ event.branches, condition branch.predicate)
      (member : placement ∈ event.place role state reaction) :
      condition placement.rule.predicate := by
    obtain ⟨_, branch, listed, same⟩ := Event.mem_place member
    rw [same]
    exact each branch listed
  intro rule member
  obtain ⟨placement, listed, rfl, _⟩ := Machine.mem_rulesAt.mp member
  rcases List.mem_append.mp listed with ofScope | ofCore
  · rcases List.mem_append.mp ofScope with opening | closings
    · cases given : property.scope.activator? with
      | none => simp [given] at opening
      | some activator =>
          simp only [given] at opening
          exact placed (tests.activator given) opening
    · cases given : property.scope.terminator? with
      | none => simp [given] at closings
      | some terminator =>
          simp only [given] at closings
          obtain ⟨_, _, closing⟩ := List.mem_flatMap.mp closings
          exact placed (tests.terminator given) closing
  · obtain ⟨event, role, reaction, source, member⟩ := Pattern.core_sources made placement ofCore
    rcases source with rfl | given
    · exact placed tests.behavior member
    · exact placed (tests.trigger given) member

end TemporalMonitor
