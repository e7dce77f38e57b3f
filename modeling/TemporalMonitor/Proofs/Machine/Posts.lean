import TemporalMonitor.Proofs.Machine.Duties

/-!
How the rules of a compiled machine are laid out.

An event is posted in a state with a reaction, and each of its branches has a rule there. The table
of a machine is a list of posts: that of the activator, one of the terminator for every open state,
and those of the pattern, where the trigger comes before the behavior. No post is given twice, so the
rules for a topic and a state are those of the branches, event by event.
-/

namespace TemporalMonitor

/-- Where and how an event is to react. -/
structure Post where
  role : Role
  state : State
  reaction : Reaction
  deriving DecidableEq

/-- Rules of the scope are tried first, then those of the trigger and those of the behavior. -/
def Role.rank : Role → Nat
  | .activator | .terminator => 0
  | .trigger => 1
  | .behavior => 2

namespace Property

variable {property : Property} {posts : List Post}

/-- The placements of the event that has the post, if there is one. -/
def placed (property : Property) (post : Post) : List Placement :=
  match property.event? post.role with
  | some event => event.place post.role post.state post.reaction
  | none => []

/-- Its rules for a topic. -/
def rulesOf (property : Property) (post : Post) (topic : String) : List Rule :=
  match property.event? post.role with
  | some event => event.rules post.role post.reaction topic
  | none => []

/-- The property has an event with this branch. -/
def HasBranch (property : Property) (branch : Branch) : Prop :=
  ∃ role event, property.event? role = some event ∧ branch ∈ event.branches

theorem mem_rulesOf {post : Post} {topic : String} {rule : Rule} :
    rule ∈ property.rulesOf post topic ↔
      ∃ event, property.event? post.role = some event ∧
        rule ∈ event.rules post.role post.reaction topic := by
  rw [rulesOf]
  cases property.event? post.role with
  | none => simp
  | some event => simp

theorem of_mem_rulesOf {post : Post} {topic : String} {rule : Rule}
    (member : rule ∈ property.rulesOf post topic) :
    rule.role = post.role ∧ rule.reaction = post.reaction := by
  obtain ⟨event, _, listed⟩ := mem_rulesOf.mp member
  obtain ⟨branch, _, _, rfl⟩ := Event.mem_rules.mp listed
  exact ⟨rfl, rfl⟩

/-- The rules for a topic and a state are those of the posts in the state. -/
theorem rulesFor_placed (posts : List Post) (topic : String) (state : State) :
    rulesFor (posts.flatMap property.placed) topic state =
      (posts.filter fun post => post.state == state).flatMap fun post =>
        property.rulesOf post topic := by
  induction posts with
  | nil => rfl
  | cons post rest ih =>
      have first : rulesFor (property.placed post) topic state =
          if post.state = state then property.rulesOf post topic else [] := by
        rw [placed, rulesOf]
        cases property.event? post.role with
        | none => simp
        | some event => exact rulesFor_place topic state event post.role post.state post.reaction
      rw [List.flatMap_cons, rulesFor_append, first, ih, List.filter_cons]
      by_cases here : post.state = state
      · rw [if_pos here, if_pos (beq_iff_eq.mpr here), List.flatMap_cons]
      · rw [if_neg here, if_neg (by simpa using here), List.nil_append]

theorem mem_rulesFor_placed {topic : String} {state : State} {rule : Rule} :
    rule ∈ rulesFor (posts.flatMap property.placed) topic state ↔
      ∃ post ∈ posts, post.state = state ∧ rule ∈ property.rulesOf post topic := by
  rw [rulesFor_placed, List.mem_flatMap]
  simp only [List.mem_filter, beq_iff_eq, and_assoc]

/-- The rules keep the order of the posts. -/
theorem rulesFor_ordered
    (ordered : posts.Pairwise fun first second => first.role.rank ≤ second.role.rank)
    (topic : String) (state : State) :
    (rulesFor (posts.flatMap property.placed) topic state).Pairwise fun first second =>
      first.role.rank ≤ second.role.rank := by
  rw [rulesFor_placed, List.pairwise_flatMap]
  constructor
  · intro post _
    refine List.pairwise_of_forall_mem_list fun first member second other => ?_
    apply Nat.le_of_eq
    rw [(of_mem_rulesOf member).1, (of_mem_rulesOf other).1]
  · refine (ordered.filter _).imp fun {first second} ascending rule member other later => ?_
    rw [(of_mem_rulesOf member).1, (of_mem_rulesOf later).1]
    exact ascending

/-- The rules with the role and the reaction of a post are those of its event, in the order of the
branches. -/
theorem rulesFor_post (distinct : posts.Nodup) {post : Post} (member : post ∈ posts)
    (topic : String) :
    (rulesFor (posts.flatMap property.placed) topic post.state).filter
        (fun rule => rule.role == post.role && rule.reaction == post.reaction) =
      property.rulesOf post topic := by
  have here : post ∈ posts.filter fun other => other.state == post.state :=
    List.mem_filter.mpr ⟨member, beq_self_eq_true _⟩
  obtain ⟨before, after, split⟩ := List.append_of_mem here
  have once := distinct.filter fun other => other.state == post.state
  rw [split] at once
  obtain ⟨absent, _⟩ := List.nodup_cons.mp (List.nodup_middle.mp once)
  -- Another post in the state differs in its role or its reaction.
  have others {rest : List Post} (part : rest ⊆ before ++ post :: after) (absent : post ∉ rest) :
      (rest.flatMap fun other => property.rulesOf other topic).filter
        (fun rule => rule.role == post.role && rule.reaction == post.reaction) = [] := by
    refine List.filter_eq_nil_iff.mpr fun rule listed => ?_
    obtain ⟨other, found, listed⟩ := List.mem_flatMap.mp listed
    obtain ⟨role, reaction⟩ := of_mem_rulesOf listed
    have stationed : other ∈ posts.filter fun other => other.state == post.state :=
      split ▸ part found
    have state : other.state = post.state := by simpa using (List.mem_filter.mp stationed).2
    rw [role, reaction, Bool.and_eq_true, beq_iff_eq, beq_iff_eq]
    rintro ⟨sameRole, sameReaction⟩
    obtain rfl : other = post := by
      cases other
      cases post
      simp_all
    exact absent found
  have own : (property.rulesOf post topic).filter
      (fun rule => rule.role == post.role && rule.reaction == post.reaction) =
        property.rulesOf post topic := by
    refine List.filter_eq_self.mpr fun rule listed => ?_
    rw [(of_mem_rulesOf listed).1, (of_mem_rulesOf listed).2, beq_self_eq_true, beq_self_eq_true]
    rfl
  rw [rulesFor_placed, split, List.flatMap_append, List.flatMap_cons, List.filter_append,
    List.filter_append, own, others (List.subset_append_left _ _) fun first => absent
      (List.mem_append_left _ first), others (List.subset_append_of_subset_right _
      (List.subset_cons_self _ _)) fun later => absent (List.mem_append_right _ later),
    List.nil_append, List.append_nil]

/-- A placement of a post is that of a branch of the event. -/
theorem mem_placed {placement : Placement} :
    placement ∈ posts.flatMap property.placed ↔
      ∃ post ∈ posts, ∃ event, property.event? post.role = some event ∧
        placement ∈ event.place post.role post.state post.reaction := by
  rw [List.mem_flatMap]
  refine exists_congr fun post => and_congr_right fun _ => ?_
  rw [placed]
  cases property.event? post.role with
  | none => simp
  | some event => simp

/-- What the placements say about topics and types is what the branches say. -/
theorem exists_placed_iff
    (complete : ∀ {role event}, property.event? role = some event → ∃ post ∈ posts, post.role = role)
    (condition : String → Option String → Prop) :
    (∃ placement ∈ posts.flatMap property.placed,
      condition placement.rule.topic placement.messageType?) ↔
        ∃ branch, property.HasBranch branch ∧ condition branch.topic branch.messageType? := by
  simp only [mem_placed]
  constructor
  · rintro ⟨placement, ⟨post, _, event, plays, member⟩, met⟩
    obtain ⟨branch, listed, rfl⟩ := List.mem_map.mp member
    exact ⟨branch, ⟨post.role, event, plays, listed⟩, met⟩
  · rintro ⟨branch, ⟨role, event, plays, listed⟩, met⟩
    obtain ⟨post, member, rfl⟩ := complete plays
    exact ⟨_, ⟨post, member, event, plays, List.mem_map_of_mem listed⟩, met⟩

end Property

/-- The rules of a pattern as posts of its events. From the state in which an episode starts, every
other open state is one step away. -/
structure Core.Posted (core : Core) (property : Property) (posts : List Post) : Prop where
  placements_eq : core.placements = posts.flatMap property.placed
  distinct : posts.Nodup
  ordered : posts.Pairwise fun first second => first.role.rank ≤ second.role.rank
  given : ∀ post ∈ posts, 0 < post.role.rank ∧ ∃ event, property.event? post.role = some event
  complete : ∀ {role event}, 0 < role.rank → property.event? role = some event →
    ∃ post ∈ posts, post.role = role
  reached : ∀ state ∈ core.openStates, state = core.entry ∨
    (∃ post ∈ posts, post.state = core.entry ∧ state ∈ post.reaction.next.targets) ∨
      ∃ timed ∈ core.deadlines, timed.1 = core.entry ∧ state ∈ timed.2.effect.targets

namespace Property

variable {property : Property}

/-- A pattern has posts for all its events if the behavior has one, and the trigger where there is
one. -/
theorem complete_of_both {posts : List Post} (behaves : ∃ post ∈ posts, post.role = .behavior)
    (triggers : property.pattern.trigger?.isSome = true → ∃ post ∈ posts, post.role = .trigger)
    {role : Role} {event : Event} (patterned : 0 < role.rank)
    (plays : property.event? role = some event) : ∃ post ∈ posts, post.role = role := by
  cases role with
  | behavior => exact behaves
  | trigger => exact triggers (Option.isSome_of_eq_some plays)
  | activator => exact absurd patterned (by decide)
  | terminator => exact absurd patterned (by decide)

section Patterns

theorem absence_posted {behavior : Event} {bound : Bound} (isReentrant : Bool)
    (pattern : property.pattern = .absence behavior bound) :
    (Core.absence isReentrant behavior bound).Posted property
      [⟨.behavior, .engaged, .conclude .record false⟩] where
  placements_eq := by simp [Core.absence, placed, event?, pattern, Pattern.behavior]
  distinct := by decide
  ordered := by decide
  given := by simp [Role.rank, event?]
  complete := complete_of_both ⟨_, List.mem_singleton.mpr rfl, rfl⟩ (by simp [pattern, Pattern.trigger?])
  reached := by
    intro state isOpen
    unfold Core.absence at isOpen
    dsimp only at isOpen
    split at isOpen
    · next both =>
        obtain ⟨again, bounded⟩ := Bool.and_eq_true_iff.mp both
        rcases List.mem_pair.mp isOpen with rfl | rfl
        · exact .inl rfl
        · have timed : (State.engaged, Deadline.mk .episodeStart (.transition .keep none .safe)) ∈
              (Core.absence isReentrant behavior bound).deadlines := by
            simp [Core.absence, Core.deadlineIf, again, bounded]
          exact .inr (.inr ⟨_, timed, rfl, List.mem_singleton.mpr rfl⟩)
    · exact .inl (List.mem_singleton.mp isOpen)

theorem existence_posted {behavior : Event} {bound : Bound} (isReentrant : Bool)
    (pattern : property.pattern = .existence behavior bound) :
    (Core.existence isReentrant behavior bound).Posted property
      [⟨.behavior, .engaged, if isReentrant then .goto .record .safe else .conclude .record true⟩] where
  placements_eq := by simp [Core.existence, placed, event?, pattern, Pattern.behavior]
  distinct := List.nodup_singleton _
  ordered := List.pairwise_singleton _ _
  given := by simp [Role.rank, event?]
  complete := complete_of_both ⟨_, List.mem_singleton.mpr rfl, rfl⟩ (by simp [pattern, Pattern.trigger?])
  reached := by
    intro state isOpen
    cases isReentrant with
    | false => exact .inl (List.mem_singleton.mp isOpen)
    | true =>
        rcases List.mem_pair.mp isOpen with rfl | rfl
        · exact .inl rfl
        · exact .inr (.inl ⟨_, List.mem_singleton.mpr rfl, rfl, List.mem_singleton.mpr rfl⟩)

theorem simpleRequirement_posted {behavior trigger : Event} {bound : Bound} (isReentrant : Bool)
    (pattern : property.pattern = .requirement behavior trigger bound) :
    (Core.simpleRequirement isReentrant behavior trigger).Posted property
      [⟨.trigger, .engaged, if isReentrant then .goto .record .safe else .conclude .record true⟩,
        ⟨.behavior, .engaged, .conclude .record false⟩] where
  placements_eq := by
    simp [Core.simpleRequirement, placed, event?, pattern, Pattern.behavior, Pattern.trigger?]
  distinct := by cases isReentrant <;> decide
  ordered := by cases isReentrant <;> decide
  given := by simp [Role.rank, event?, pattern, Pattern.trigger?]
  complete := complete_of_both ⟨_, List.mem_cons_of_mem _ List.mem_cons_self, rfl⟩
    fun _ => ⟨_, List.mem_cons_self, rfl⟩
  reached := by
    intro state isOpen
    cases isReentrant with
    | false => exact .inl (List.mem_singleton.mp isOpen)
    | true =>
        rcases List.mem_pair.mp isOpen with rfl | rfl
        · exact .inl rfl
        · exact .inr (.inl ⟨_, List.mem_cons_self, rfl, List.mem_singleton.mpr rfl⟩)

theorem pooledRequirement_posted {behavior trigger : Event} {bound : Bound}
    (pattern : property.pattern = .requirement behavior trigger bound) :
    ∃ posts, (Core.pooledRequirement behavior trigger bound).Posted property posts := by
  refine ⟨[⟨.trigger, .engaged, .pooling .message
      (if behavior.readsAliasOf trigger then .push else .replace) .stay⟩,
    ⟨.behavior, .engaged, .pooling .anyPooled .keep .stay⟩,
    ⟨.behavior, .engaged, if behavior.readsAliasOf trigger then
      { Reaction.conclude .record false with guard := .undecided } else .conclude .record false⟩], ?_⟩
  exact {
    placements_eq := by
      simp [Core.pooledRequirement, placed, event?, pattern, Pattern.behavior, Pattern.trigger?]
    distinct := by cases behavior.readsAliasOf trigger <;> decide
    ordered := by cases behavior.readsAliasOf trigger <;> decide
    given := by simp [Role.rank, event?, pattern, Pattern.trigger?]
    complete := complete_of_both ⟨_, List.mem_cons_of_mem _ List.mem_cons_self, rfl⟩
      fun _ => ⟨_, List.mem_cons_self, rfl⟩
    reached := fun state isOpen => .inl (List.mem_singleton.mp isOpen) }

theorem response_posted {trigger behavior : Event} {bound : Bound}
    (pattern : property.pattern = .response trigger behavior bound) :
    ∃ posts, (Core.response trigger behavior bound).Posted property posts := by
  refine ⟨⟨.trigger, .idle, .pooling .message .push (.goto .pending)⟩ ::
    ((if behavior.readsAliasOf trigger then
        [⟨.trigger, .pending, .pooling .message .push .stay⟩] else []) ++
      [⟨.behavior, .pending, .pooling .consumePooled .keep (.drain .idle .pending)⟩]), ?_⟩
  exact {
    placements_eq := by
      cases read : behavior.readsAliasOf trigger <;>
        simp [Core.response, placed, event?, pattern, Pattern.behavior, Pattern.trigger?, read]
    distinct := by cases behavior.readsAliasOf trigger <;> decide
    ordered := by cases behavior.readsAliasOf trigger <;> decide
    given := by
      cases behavior.readsAliasOf trigger <;>
        simp [Role.rank, event?, pattern, Pattern.trigger?]
    complete := complete_of_both ⟨_, List.mem_cons_of_mem _ (List.mem_append_right _
        (List.mem_singleton.mpr rfl)), rfl⟩ fun _ => ⟨_, List.mem_cons_self, rfl⟩
    reached := by
      intro state isOpen
      rcases List.mem_pair.mp isOpen with rfl | rfl
      · exact .inl rfl
      · exact .inr (.inl ⟨_, List.mem_cons_self, rfl, List.mem_singleton.mpr rfl⟩) }

end Patterns

section Core

variable {core : Core} (made : property.pattern.core property.scope.kind.isReentrant = .ok core)

include made

theorem core_posted : ∃ posts, core.Posted property posts := by
  cases hasCore made with
  | absence pattern => exact ⟨_, absence_posted _ pattern⟩
  | existence pattern => exact ⟨_, existence_posted _ pattern⟩
  | simpleRequirement pattern _ => exact ⟨_, simpleRequirement_posted _ pattern⟩
  | pooledRequirement pattern _ => exact pooledRequirement_posted pattern
  | response pattern => exact response_posted pattern

/-- No state has two deadlines. -/
theorem core_deadline {timed : State × Deadline} (member : timed ∈ core.deadlines) :
    core.deadlines.lookup timed.1 = some timed.2 := by
  have single {bound : Bound} {state : State} {deadline : Deadline}
      (member : timed ∈ Core.deadlineIf bound state deadline) :
      (Core.deadlineIf bound state deadline).lookup timed.1 = some timed.2 := by
    obtain ⟨bounded, rfl⟩ := Core.mem_deadlineIf member
    exact Core.lookup_deadlineIf bounded state deadline
  cases hasCore made with
  | absence => exact single member
  | existence => exact single member
  | simpleRequirement => exact absurd member List.not_mem_nil
  | pooledRequirement => exact single member
  | response => exact single member

end Core

/-- The posts of the scope: the activator opens it, and the terminator closes it in every open
state. -/
def scopePosts (property : Property) (core : Core) : List Post :=
  ⟨.activator, .inactive, .enter core.entry⟩ ::
    core.openStates.map fun state =>
      ⟨.terminator, state, closing property.scope.kind.isReentrant property.pattern.kind state⟩

theorem scopePlacements_eq (property : Property) (core : Core) :
    property.scopePlacements core = (property.scopePosts core).flatMap property.placed := by
  rw [scopePlacements, scopePosts, List.flatMap_cons, List.flatMap_map]
  congr 1
  cases given : property.scope.terminator? with
  | none => simp [placed, event?, given]
  | some terminator => simp [placed, event?, given]

theorem rank_scopePosts {core : Core} {post : Post} (member : post ∈ property.scopePosts core) :
    post.role.rank = 0 := by
  rcases List.mem_cons.mp member with rfl | closes
  · rfl
  · obtain ⟨state, _, rfl⟩ := List.mem_map.mp closes
    rfl

end Property

/-- The table of a machine as a list of posts. -/
structure Machine.Arranged (machine : Machine) (property : Property) (posts : List Post) : Prop where
  placements_eq : machine.placements = posts.flatMap property.placed
  distinct : posts.Nodup
  ordered : posts.Pairwise fun first second => first.role.rank ≤ second.role.rank
  complete : ∀ {role event}, property.event? role = some event → ∃ post ∈ posts, post.role = role

/-- The posts of the scope come before those of the pattern. -/
theorem Core.Posted.arranged {core : Core} {property : Property} {posts : List Post}
    (posted : core.Posted property posts) (regular : core.Regular) :
    (property.assemble core).Arranged property (property.scopePosts core ++ posts) where
  placements_eq := by
    rw [List.flatMap_append, ← property.scopePlacements_eq, ← posted.placements_eq]
    rfl
  distinct := by
    refine List.nodup_append.mpr ⟨?_, posted.distinct, fun post member other later => ?_⟩
    · refine List.nodup_cons.mpr ⟨by simp, regular.distinct.map fun first second same => ?_⟩
      exact congrArg Post.state same
    · rintro rfl
      have patterned := (posted.given post later).1
      rw [Property.rank_scopePosts member] at patterned
      exact absurd patterned (by decide)
  ordered := by
    refine List.pairwise_append.mpr ⟨?_, posted.ordered, fun post member other _ => ?_⟩
    · refine List.pairwise_of_forall_mem_list fun first member second _ => ?_
      rw [Property.rank_scopePosts member]
      exact Nat.zero_le _
    · rw [Property.rank_scopePosts member]
      exact Nat.zero_le _
  complete := by
    intro role event plays
    cases role with
    | activator => exact ⟨_, List.mem_append_left _ List.mem_cons_self, rfl⟩
    | terminator =>
        exact ⟨_, List.mem_append_left _ (List.mem_cons_of_mem _ (List.mem_map_of_mem regular.entry)),
          rfl⟩
    | trigger =>
        obtain ⟨post, member, same⟩ := posted.complete (by decide) plays
        exact ⟨post, List.mem_append_right _ member, same⟩
    | behavior =>
        obtain ⟨post, member, same⟩ := posted.complete (by decide) plays
        exact ⟨post, List.mem_append_right _ member, same⟩

end TemporalMonitor
