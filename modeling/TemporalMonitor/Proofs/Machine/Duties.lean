import TemporalMonitor.Proofs.Machine.Rules

/-!
Everything that the rules of a compiled machine do.

A duty is what an event does in a state. The scope has duties that open an episode and close it, and
the pattern has duties that settle the verdict or work on the pool. Every rule of a compiled machine
is a branch of an event that carries out one of its duties.
-/

namespace TemporalMonitor

/-- The event that plays a role in the property, if there is one. -/
def Property.event? (property : Property) : Role → Option Event
  | .activator => property.scope.activator?
  | .terminator => property.scope.terminator?
  | .trigger => property.pattern.trigger?
  | .behavior => some property.pattern.behavior

/-- The state in which the episodes of a pattern start. -/
def PatternKind.entry : PatternKind → State
  | .response => .idle
  | _ => .engaged

/-- The event with this role decides an episode as soon as it passes the guard. -/
inductive Pattern.Decides : Pattern → Role → Guard → Bool → Prop where
  | broken {behavior : Event} {bound : Bound} :
      Decides (.absence behavior bound) .behavior .message false
  | found {behavior : Event} {bound : Bound} :
      Decides (.existence behavior bound) .behavior .message true
  | granted {behavior trigger : Event} (unread : behavior.readsAliasOf trigger = false) :
      Decides (.requirement behavior trigger .unbounded) .trigger .message true
  | refused {behavior trigger : Event} {bound : Bound}
      (unread : behavior.readsAliasOf trigger = false) :
      Decides (.requirement behavior trigger bound) .behavior .message false
  | unmatched {behavior trigger : Event} {bound : Bound}
      (read : behavior.readsAliasOf trigger = true) :
      Decides (.requirement behavior trigger bound) .behavior .undecided false

/-- What the event with a role does in a state of the machine. -/
inductive Duty (property : Property) : Role → State → Reaction → Prop where
  | opens : Duty property .activator .inactive (.enter property.pattern.kind.entry)
  | leaves {state : State} (again : property.scope.kind.isReentrant = true)
      (here : state = .engaged ∨ state = .idle ∨ state = .safe) :
      Duty property .terminator state .leave
  | closes {state : State} (here : state = .engaged ∨ state = .idle) :
      Duty property .terminator state (.close .record (property.pattern.kind != .existence))
  | closesOwed (response : property.pattern.kind = .response) :
      Duty property .terminator .pending (.close .recordBoth false)
  | decides {role : Role} {guard : Guard} {verdict : Bool}
      (decides : property.pattern.Decides role guard verdict) :
      Duty property role .engaged { Reaction.conclude .record verdict with guard := guard }
  /-- Where further episodes may come, a success settles only the present one. -/
  | secures {role : Role} (decides : property.pattern.Decides role .message true)
      (again : property.scope.kind.isReentrant = true) :
      Duty property role .engaged (.goto .record .safe)
  | stores {action : PoolAction} (requirement : property.pattern.kind = .requirement)
      (stores : action = .push ∨ action = .replace) :
      Duty property .trigger .engaged (.pooling .message action .stay)
  | allows (requirement : property.pattern.kind = .requirement) :
      Duty property .behavior .engaged (.pooling .anyPooled .keep .stay)
  | owes (response : property.pattern.kind = .response) :
      Duty property .trigger .idle (.pooling .message .push (.goto .pending))
  | owesMore (response : property.pattern.kind = .response) :
      Duty property .trigger .pending (.pooling .message .push .stay)
  | answers (response : property.pattern.kind = .response) :
      Duty property .behavior .pending (.pooling .consumePooled .keep (.drain .idle .pending))

/-- No event does anything to a monitor that is stopped or has reached its verdict. -/
theorem Duty.live {property : Property} {role : Role} {state : State} {reaction : Reaction}
    (duty : Duty property role state reaction) : state ≠ .off ∧ state.isTerminal = false := by
  cases duty with
  | leaves _ here => rcases here with rfl | rfl | rfl <;> decide
  | closes here => rcases here with rfl | rfl <;> decide
  | _ => decide

/-- Before an episode opens there is nothing to do but for the activator. -/
theorem Duty.activates {property : Property} {role : Role} {reaction : Reaction}
    (duty : Duty property role .inactive reaction) :
    role = .activator ∧ reaction = .enter property.pattern.kind.entry := by
  cases duty with
  | opens => exact ⟨rfl, rfl⟩
  | leaves _ here => exact absurd here (by decide)
  | closes here => exact absurd here (by decide)

/-- The rule is a branch of an event that carries out one of its duties in the state. -/
structure Performs (property : Property) (state : State) (rule : Rule) : Prop where
  duty : Duty property rule.role state rule.reaction
  source : ∃ event branch, property.event? rule.role = some event ∧ branch ∈ event.branches ∧
    rule = event.rule rule.role rule.reaction branch

theorem Duty.performs {property : Property} {role : Role} {state : State} {reaction : Reaction}
    (duty : Duty property role state reaction) {event : Event}
    (given : property.event? role = some event) {placement : Placement}
    (member : placement ∈ event.place role state reaction) :
    Performs property placement.state placement.rule := by
  obtain ⟨there, branch, listed, same⟩ := Event.mem_place member
  rw [there, same]
  exact ⟨duty, event, branch, given, listed, rfl⟩

namespace Property

variable {property : Property}

section Patterns

theorem absence_performs {behavior : Event} {bound : Bound} {isReentrant : Bool}
    (pattern : property.pattern = .absence behavior bound) :
    ∀ placement ∈ (Core.absence isReentrant behavior bound).placements,
      Performs property placement.state placement.rule := by
  intro placement member
  have given : property.event? .behavior = some behavior := by rw [event?, pattern]; rfl
  exact (Duty.decides (by rw [pattern]; exact .broken)).performs given member

theorem existence_performs {behavior : Event} {bound : Bound}
    (pattern : property.pattern = .existence behavior bound) :
    ∀ placement ∈ (Core.existence property.scope.kind.isReentrant behavior bound).placements,
      Performs property placement.state placement.rule := by
  intro placement member
  have given : property.event? .behavior = some behavior := by rw [event?, pattern]; rfl
  have decides : property.pattern.Decides .behavior .message true := by rw [pattern]; exact .found
  cases again : property.scope.kind.isReentrant with
  | true =>
      rw [again] at member
      exact (Duty.secures decides again).performs given member
  | false =>
      rw [again] at member
      exact (Duty.decides decides).performs given member

theorem simpleRequirement_performs {behavior trigger : Event}
    (pattern : property.pattern = .requirement behavior trigger .unbounded)
    (unread : behavior.readsAliasOf trigger = false) :
    ∀ placement ∈
        (Core.simpleRequirement property.scope.kind.isReentrant behavior trigger).placements,
      Performs property placement.state placement.rule := by
  intro placement member
  rcases List.mem_append.mp member with triggers | behaves
  · have given : property.event? .trigger = some trigger := by rw [event?, pattern]; rfl
    have decides : property.pattern.Decides .trigger .message true := by
      rw [pattern]
      exact .granted unread
    cases again : property.scope.kind.isReentrant with
    | true =>
        rw [again] at triggers
        exact (Duty.secures decides again).performs given triggers
    | false =>
        rw [again] at triggers
        exact (Duty.decides decides).performs given triggers
  · have given : property.event? .behavior = some behavior := by rw [event?, pattern]; rfl
    exact (Duty.decides (by rw [pattern]; exact .refused unread)).performs given behaves

theorem pooledRequirement_performs {behavior trigger : Event} {bound : Bound}
    (pattern : property.pattern = .requirement behavior trigger bound) :
    ∀ placement ∈ (Core.pooledRequirement behavior trigger bound).placements,
      Performs property placement.state placement.rule := by
  intro placement member
  have requirement : property.pattern.kind = .requirement := by rw [pattern]; rfl
  have triggering : property.event? .trigger = some trigger := by rw [event?, pattern]; rfl
  have behaving : property.event? .behavior = some behavior := by rw [event?, pattern]; rfl
  rcases List.mem_append.mp member with member | unmatched
  · rcases List.mem_append.mp member with stores | allows
    · refine (Duty.stores requirement ?_).performs triggering stores
      cases behavior.readsAliasOf trigger with
      | true => exact .inl rfl
      | false => exact .inr rfl
    · exact (Duty.allows requirement).performs behaving allows
  · cases read : behavior.readsAliasOf trigger with
    | true =>
        rw [read] at unmatched
        exact (Duty.decides (by rw [pattern]; exact .unmatched read)).performs behaving unmatched
    | false =>
        rw [read] at unmatched
        exact (Duty.decides (by rw [pattern]; exact .refused read)).performs behaving unmatched

theorem response_performs {trigger behavior : Event} {bound : Bound}
    (pattern : property.pattern = .response trigger behavior bound) :
    ∀ placement ∈ (Core.response trigger behavior bound).placements,
      Performs property placement.state placement.rule := by
  intro placement member
  have response : property.pattern.kind = .response := by rw [pattern]; rfl
  have triggering : property.event? .trigger = some trigger := by rw [event?, pattern]; rfl
  have behaving : property.event? .behavior = some behavior := by rw [event?, pattern]; rfl
  rcases List.mem_append.mp member with member | answers
  · rcases List.mem_append.mp member with owes | owesMore
    · exact (Duty.owes response).performs triggering owes
    · split at owesMore
      · exact (Duty.owesMore response).performs triggering owesMore
      · exact absurd owesMore List.not_mem_nil
  · exact (Duty.answers response).performs behaving answers

end Patterns

section Core

variable {core : Core} (made : property.pattern.core property.scope.kind.isReentrant = .ok core)

include made

/-- The rules of a pattern carry out its duties. -/
theorem core_performs :
    ∀ placement ∈ core.placements, Performs property placement.state placement.rule := by
  cases hasCore made with
  | absence pattern => exact absence_performs pattern
  | existence pattern => exact existence_performs pattern
  | simpleRequirement pattern unread => exact simpleRequirement_performs pattern unread
  | pooledRequirement pattern _ => exact pooledRequirement_performs pattern
  | response pattern => exact response_performs pattern

/-- Where the episodes of a pattern start, and which states are open. -/
theorem core_states :
    core.entry = property.pattern.kind.entry ∧
      (core.openStates = [.engaged] ∨
        core.openStates = [.engaged, .safe] ∧ property.scope.kind.isReentrant = true ∨
        core.openStates = [.idle, .pending] ∧ property.pattern.kind = .response) := by
  cases hasCore made with
  | absence pattern =>
      rw [pattern]
      refine ⟨rfl, ?_⟩
      unfold Core.absence
      dsimp only
      split
      · next both => exact .inr (.inl ⟨rfl, (Bool.and_eq_true_iff.mp both).1⟩)
      · exact .inl rfl
  | existence pattern =>
      rw [pattern]
      refine ⟨rfl, ?_⟩
      unfold Core.existence
      dsimp only
      split
      · next again => exact .inr (.inl ⟨rfl, again⟩)
      · exact .inl rfl
  | simpleRequirement pattern _ =>
      rw [pattern]
      refine ⟨rfl, ?_⟩
      unfold Core.simpleRequirement
      dsimp only
      split
      · next again => exact .inr (.inl ⟨rfl, again⟩)
      · exact .inl rfl
  | pooledRequirement pattern _ =>
      rw [pattern]
      exact ⟨rfl, .inl rfl⟩
  | response pattern =>
      rw [pattern]
      exact ⟨rfl, .inr (.inr ⟨rfl, rfl⟩)⟩

/-- A scope that opens only once has no safe state, and only a response can be pending. -/
theorem openStates_cases {state : State} (isOpen : state ∈ core.openStates) :
    state = .engaged ∨ state = .idle ∨
      state = .safe ∧ property.scope.kind.isReentrant = true ∨
      state = .pending ∧ property.pattern.kind = .response := by
  rcases (core_states made).2 with only | ⟨both, again⟩ | ⟨both, response⟩
  · rw [only] at isOpen
    exact .inl (List.mem_singleton.mp isOpen)
  · rw [both, List.mem_pair] at isOpen
    rcases isOpen with engaged | safe
    · exact .inl engaged
    · exact .inr (.inr (.inl ⟨safe, again⟩))
  · rw [both, List.mem_pair] at isOpen
    rcases isOpen with idle | pending
    · exact .inr (.inl idle)
    · exact .inr (.inr (.inr ⟨pending, response⟩))

/-- What a terminator does in an open state. -/
theorem closing_duty {state : State} (isOpen : state ∈ core.openStates) :
    Duty property .terminator state
      (closing property.scope.kind.isReentrant property.pattern.kind state) := by
  by_cases owed : state = .pending
  · rcases openStates_cases made isOpen with engaged | idle | ⟨safe, _⟩ | ⟨_, response⟩
    · exact absurd (engaged.symm.trans owed) (by decide)
    · exact absurd (idle.symm.trans owed) (by decide)
    · exact absurd (safe.symm.trans owed) (by decide)
    · rw [owed, response]
      exact .closesOwed response
  · have leaves (again : property.scope.kind.isReentrant = true) :
        Duty property .terminator state .leave := by
      refine .leaves again ?_
      rcases openStates_cases made isOpen with engaged | idle | ⟨safe, _⟩ | ⟨pending, _⟩
      · exact .inl engaged
      · exact .inr (.inl idle)
      · exact .inr (.inr safe)
      · exact absurd pending owed
    have closes (once : ¬ property.scope.kind.isReentrant = true) :
        Duty property .terminator state
          (.close .record (property.pattern.kind != .existence)) := by
      refine .closes ?_
      rcases openStates_cases made isOpen with engaged | idle | ⟨_, again⟩ | ⟨pending, _⟩
      · exact .inl engaged
      · exact .inr idle
      · exact absurd again once
      · exact absurd pending owed
    unfold closing
    split
    · exact absurd rfl owed
    · next existence =>
        have missing : Duty property .terminator .engaged
            (.close .record (property.pattern.kind != .existence)) := .closes (.inl rfl)
        rwa [existence] at missing
    · next existence _ =>
        split
        · next again => exact leaves again
        · next once =>
            have missing := closes once
            rwa [existence] at missing
    · next other _ _ =>
        split
        · next again => exact leaves again
        · next once =>
            have met := closes once
            rwa [bne_iff_ne.mpr other] at met

/-- Every rule of a compiled machine carries out a duty. -/
theorem rulesAt_performs {topic : String} {state : State} {rule : Rule}
    (member : rule ∈ (property.assemble core).rulesAt topic state) :
    Performs property state rule := by
  obtain ⟨placement, listed, rfl, _, rfl⟩ := Machine.mem_rulesAt.mp member
  rcases List.mem_append.mp listed with ofScope | ofCore
  · rcases List.mem_append.mp ofScope with opening | closings
    · cases given : property.scope.activator? with
      | none => simp [given] at opening
      | some activator =>
          simp only [given, (core_states made).1] at opening
          exact Duty.opens.performs given opening
    · cases given : property.scope.terminator? with
      | none => simp [given] at closings
      | some terminator =>
          simp only [given] at closings
          obtain ⟨state, isOpen, closes⟩ := List.mem_flatMap.mp closings
          exact (closing_duty made isOpen).performs given closes
  · exact core_performs made placement ofCore

end Core

end Property

end TemporalMonitor
