import TemporalMonitor.Proofs.Monitor.Operation

/-!
No compiled monitor fails on its own account.

The pool suits the state: it keeps to the capacity of the machine, and for a response it holds records
exactly while one is owed. Every rule and every deadline of a compiled machine can act whenever the
pool suits the state, and leaves a pool that suits the next one.
-/

namespace TemporalMonitor

namespace Pool

theorem length_insertEntry_le (entry : Entry) (entries : List Entry) :
    (insertEntry entry entries).length ≤ entries.length + 1 := by
  induction entries with
  | nil => exact Nat.le_refl _
  | cons first rest ih =>
      rw [insertEntry]
      split
      · exact Nat.le_refl _
      · split
        · simpa using ih
        · simp

theorem size_stored_le (pool : Pool) (record : Record) :
    (pool.stored record).size ≤ pool.size + 1 :=
  length_insertEntry_le _ _

theorem size_eq_zero {pool : Pool} (vacant : pool.records = []) : pool.size = 0 := by
  rw [size, List.map_eq_nil_iff.mp vacant]
  rfl

/-- An action that does not push makes a pool no larger than one record, or leaves it as large. -/
theorem size_updated_le (pool : Pool) {action : PoolAction} (record : Record)
    (other : action ≠ .push) :
    (pool.updated action record).size ≤ pool.size ∨
      action = .replace ∧ (pool.updated action record).size ≤ 1 := by
  cases action with
  | keep => exact .inl (Nat.le_refl _)
  | push => exact absurd rfl other
  | clear => exact .inl (Nat.zero_le _)
  | replace =>
      unfold updated
      dsimp only
      split
      · exact .inl (Nat.le_refl _)
      · exact .inr ⟨rfl, pool.clear.size_stored_le record⟩

@[simp] theorem capacity_updated (pool : Pool) (action : PoolAction) (record : Record) :
    (pool.updated action record).capacity = pool.capacity := by
  cases action with
  | replace =>
      unfold updated
      dsimp only
      split <;> rfl
  | keep => rfl
  | push => rfl
  | clear => rfl

end Pool

namespace Instance

variable (inst : Instance) (reaction : Reaction) (record : Record) (discharged : Record → Bool)

theorem size_poolLeft_le (guard : Guard) :
    (inst.poolLeft guard discharged).size ≤ inst.pool.size := by
  cases guard with
  | consumePooled => exact List.length_filter_le _ _
  | message => exact Nat.le_refl _
  | undecided => exact Nat.le_refl _
  | anyPooled => exact Nat.le_refl _

theorem capacity_poolAfter :
    (inst.poolAfter reaction record discharged).capacity = inst.pool.capacity := by
  rw [poolAfter, Pool.capacity_updated, capacity_poolLeft]

end Instance

namespace Machine

variable {machine : Machine} {state : State} {pool : Pool}

/-- The pool keeps to the capacity, and for a response it holds records exactly while one is owed. -/
structure Suits (machine : Machine) (state : State) (pool : Pool) : Prop where
  capacity : pool.capacity = machine.capacity
  size : ∀ limit, machine.capacity.limit? = some limit → pool.size ≤ limit
  settled : machine.pattern = .response → state = .inactive ∨ state = .idle → pool.records = []
  owed : machine.pattern = .response → state = .pending → pool.records ≠ []

/-- An empty pool suits every state in which nothing is owed. -/
theorem Suits.of_empty (capacity : pool.capacity = machine.capacity) (vacant : pool.records = [])
    (settled : machine.pattern = .response → state ≠ .pending) : machine.Suits state pool where
  capacity := capacity
  size := fun limit _ => by rw [Pool.size_eq_zero vacant]; exact Nat.zero_le limit
  settled := fun _ _ => vacant
  owed := fun response isPending => absurd isPending (settled response)

/-- A pool that has not grown suits every state that asks for nothing else. -/
theorem Suits.shrunk (suits : machine.Suits state pool) {smaller : Pool} {next : State}
    (capacity : smaller.capacity = pool.capacity) (size : smaller.size ≤ pool.size)
    (lenient : machine.pattern = .response → next ≠ .inactive ∧ next ≠ .idle ∧ next ≠ .pending) :
    machine.Suits next smaller where
  capacity := capacity.trans suits.capacity
  size := fun limit limited => Nat.le_trans size (suits.size limit limited)
  settled := fun response quiet => by
    obtain ⟨notInactive, notIdle, _⟩ := lenient response
    rcases quiet with rfl | rfl
    · exact absurd rfl notInactive
    · exact absurd rfl notIdle
  owed := fun response isPending => absurd isPending (lenient response).2.2

/-- A reaction fits a state if nothing hinders it there and the pool suits the next state. -/
def Fits (machine : Machine) (state : State) (reaction : Reaction) : Prop :=
  ∀ inst : Instance, inst.state = state → machine.Suits state inst.pool →
    inst.Permits reaction ∧ ∀ record discharged,
      machine.Suits (inst.reacted reaction record discharged).state
        (inst.reacted reaction record discharged).pool

/-- A reaction of another pattern than a response fits if the capacity allows what it stores. -/
theorem fits_of_other {reaction : Reaction} (other : machine.pattern ≠ .response)
    (push : reaction.pool = .push → machine.capacity = .unbounded)
    (replace : reaction.pool = .replace → machine.capacity ≠ .zero)
    (unreported : reaction.witness ≠ .recordPending ∧ reaction.witness ≠ .recordBoth) :
    machine.Fits state reaction := by
  intro inst _ suits
  have permits : inst.Permits reaction := {
    room := fun pushes => Pool.isFull_of_unbounded (by rw [suits.capacity, push pushes]; rfl)
    space := fun replaces => by rw [suits.capacity]; exact replace replaces
    pending := fun reports => by
      rcases reports with reported | reported
      · exact absurd reported unreported.1
      · exact absurd reported unreported.2 }
  refine ⟨permits, fun record discharged => ?_⟩
  have capacity := inst.capacity_poolAfter reaction record discharged
  exact {
    capacity := capacity.trans suits.capacity
    size := by
      intro limit limited
      by_cases pushes : reaction.pool = .push
      · rw [push pushes] at limited
        exact absurd limited (by simp [Capacity.limit?])
      · have left := inst.size_poolLeft_le discharged reaction.guard
        have before := suits.size limit limited
        rcases Pool.size_updated_le _ record pushes with size | ⟨replaces, size⟩
        · exact Nat.le_trans size (Nat.le_trans left before)
        · have room : 1 ≤ limit := by
            have roomy := replace replaces
            cases kind : machine.capacity with
            | zero => exact absurd kind roomy
            | one => simp [kind, Capacity.limit?] at limited; omega
            | unbounded => simp [kind, Capacity.limit?] at limited
          exact Nat.le_trans size room
    settled := fun response => absurd response other
    owed := fun response => absurd response other }

/-- The activator of a response finds an empty pool. -/
theorem fits_enter (response : machine.pattern = .response) :
    machine.Fits .inactive (.enter .idle) := by
  intro inst _ suits
  refine ⟨⟨by simp [Reaction.enter, Reaction.goto], by simp [Reaction.enter, Reaction.goto],
    by simp [Reaction.enter, Reaction.goto]⟩, fun record discharged => ?_⟩
  exact .of_empty suits.capacity (suits.settled response (.inl rfl)) fun _ => by
    change State.idle ≠ State.pending
    decide

/-- An episode of a response in which nothing is owed may close. -/
theorem fits_leave (state : State) : machine.Fits state .leave := by
  intro inst _ suits
  refine ⟨⟨by simp [Reaction.leave, Reaction.goto], by simp [Reaction.leave, Reaction.goto],
    by simp [Reaction.leave, Reaction.goto]⟩, fun record discharged => ?_⟩
  exact .of_empty suits.capacity rfl fun _ => by
    change State.inactive ≠ State.pending
    decide

/-- An episode may close for good if nothing that is not pooled has to be reported. -/
theorem fits_close {witness : WitnessAction} {verdict : Bool}
    (reports : witness = .recordPending ∨ witness = .recordBoth →
      machine.pattern = .response ∧ state = .pending) :
    machine.Fits state (.close witness verdict) := by
  intro inst _ suits
  refine ⟨⟨by simp [Reaction.close, Reaction.conclude, Reaction.goto],
    by simp [Reaction.close, Reaction.conclude, Reaction.goto],
    fun reported => suits.owed (reports reported).1 (reports reported).2⟩, fun record discharged => ?_⟩
  refine suits.shrunk rfl (Nat.le_refl _) fun _ => ?_
  change State.ofVerdict verdict ≠ .inactive ∧ State.ofVerdict verdict ≠ .idle ∧
    State.ofVerdict verdict ≠ .pending
  cases verdict <;> decide

/-- The first trigger of a response finds an empty pool. -/
theorem fits_owe (response : machine.pattern = .response) (roomy : machine.capacity ≠ .zero) :
    machine.Fits .idle (.pooling .message .push (.goto .pending)) := by
  intro inst _ suits
  have vacant := Pool.size_eq_zero (suits.settled response (.inr rfl))
  have room : inst.pool.isFull = false := by
    cases limited : inst.pool.capacity.limit? with
    | none => exact Pool.isFull_of_unbounded limited
    | some limit =>
        have positive : limit ≠ 0 := by
          rintro rfl
          rw [suits.capacity] at limited
          cases kind : machine.capacity <;> simp_all [Capacity.limit?]
        rw [inst.pool.isFull_of_limit limited, vacant]
        exact decide_eq_false (by omega)
  refine ⟨⟨fun _ => room, by simp [Reaction.pooling], by simp [Reaction.pooling]⟩,
    fun record discharged => ?_⟩
  exact {
    capacity := suits.capacity
    size := by
      intro limit limited
      have size : (inst.pool.stored record).size ≤ inst.pool.size + 1 :=
        inst.pool.size_stored_le record
      rw [← suits.capacity] at limited
      rw [inst.pool.isFull_of_limit limited] at room
      have below : ¬ limit ≤ inst.pool.size := of_decide_eq_false room
      change (inst.pool.stored record).size ≤ limit
      omega
    settled := fun _ quiet => by
      change State.pending = .inactive ∨ State.pending = .idle at quiet
      exact absurd quiet (by decide)
    owed := fun _ _ => Pool.records_stored_ne_nil }

/-- A response that keeps all triggers has room for more of them. -/
theorem fits_owe_more (unbounded : machine.capacity = .unbounded) :
    machine.Fits .pending (.pooling .message .push .stay) := by
  intro inst isPending suits
  have unlimited : machine.capacity.limit? = none := by rw [unbounded]; rfl
  have room : inst.pool.isFull = false :=
    Pool.isFull_of_unbounded (by rw [suits.capacity]; exact unlimited)
  refine ⟨⟨fun _ => room, by simp [Reaction.pooling], by simp [Reaction.pooling]⟩,
    fun record discharged => ?_⟩
  exact {
    capacity := suits.capacity
    size := fun limit limited => by rw [unlimited] at limited; exact absurd limited (by simp)
    settled := fun _ quiet => by
      change inst.state = .inactive ∨ inst.state = .idle at quiet
      rw [isPending] at quiet
      exact absurd quiet (by decide)
    owed := fun _ _ => Pool.records_stored_ne_nil }

/-- A behavior takes records out of the pool, and with the last one nothing is owed any more. -/
theorem fits_discharge :
    machine.Fits .pending (.pooling .consumePooled .keep (.drain .idle .pending)) := by
  intro inst _ suits
  refine ⟨⟨by simp [Reaction.pooling], by simp [Reaction.pooling], by simp [Reaction.pooling]⟩,
    fun record discharged => ?_⟩
  have size : (inst.pool.without discharged).size ≤ inst.pool.size := List.length_filter_le _ _
  have left : (inst.reacted (.pooling .consumePooled .keep (.drain .idle .pending)) record
      discharged).pool = inst.pool.without discharged := rfl
  have next : (inst.reacted (.pooling .consumePooled .keep (.drain .idle .pending)) record
      discharged).state = if (inst.pool.without discharged).isEmpty then .idle else .pending := rfl
  rw [left, next]
  by_cases drained : (inst.pool.without discharged).isEmpty = true
  · rw [if_pos drained]
    exact .of_empty suits.capacity (Pool.isEmpty_iff.mp drained) fun _ => by decide
  · rw [if_neg drained]
    exact {
      capacity := suits.capacity
      size := fun limit limited => Nat.le_trans size (suits.size limit limited)
      settled := fun _ quiet => absurd quiet (by decide)
      owed := fun _ _ vacant => drained (Pool.isEmpty_iff.mpr vacant) }

/-- What a terminator does fits the state in which it comes. -/
theorem fits_closing (machine : Machine) (isReentrant : Bool) (state : State) :
    machine.Fits state (closing isReentrant machine.pattern state) := by
  unfold closing
  split
  · next response => exact fits_close fun _ => ⟨response, rfl⟩
  · exact fits_close (by simp)
  · split
    · exact fits_leave _
    · exact fits_close (by simp)
  · split
    · exact fits_leave _
    · exact fits_close (by simp)

theorem fits_place {event : Event} {role : Role} {reaction : Reaction} {placement : Placement}
    (fits : machine.Fits state reaction) (member : placement ∈ event.place role state reaction) :
    machine.Fits placement.state placement.rule.reaction := by
  obtain ⟨there, branch, _, same⟩ := Event.mem_place member
  rw [there, same]
  exact fits

/-- A deadline can act in its state: what it reports is pooled there. -/
inductive Due (machine : Machine) : State → Deadline → Prop where
  | evict {state : State} {anchor : Anchor} (other : machine.pattern ≠ .response) :
      Due machine state ⟨anchor, .evict⟩
  | keep {state next : State} {anchor : Anchor} {verdict? : Option Bool}
      (other : machine.pattern ≠ .response) :
      Due machine state ⟨anchor, .transition .keep verdict? next⟩
  | pending {anchor : Anchor} {verdict? : Option Bool} (response : machine.pattern = .response) :
      Due machine .pending ⟨anchor, .transition .recordPending verdict? .rejected⟩

/-- Every rule and every deadline can act where it stands, and no test crashes. -/
structure Sound (machine : Machine) : Prop where
  total : ∀ topic state, ∀ rule ∈ machine.rulesAt topic state, rule.predicate.Total
  fits : ∀ placement ∈ machine.placements, machine.Fits placement.state placement.rule.reaction
  due : ∀ timed ∈ machine.deadlines, machine.Due timed.1 timed.2
  unowed : machine.pattern = .response → machine.initial ≠ .pending

end Machine

namespace Property

variable {property : Property}

/-- The rules of the scope fit. -/
theorem scope_fits {core : Core}
    (enters : (property.assemble core).Fits .inactive (.enter core.entry)) :
    ∀ placement ∈ property.scopePlacements core,
      (property.assemble core).Fits placement.state placement.rule.reaction := by
  intro placement member
  rcases List.mem_append.mp member with opening | closings
  · cases given : property.scope.activator? with
    | none => simp [given] at opening
    | some activator =>
        simp only [given] at opening
        exact Machine.fits_place enters opening
  · cases given : property.scope.terminator? with
    | none => simp [given] at closings
    | some terminator =>
        simp only [given] at closings
        obtain ⟨state, _, closes⟩ := List.mem_flatMap.mp closings
        exact Machine.fits_place (Machine.fits_closing (property.assemble core) _ state) closes

/-- The machine of a core is sound if the rules and deadlines of the pattern are. -/
theorem assemble_sound {core : Core}
    (made : property.pattern.core property.scope.kind.isReentrant = .ok core)
    (total : property.Tests Predicate.Total)
    (enters : (property.assemble core).Fits .inactive (.enter core.entry))
    (fits : ∀ placement ∈ core.placements,
      (property.assemble core).Fits placement.state placement.rule.reaction)
    (due : ∀ timed ∈ core.deadlines, (property.assemble core).Due timed.1 timed.2)
    (unowed : property.pattern.kind = .response → core.entry ≠ .pending) :
    (property.assemble core).Sound where
  total := rulesAt_tests made total
  fits := fun placement member => by
    rcases List.mem_append.mp member with ofScope | ofCore
    · exact scope_fits enters placement ofScope
    · exact fits placement ofCore
  due := due
  unowed := fun response => by
    unfold assemble
    dsimp only
    split
    · decide
    · exact unowed response

section Patterns

variable (total : property.Tests Predicate.Total)

include total

/-- Machines of patterns other than responses are sound if the capacity allows what is stored. -/
theorem sound_of_other {core : Core}
    (made : property.pattern.core property.scope.kind.isReentrant = .ok core)
    (other : property.pattern.kind ≠ .response)
    (stores : ∀ placement ∈ core.placements,
      (placement.rule.reaction.pool = .push → core.capacity = .unbounded) ∧
        (placement.rule.reaction.pool = .replace → core.capacity ≠ .zero) ∧
        placement.rule.reaction.witness ≠ .recordPending ∧
        placement.rule.reaction.witness ≠ .recordBoth)
    (times : ∀ timed ∈ core.deadlines, timed.2.effect = .evict ∨
      ∃ verdict? next, timed.2.effect = .transition .keep verdict? next) :
    (property.assemble core).Sound := by
  refine assemble_sound made total ?_ ?_ ?_ fun response => absurd response other
  · exact Machine.fits_of_other other (by simp [Reaction.enter, Reaction.goto])
      (by simp [Reaction.enter, Reaction.goto]) (by simp [Reaction.enter, Reaction.goto])
  · intro placement member
    obtain ⟨push, replace, reports⟩ := stores placement member
    exact Machine.fits_of_other other push replace reports
  · rintro ⟨state, anchor, effect⟩ member
    rcases times _ member with rfl | ⟨verdict?, next, rfl⟩
    · exact .evict other
    · exact .keep other

theorem response_sound {trigger behavior : Event} {bound : Bound}
    (pattern : property.pattern = .response trigger behavior bound) :
    (property.assemble (Core.response trigger behavior bound)).Sound := by
  have response : (property.assemble (Core.response trigger behavior bound)).pattern =
      .response := by
    change property.pattern.kind = .response
    rw [pattern]
    rfl
  refine assemble_sound (by rw [pattern]; rfl) total (Machine.fits_enter response) ?_ ?_
    fun _ => by simp [Core.response]
  · intro placement member
    rcases List.mem_append.mp member with member | discharges
    · rcases List.mem_append.mp member with owes | owesMore
      · refine Machine.fits_place (Machine.fits_owe response ?_) owes
        change (if behavior.readsAliasOf trigger then Capacity.unbounded else .one) ≠ .zero
        split <;> decide
      · split at owesMore
        · next correlated =>
            refine Machine.fits_place (Machine.fits_owe_more ?_) owesMore
            change (if behavior.readsAliasOf trigger then Capacity.unbounded else .one) = .unbounded
            rw [if_pos correlated]
        · exact absurd owesMore List.not_mem_nil
    · exact Machine.fits_place Machine.fits_discharge discharges
  · intro timed member
    rw [(Core.mem_deadlineIf member).2]
    exact .pending response

theorem absence_sound {behavior : Event} {bound : Bound}
    (pattern : property.pattern = .absence behavior bound) :
    (property.assemble (Core.absence property.scope.kind.isReentrant behavior bound)).Sound := by
  refine sound_of_other total (by rw [pattern]; rfl) (by rw [pattern]; simp [Pattern.kind]) ?_ ?_
  · intro placement member
    obtain ⟨_, branch, _, same⟩ := Event.mem_place member
    rw [same]
    simp [Event.rule, Reaction.conclude, Reaction.goto]
  · intro timed member
    rw [(Core.mem_deadlineIf member).2]
    dsimp only
    split
    · exact .inr ⟨_, _, rfl⟩
    · exact .inr ⟨_, _, rfl⟩

theorem existence_sound {behavior : Event} {bound : Bound}
    (pattern : property.pattern = .existence behavior bound) :
    (property.assemble (Core.existence property.scope.kind.isReentrant behavior bound)).Sound := by
  refine sound_of_other total (by rw [pattern]; rfl) (by rw [pattern]; simp [Pattern.kind]) ?_ ?_
  · intro placement member
    obtain ⟨_, branch, _, same⟩ := Event.mem_place member
    rw [same]
    cases property.scope.kind.isReentrant <;> simp [Event.rule, Reaction.conclude, Reaction.goto]
  · intro timed member
    rw [(Core.mem_deadlineIf member).2]
    exact .inr ⟨_, _, rfl⟩

theorem requirement_sound {behavior trigger : Event} {bound : Bound}
    (pattern : property.pattern = .requirement behavior trigger bound) :
    (property.assemble
      (Core.requirement property.scope.kind.isReentrant behavior trigger bound)).Sound := by
  refine sound_of_other total (by rw [pattern]; rfl) (by rw [pattern]; simp [Pattern.kind]) ?_ ?_
  · intro placement member
    unfold Core.requirement at member ⊢
    split at member
    · rcases List.mem_append.mp member with member | member
      · obtain ⟨_, branch, _, same⟩ := Event.mem_place member
        rw [same]
        cases property.scope.kind.isReentrant <;>
          simp [Event.rule, Reaction.conclude, Reaction.goto]
      · obtain ⟨_, branch, _, same⟩ := Event.mem_place member
        rw [same]
        simp [Event.rule, Reaction.conclude, Reaction.goto]
    · next pooled =>
        rw [if_neg pooled]
        rcases List.mem_append.mp member with member | member
        · rcases List.mem_append.mp member with member | member
          · obtain ⟨_, branch, _, same⟩ := Event.mem_place member
            rw [same]
            refine ⟨fun pushes => ?_, fun _ => pooled, by simp [Event.rule, Reaction.pooling],
              by simp [Event.rule, Reaction.pooling]⟩
            have correlated : behavior.readsAliasOf trigger = true := by
              by_contra uncorrelated
              simp [Event.rule, Reaction.pooling, uncorrelated] at pushes
            simp [Core.pooledRequirement, Core.requirementCapacity, correlated]
          · obtain ⟨_, branch, _, same⟩ := Event.mem_place member
            rw [same]
            simp [Event.rule, Reaction.pooling]
        · obtain ⟨_, branch, _, same⟩ := Event.mem_place member
          rw [same]
          cases behavior.readsAliasOf trigger <;>
            simp [Event.rule, Reaction.conclude, Reaction.goto]
  · intro timed member
    unfold Core.requirement at member
    split at member
    · exact absurd member List.not_mem_nil
    · rw [(Core.mem_deadlineIf member).2]
      exact .inl rfl

end Patterns

/-- Every compiled machine is sound. -/
theorem compile_sound {machine : Machine} (compiled : property.compile = .ok machine)
    (total : property.Tests Predicate.Total) : machine.Sound := by
  obtain ⟨_, core, made, rfl⟩ := compile_cases compiled
  cases pattern : property.pattern with
  | absence behavior bound =>
      rw [pattern] at made
      obtain rfl := Except.ok.inj made
      exact absence_sound total pattern
  | existence behavior bound =>
      rw [pattern] at made
      obtain rfl := Except.ok.inj made
      exact existence_sound total pattern
  | requirement behavior trigger bound =>
      rw [pattern] at made
      obtain rfl := Except.ok.inj made
      exact requirement_sound total pattern
  | response trigger behavior bound =>
      rw [pattern] at made
      obtain rfl := Except.ok.inj made
      exact response_sound total pattern
  | prevention trigger behavior bound => simp [pattern, Pattern.core] at made

end Property

namespace Machine.Sound

variable {machine : Machine} {inst : Instance}

theorem due_of_deadline (sound : machine.Sound) {state : State} {deadline : Deadline}
    (timed : machine.deadline? state = some deadline) : machine.Due state deadline := by
  obtain ⟨before, after, listed, _⟩ := List.lookup_eq_some_iff.mp timed
  exact sound.due (state, deadline) (by rw [listed]; simp)

/-- A deadline never fails, and leaves a pool that suits the next state. -/
theorem checkDeadline (sound : machine.Sound) (suits : machine.Suits inst.state inst.pool)
    (now : Timestamp) :
    (machine.checkDeadline inst now).result = .ok () ∧
      machine.Suits (machine.checkDeadline inst now).inst.state
        (machine.checkDeadline inst now).inst.pool := by
  cases timed : machine.deadline? inst.state with
  | none =>
      rw [checkDeadline_of_none timed]
      exact ⟨rfl, suits⟩
  | some deadline =>
      have due := sound.due_of_deadline timed
      generalize there : inst.state = state at due
      cases due with
      | evict other =>
          cases bounded : machine.bound with
          | unbounded =>
              simp only [Machine.checkDeadline, timed, bounded]
              exact ⟨rfl, suits⟩
          | within span =>
              obtain ⟨result, evicted⟩ := checkDeadline_of_evict timed bounded
              refine ⟨result, ?_⟩
              rw [evicted]
              exact suits.shrunk rfl (List.dropWhile_sublist _).length_le
                fun response => absurd response other
      | keep other =>
          rcases checkDeadline_cases timed now with same | ran
          · rw [same]
            exact ⟨rfl, suits⟩
          · obtain ⟨result, lapsed⟩ := overrun_keep inst _ _ now
            rw [ran, lapsed]
            exact ⟨result, suits.shrunk rfl (Nat.le_refl _) fun response => absurd response other⟩
      | pending response =>
          rcases checkDeadline_cases timed now with same | ran
          · rw [same]
            exact ⟨rfl, suits⟩
          · -- Only a pending response is reported, and then a record is pooled.
            obtain ⟨oldest, first⟩ := Instance.exists_oldest (suits.owed response there)
            obtain ⟨result, lapsed⟩ := overrun_recordPending _ _ first
            rw [ran, lapsed]
            exact ⟨result, suits.shrunk rfl (Nat.le_refl _) fun _ => by simp [Machine.lapsed]⟩

/-- Time may pass at any moment. -/
theorem onTimer (sound : machine.Sound) (suits : machine.Suits inst.state inst.pool)
    (now : Timestamp) :
    (machine.onTimer inst now).result = .ok () ∧
      machine.Suits (machine.onTimer inst now).inst.state (machine.onTimer inst now).inst.pool := by
  by_cases isOff : inst.state = .off
  · rw [onTimer_of_off isOff]
    exact ⟨rfl, suits⟩
  · obtain ⟨result, remembered⟩ := onTimer_eq isOff now
    obtain ⟨latest?, observed⟩ := observe_inst inst now
    have still : machine.Suits (inst.observe now).1.state (inst.observe now).1.pool := by
      rw [observed]
      exact suits
    rw [result, remembered]
    exact sound.checkDeadline still now

/-- The rule that a message is for can act. -/
theorem permits (sound : machine.Sound) (suits : machine.Suits inst.state inst.pool)
    {topic : String} {rule : Rule} (member : rule ∈ machine.rulesAt topic inst.state) :
    inst.Permits rule.reaction ∧ ∀ record discharged,
      machine.Suits (inst.reacted rule.reaction record discharged).state
        (inst.reacted rule.reaction record discharged).pool := by
  obtain ⟨placement, listed, rfl, _, here⟩ := Machine.mem_rulesAt.mp member
  exact sound.fits placement listed inst here.symm (here.symm ▸ suits)

/-- What a message leaves behind suits the state. -/
theorem offered (sound : machine.Sound) (suits : machine.Suits inst.state inst.pool)
    (topic : String) (message : Message) (time : Timestamp) :
    machine.Suits
      (inst.offered topic message time (machine.rulesAt topic inst.state)).state
      (inst.offered topic message time (machine.rulesAt topic inst.state)).pool := by
  unfold Instance.offered
  cases chosen : (machine.rulesAt topic inst.state).find? (inst.admits message) with
  | none => exact suits
  | some rule => exact (sound.permits suits (List.mem_of_find?_eq_some chosen)).2 _ _

/-- Every message can be offered. -/
theorem offer (sound : machine.Sound) (suits : machine.Suits inst.state inst.pool)
    (running : inst.state.isTerminal = false) (topic : String) (message : Message)
    (time : Timestamp) :
    (∃ consumed, (machine.offer inst topic message time).result = .ok consumed) ∧
      (machine.offer inst topic message time).inst =
        inst.offered topic message time (machine.rulesAt topic inst.state) :=
  offer_eq (sound.total topic inst.state) (fun _ member => (sound.permits suits member).1) running

/-- Once the time of a message has passed, the message is offered unless the verdict is settled. -/
theorem onMessage_inst (sound : machine.Sound) (suits : machine.Suits inst.state inst.pool)
    (running : inst.state ≠ .off) (topic : String) (message : Message) (time : Timestamp) :
    (∃ consumed, (machine.onMessage inst topic message time).result = .ok consumed) ∧
      (machine.onMessage inst topic message time).inst =
        let passed := (machine.onTimer inst time).inst
        if passed.state.isTerminal then passed
        else passed.offered topic message time (machine.rulesAt topic passed.state) := by
  obtain ⟨passed, still⟩ := sound.onTimer suits time
  obtain ⟨result, remembered⟩ := onMessage_eq running passed topic message
  rw [result, remembered]
  dsimp only
  split
  · next settled =>
      rw [offer_of_terminal settled]
      exact ⟨⟨false, rfl⟩, rfl⟩
  · next unsettled => exact sound.offer still (Bool.eq_false_iff.mpr unsettled) topic message time

/-- Every message can be received. -/
theorem onMessage (sound : machine.Sound) (suits : machine.Suits inst.state inst.pool)
    (topic : String) (message : Message) (time : Timestamp) :
    (∃ consumed, (machine.onMessage inst topic message time).result = .ok consumed) ∧
      machine.Suits (machine.onMessage inst topic message time).inst.state
        (machine.onMessage inst topic message time).inst.pool := by
  by_cases isOff : inst.state = .off
  · rw [onMessage_of_off isOff]
    exact ⟨⟨false, rfl⟩, suits⟩
  · obtain ⟨received, remembered⟩ := sound.onMessage_inst suits isOff topic message time
    have still := (sound.onTimer suits time).2
    refine ⟨received, ?_⟩
    rw [remembered]
    dsimp only
    split
    · exact still
    · exact sound.offered still topic message time

/-- Every operation leaves a pool that suits the state. -/
theorem perform (sound : machine.Sound) (suits : machine.Suits inst.state inst.pool)
    (operation : Operation) :
    machine.Suits (machine.perform inst operation).state
      (machine.perform inst operation).pool := by
  cases operation with
  | launch time =>
      unfold Machine.perform launch
      dsimp only
      split
      · exact .of_empty rfl rfl sound.unowed
      · exact suits
  | shutdown time =>
      unfold Machine.perform shutdown
      dsimp only
      split
      · exact suits
      · exact suits.shrunk rfl (Nat.le_refl _) fun _ => by simp [Step.done]
  | reset =>
      unfold Machine.perform reset
      dsimp only
      split
      · exact .of_empty rfl rfl fun _ => by simp [Step.done, Instance.off]
      · exact suits
  | call call =>
      cases call with
      | timer time => exact (sound.onTimer suits time).2
      | message topic content time => exact (sound.onMessage suits topic content time).2

end Machine.Sound

namespace Monitor

variable {machine : Machine} {callbacks : Callbacks}

/-- A usable monitor that remembers this. -/
def holding (machine : Machine) (callbacks : Callbacks) (inst : Instance) : Monitor :=
  { machine := machine, inst := inst, callbacks := callbacks }

/-- Nothing but the step of an operation can be noticed. -/
theorem perform_holding (sound : machine.Sound) (quiet : callbacks.Quiet) {inst : Instance}
    (suits : machine.Suits inst.state inst.pool) (operation : Operation) :
    (holding machine callbacks inst).perform operation =
      holding machine callbacks (machine.perform inst operation) := by
  cases operation with
  | launch time => exact (run_eq quiet rfl fun crash => machine.launch_safe inst crash time).2
  | shutdown time => exact (run_eq quiet rfl fun crash => Machine.shutdown_safe inst crash time).2
  | reset => exact (run_eq quiet rfl fun crash => machine.reset_safe inst crash).2
  | call call =>
      cases call with
      | timer time =>
          refine (run_eq quiet rfl fun crash crashed => ?_).2
          rw [holding, (sound.onTimer suits time).1] at crashed
          simp at crashed
      | message topic content time =>
          refine (run_eq quiet rfl fun crash crashed => ?_).2
          obtain ⟨consumed, result⟩ := (sound.onMessage suits topic content time).1
          rw [holding, result] at crashed
          simp at crashed

/-- A monitor remembers what its machine makes of the operations, and the pool suits the state. -/
theorem after_holding (sound : machine.Sound) (quiet : callbacks.Quiet) {inst : Instance}
    (suits : machine.Suits inst.state inst.pool) (operations : List Operation) :
    (holding machine callbacks inst).after operations =
        holding machine callbacks (operations.foldl machine.perform inst) ∧
      machine.Suits (operations.foldl machine.perform inst).state
        (operations.foldl machine.perform inst).pool := by
  induction operations generalizing inst with
  | nil => exact ⟨rfl, suits⟩
  | cons operation rest ih =>
      rw [after, List.foldl_cons, perform_holding sound quiet suits operation]
      exact ih (sound.perform suits operation)

/-- A monitor of which no call can fail, and whose pool is as it should be. -/
structure Reliable (monitor : Monitor) : Prop where
  timer : ∀ time, (monitor.onTimer time).result = .ok ()
  message : ∀ topic message time, ∃ consumed,
    (monitor.onMessage topic message time).result = .ok consumed
  /-- A rule that stores its record finds room for it. -/
  stores : ∀ topic message time rule record,
    let inst := (monitor.machine.onTimer monitor.inst time).inst
    inst.select message (monitor.machine.rulesAt topic inst.state) = .ok (some rule) →
      (rule.reaction.pool = .push → ∃ pool, inst.pool.push record = .ok pool) ∧
        (rule.reaction.pool = .replace → ∃ pool, inst.pool.clear.push record = .ok pool)
  /-- No deadline asks for a report that deadlines cannot give. -/
  reports : ∀ state anchor action verdict? next,
    monitor.machine.deadline? state = some ⟨anchor, .transition action verdict? next⟩ →
      action = .keep ∨ action = .recordPending
  size : ∀ limit, monitor.machine.capacity.limit? = some limit → monitor.inst.pool.size ≤ limit
  settled : monitor.machine.pattern = .response →
    monitor.inst.state = .inactive ∨ monitor.inst.state = .idle → monitor.inst.pool.records = []
  owed : monitor.machine.pattern = .response →
    monitor.inst.state = .pending → monitor.inst.pool.records ≠ []

/-- A sound machine makes a reliable monitor as long as the pool suits the state. -/
theorem reliable_holding (sound : machine.Sound) (quiet : callbacks.Quiet) {inst : Instance}
    (suits : machine.Suits inst.state inst.pool) : (holding machine callbacks inst).Reliable where
  timer := fun time => by
    have result := (sound.onTimer suits time).1
    refine (run_eq quiet rfl fun crash crashed => ?_).1.trans result
    rw [holding, result] at crashed
    simp at crashed
  message := fun topic message time => by
    obtain ⟨consumed, result⟩ := (sound.onMessage suits topic message time).1
    refine ⟨consumed, (run_eq quiet rfl fun crash crashed => ?_).1.trans result⟩
    rw [holding, result] at crashed
    simp at crashed
  stores := fun topic message time rule record selected => by
    have still := (sound.onTimer suits time).2
    have total := sound.total topic (machine.onTimer inst time).inst.state
    have chosen := Except.ok.inj ((Instance.select_eq _ message total).symm.trans selected)
    obtain ⟨permits, _⟩ := sound.permits still (List.mem_of_find?_eq_some chosen)
    refine ⟨fun pushes => ⟨_, Pool.push_eq (permits.room pushes)⟩, fun replaces => ?_⟩
    exact ⟨_, Pool.push_eq (Pool.isFull_clear (permits.space replaces))⟩
  reports := fun state anchor action verdict? next timed => by
    cases sound.due_of_deadline timed with
    | keep => exact .inl rfl
    | pending => exact .inr rfl
  size := suits.size
  settled := suits.settled
  owed := suits.owed

/-- An empty pool suits a monitor that was never launched. -/
theorem suits_off (machine : Machine) :
    machine.Suits (Instance.off machine).state (Instance.off machine).pool :=
  .of_empty rfl rfl fun _ => by simp [Instance.off]

/-- Whatever is done with the monitor of a property, no call of it can fail. -/
theorem reliable_after {property : Property} (compiled : property.compile = .ok machine)
    (total : property.Tests Predicate.Total) (quiet : callbacks.Quiet)
    (operations : List Operation) : ((fresh machine callbacks).after operations).Reliable := by
  have sound := property.compile_sound compiled total
  obtain ⟨same, suits⟩ := after_holding sound quiet (suits_off machine) operations
  have begun : fresh machine callbacks = holding machine callbacks (Instance.off machine) := rfl
  rw [begun, same]
  exact reliable_holding sound quiet suits

end Monitor

/-- Between a start and a stop, every request gets a reply with its number within five seconds. -/
def Property.answered : Property where
  scope := .between { branches := [{ topic := "start" }] } { branches := [{ topic := "stop" }] }
  pattern := .response { alias? := some "request", branches := [{ topic := "request" }] }
    { branches := [{
        topic := "reply"
        predicate := .compare "id" .eq (.field "request" "id") }] }
    (.within ⟨5000000000⟩)

theorem Callbacks.quiet_none : ({} : Callbacks).Quiet := by
  intro notice result called
  cases notice <;> simp [Callbacks.call?] at called

/-- The monitor of that property is reliable after a request, a stop and a new launch. -/
theorem Monitor.reliable_answered :
    ∃ machine, Property.answered.compile = .ok machine ∧
      ((Monitor.fresh machine {}).after [.launch (.ofNanos 0),
        .call (.message "start" ⟨[]⟩ (.ofNanos 1)),
        .call (.message "request" ⟨[("id", .int 7)]⟩ (.ofNanos 3)),
        .call (.message "request" ⟨[("id", .int 8)]⟩ (.ofNanos 2)),
        .call (.message "reply" ⟨[("id", .int 8)]⟩ (.ofNanos 4)),
        .shutdown (.ofNanos 5), .launch (.ofNanos 4), .call (.timer (.ofNanos 9))]).Reliable := by
  have faithful : Property.answered.Tests Predicate.Faithful := .of_atomic (by decide)
  exact ⟨_, rfl, Monitor.reliable_after rfl faithful.total Callbacks.quiet_none _⟩

end TemporalMonitor
