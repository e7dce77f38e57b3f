import TemporalMonitor.Proofs.Machine.Duties
import TemporalMonitor.Proofs.Monitor.Call

/-!
What the passing of time does to the monitor of a property.

An absence, an existence and a response that is owed have a deadline, counted from the start of the
episode or from the oldest pooled record. The pool of a requirement has none, but loses the records
that are too old. Nothing of this can fail.
-/

namespace TemporalMonitor

/-- A machine with one deadline for a transition applies it in its state once the bound has
elapsed. -/
theorem Machine.checkDeadline_transition {machine : Machine} {bound : Bound} {state next : State}
    {anchor : Anchor} {action : WitnessAction} {verdict? : Option Bool}
    (deadlines : machine.deadlines =
      Core.deadlineIf bound state ⟨anchor, .transition action verdict? next⟩)
    (limit : machine.bound = bound) (inst : Instance) (now : Timestamp) :
    machine.checkDeadline inst now =
      if inst.state = state ∧
          ((reference? inst anchor).any fun since => bound.hasElapsed since now) = true then
        overrun inst action verdict? next now
      else .done () inst [] := by
  by_cases here : inst.state = state
  · cases anchored : reference? inst anchor with
    | some since =>
        rw [checkDeadline_deadlineIf deadlines limit here anchored]
        simp only [here, Option.any_some, true_and]
    | none =>
        rw [if_neg (by simp)]
        cases bound with
        | unbounded => exact checkDeadline_of_unbounded limit
        | within span =>
            have timed : machine.deadline? inst.state =
                some ⟨anchor, .transition action verdict? next⟩ := by
              rw [deadline?, deadlines, here]
              exact Core.lookup_deadlineIf rfl state _
            simp only [checkDeadline, timed, limit, anchored]
  · rw [if_neg fun both => here both.1]
    refine checkDeadline_of_none ?_
    rw [deadline?, deadlines]
    exact Core.lookup_deadlineIf_other bound here _

namespace Property

variable (property : Property) (inst : Instance) (now : Timestamp)

/-- Since when the deadline of the present state counts, if it has one. -/
def dueSince? : Option Timestamp :=
  match property.pattern.kind, inst.state with
  | .absence, .engaged | .existence, .engaged => inst.episodeStart?
  | .response, .pending => inst.pool.oldest?.map Record.timestamp
  | _, _ => none

/-- The deadline of the present state has passed. -/
def isDue : Bool :=
  (property.dueSince? inst).any fun since => property.pattern.bound.hasElapsed since now

/-- What a deadline does that has passed. -/
def overdue : Instance :=
  match property.pattern.kind with
  | .absence =>
      if property.scope.kind.isReentrant then Machine.lapsed inst [] none .safe now
      else Machine.lapsed inst [] (some true) .accepted now
  | .response => Machine.lapsed inst inst.pool.oldest?.toList (some false) .rejected now
  | _ => Machine.lapsed inst [] (some false) .rejected now

/-- A requirement forgets the records that are too old. -/
def refreshed : Instance :=
  match property.pattern with
  | .requirement _ _ (.within span) =>
      if inst.state = .engaged then { inst with pool := inst.pool.evict now span } else inst
  | _ => inst

/-- What is remembered once time has passed. -/
def lapse : Instance :=
  if property.isDue inst now then property.overdue inst now else property.refreshed inst now

end Property

namespace Property

variable {property : Property}

section Deadlines

variable {machine : Machine} {inst : Instance} {now : Timestamp}

/-- Time passes as the property asks if the only deadline of the machine is that of the property. -/
theorem lapse_of_transition {state next : State} {anchor : Anchor} {action : WitnessAction}
    {verdict? : Option Bool}
    (deadlines : machine.deadlines =
      Core.deadlineIf property.pattern.bound state ⟨anchor, .transition action verdict? next⟩)
    (limit : machine.bound = property.pattern.bound)
    (counted : property.dueSince? inst =
      if inst.state = state then Machine.reference? inst anchor else none)
    (overruns : (Machine.reference? inst anchor).isSome = true →
      (Machine.overrun inst action verdict? next now).result = .ok () ∧
        (Machine.overrun inst action verdict? next now).inst = property.overdue inst now)
    (kept : property.refreshed inst now = inst) :
    (machine.checkDeadline inst now).result = .ok () ∧
      (machine.checkDeadline inst now).inst = property.lapse inst now := by
  rw [Machine.checkDeadline_transition deadlines limit, lapse, isDue, counted]
  by_cases here : inst.state = state
  · simp only [here, true_and, if_true]
    split
    · next due =>
        obtain ⟨since, anchored, _⟩ := (Option.any_eq_true _ _).mp due
        exact overruns (by rw [anchored]; rfl)
    · exact ⟨rfl, kept.symm⟩
  · simp only [here, false_and, if_false, Option.any_none, Bool.false_eq_true]
    exact ⟨rfl, kept.symm⟩

theorem checkDeadline_absence {behavior : Event} {bound : Bound}
    (pattern : property.pattern = .absence behavior bound) :
    let step := (property.assemble
      (Core.absence property.scope.kind.isReentrant behavior bound)).checkDeadline inst now
    step.result = .ok () ∧ step.inst = property.lapse inst now := by
  have counted : property.dueSince? inst =
      if inst.state = .engaged then Machine.reference? inst .episodeStart else none := by
    unfold dueSince?
    rw [pattern]
    cases inst.state <;> rfl
  have kept : property.refreshed inst now = inst := by
    unfold refreshed
    rw [pattern]
  cases again : property.scope.kind.isReentrant with
  | true =>
      refine lapse_of_transition (by rw [pattern]; rfl) rfl counted (fun _ => ?_) kept
      unfold overdue
      rw [pattern, again]
      exact Machine.overrun_keep inst none .safe now
  | false =>
      refine lapse_of_transition (by rw [pattern]; rfl) rfl counted (fun _ => ?_) kept
      unfold overdue
      rw [pattern, again]
      exact Machine.overrun_keep inst (some true) .accepted now

theorem checkDeadline_existence {behavior : Event} {bound : Bound}
    (pattern : property.pattern = .existence behavior bound) :
    let step := (property.assemble
      (Core.existence property.scope.kind.isReentrant behavior bound)).checkDeadline inst now
    step.result = .ok () ∧ step.inst = property.lapse inst now := by
  have counted : property.dueSince? inst =
      if inst.state = .engaged then Machine.reference? inst .episodeStart else none := by
    unfold dueSince?
    rw [pattern]
    cases inst.state <;> rfl
  have kept : property.refreshed inst now = inst := by
    unfold refreshed
    rw [pattern]
  refine lapse_of_transition (by rw [pattern]; rfl) rfl counted (fun _ => ?_) kept
  unfold overdue
  rw [pattern]
  exact Machine.overrun_keep inst (some false) .rejected now

theorem checkDeadline_response {trigger behavior : Event} {bound : Bound}
    (pattern : property.pattern = .response trigger behavior bound) :
    let step := (property.assemble (Core.response trigger behavior bound)).checkDeadline inst now
    step.result = .ok () ∧ step.inst = property.lapse inst now := by
  have counted : property.dueSince? inst =
      if inst.state = .pending then Machine.reference? inst .oldestPooled else none := by
    unfold dueSince?
    rw [pattern]
    cases inst.state <;> rfl
  have kept : property.refreshed inst now = inst := by
    unfold refreshed
    rw [pattern]
  refine lapse_of_transition (by rw [pattern]; rfl) rfl counted (fun anchored => ?_) kept
  -- The time is counted from the oldest record, so there is one to report.
  obtain ⟨oldest, first⟩ : ∃ oldest, inst.pool.oldest? = some oldest := by
    rw [Machine.reference?, Option.isSome_map] at anchored
    exact Option.isSome_iff_exists.mp anchored
  unfold overdue
  rw [pattern, first]
  exact Machine.overrun_recordPending (some false) .rejected first

/-- Time changes nothing but the pool, and that only while an episode may still be violated. -/
theorem refreshed_cases (property : Property) (inst : Instance) (now : Timestamp) :
    property.refreshed inst now = inst ∨
      ∃ behavior trigger span, property.pattern = .requirement behavior trigger (.within span) ∧
        inst.state = .engaged ∧
        property.refreshed inst now = { inst with pool := inst.pool.evict now span } := by
  unfold refreshed
  split
  · next pattern =>
      split
      · next engaged => exact .inr ⟨_, _, _, pattern, engaged, rfl⟩
      · exact .inl rfl
  · exact .inl rfl

/-- Time that is not yet over changes neither the state nor the witness, nor what is owed. -/
theorem refreshed_frame (property : Property) (inst : Instance) (now : Timestamp) :
    (property.refreshed inst now).state = inst.state ∧
      (property.refreshed inst now).witness = inst.witness ∧
      (property.refreshed inst now).verdict = inst.verdict ∧
      (property.pattern.kind = .response → (property.refreshed inst now).pool = inst.pool) := by
  rcases property.refreshed_cases inst now with same | ⟨_, _, _, pattern, _, evicted⟩
  · rw [same]
    exact ⟨rfl, rfl, rfl, fun _ => rfl⟩
  · rw [evicted, pattern]
    refine ⟨rfl, rfl, rfl, ?_⟩
    intro response
    cases response

theorem refreshed_requirement {behavior trigger : Event} {span : Duration}
    (pattern : property.pattern = .requirement behavior trigger (.within span)) :
    property.refreshed inst now =
      if inst.state = .engaged then { inst with pool := inst.pool.evict now span } else inst := by
  rw [refreshed, pattern]

/-- The passing of time does nothing to a requirement but what it does to the pool. -/
theorem lapse_requirement {behavior trigger : Event} {bound : Bound}
    (pattern : property.pattern = .requirement behavior trigger bound) :
    property.lapse inst now = property.refreshed inst now := by
  unfold lapse isDue dueSince?
  rw [pattern]
  cases inst.state <;> rfl

theorem checkDeadline_requirement {behavior trigger : Event} {bound : Bound}
    (pattern : property.pattern = .requirement behavior trigger bound) :
    let step := (property.assemble (Core.requirement property.scope.kind.isReentrant
      behavior trigger bound)).checkDeadline inst now
    step.result = .ok () ∧ step.inst = property.lapse inst now := by
  rw [lapse_requirement pattern]
  dsimp only
  unfold Core.requirement
  split
  · next unpooled =>
      obtain ⟨_, rfl⟩ := Core.requirementCapacity_eq_zero.mp unpooled
      rw [Machine.checkDeadline_of_none rfl, refreshed, pattern]
      exact ⟨rfl, rfl⟩
  · have limit : (property.assemble (Core.pooledRequirement behavior trigger bound)).bound =
        bound := by
      change property.pattern.bound = bound
      rw [pattern]
      rfl
    cases bound with
    | unbounded =>
        rw [Machine.checkDeadline_of_unbounded limit, refreshed, pattern]
        exact ⟨rfl, rfl⟩
    | within span =>
        have deadlines : (property.assemble (Core.pooledRequirement behavior trigger
            (.within span))).deadlines =
              Core.deadlineIf (.within span) .engaged ⟨.oldestPooled, .evict⟩ := rfl
        rw [refreshed_requirement pattern]
        split
        · next engaged =>
            have timed : (property.assemble (Core.pooledRequirement behavior trigger
                (.within span))).deadline? inst.state = some ⟨.oldestPooled, .evict⟩ := by
              rw [Machine.deadline?, deadlines, engaged]
              exact Core.lookup_deadlineIf rfl .engaged _
            exact Machine.checkDeadline_of_evict timed limit
        · next other =>
            have untimed : (property.assemble (Core.pooledRequirement behavior trigger
                (.within span))).deadline? inst.state = none := by
              rw [Machine.deadline?, deadlines]
              exact Core.lookup_deadlineIf_other _ other _
            rw [Machine.checkDeadline_of_none untimed]
            exact ⟨rfl, rfl⟩

end Deadlines

/-- A deadline that has passed is that of an episode, or of a response that is owed. -/
theorem isDue_cases {inst : Instance} {now : Timestamp} (due : property.isDue inst now = true) :
    ((property.pattern.kind = .absence ∨ property.pattern.kind = .existence) ∧
        inst.state = .engaged ∧ ∃ since, inst.episodeStart? = some since ∧
          property.pattern.bound.hasElapsed since now = true) ∨
      property.pattern.kind = .response ∧ inst.state = .pending ∧
        ∃ oldest, inst.pool.oldest? = some oldest ∧
          property.pattern.bound.hasElapsed oldest.timestamp now = true := by
  unfold isDue at due
  obtain ⟨since, counted, elapsed⟩ := (Option.any_eq_true _ _).mp due
  unfold dueSince? at counted
  split at counted
  · next absence engaged => exact .inl ⟨.inl absence, engaged, since, counted, elapsed⟩
  · next existence engaged => exact .inl ⟨.inr existence, engaged, since, counted, elapsed⟩
  · next response pending =>
      obtain ⟨oldest, first, rfl⟩ := Option.map_eq_some_iff.mp counted
      exact .inr ⟨response, pending, oldest, first, elapsed⟩
  · cases counted

/-- A deadline leaves a state without deadline. -/
theorem overdue_state (property : Property) (inst : Instance) (now : Timestamp) :
    (property.overdue inst now).state = .safe ∨ (property.overdue inst now).state = .accepted ∨
      (property.overdue inst now).state = .rejected := by
  unfold overdue
  split
  · split
    · exact .inl rfl
    · exact .inr (.inl rfl)
  · exact .inr (.inr rfl)
  · exact .inr (.inr rfl)

/-- A deadline leaves the pool as it is. -/
theorem overdue_pool (property : Property) (inst : Instance) (now : Timestamp) :
    (property.overdue inst now).pool = inst.pool := by
  unfold overdue
  repeat' split
  all_goals rfl

/-- Time passes without trace where nothing is due or pooled. -/
theorem lapse_of_calm {inst : Instance} (settled : inst.state ≠ .engaged ∧ inst.state ≠ .pending)
    (now : Timestamp) : property.lapse inst now = inst := by
  have notDue : property.isDue inst now = false := by
    rw [Bool.eq_false_iff]
    intro due
    rcases isDue_cases due with ⟨_, engaged, _⟩ | ⟨_, pending, _⟩
    · exact settled.1 engaged
    · exact settled.2 pending
  rw [lapse, notDue, if_neg (by decide)]
  rcases refreshed_cases property inst now with same | ⟨_, _, _, _, engaged, _⟩
  · exact same
  · exact absurd engaged settled.1

/-- Time does not stop a monitor. -/
theorem lapse_running {inst : Instance} (running : inst.state ≠ .off) (now : Timestamp) :
    (property.lapse inst now).state ≠ .off := by
  unfold lapse
  split
  · rcases overdue_state property inst now with state | state | state <;>
    · rw [state]
      decide
  · rcases refreshed_cases property inst now with same | ⟨_, _, _, _, _, evicted⟩
    · rw [same]
      exact running
    · rw [evicted]
      exact running

/-- Time does not end an episode. -/
theorem lapse_episodeStart (inst : Instance) (now : Timestamp) :
    (property.lapse inst now).episodeStart? = inst.episodeStart? := by
  unfold lapse overdue refreshed
  repeat' split
  all_goals rfl

/-- The deadline of a compiled machine never fails, and does what the property asks for. -/
theorem checkDeadline_eq {core : Core}
    (made : property.pattern.core property.scope.kind.isReentrant = .ok core) (inst : Instance)
    (now : Timestamp) :
    ((property.assemble core).checkDeadline inst now).result = .ok () ∧
      ((property.assemble core).checkDeadline inst now).inst = property.lapse inst now := by
  cases pattern : property.pattern with
  | absence behavior bound =>
      rw [pattern] at made
      obtain rfl := Except.ok.inj made
      exact checkDeadline_absence pattern
  | existence behavior bound =>
      rw [pattern] at made
      obtain rfl := Except.ok.inj made
      exact checkDeadline_existence pattern
  | requirement behavior trigger bound =>
      rw [pattern] at made
      obtain rfl := Except.ok.inj made
      exact checkDeadline_requirement pattern
  | response trigger behavior bound =>
      rw [pattern] at made
      obtain rfl := Except.ok.inj made
      exact checkDeadline_response pattern
  | prevention trigger behavior bound =>
      rw [pattern] at made
      cases made

/-- A running monitor looks at the clock, and then time passes for it. -/
theorem onTimer_lapse {core : Core}
    (made : property.pattern.core property.scope.kind.isReentrant = .ok core) {inst : Instance}
    (running : inst.state ≠ .off) (now : Timestamp) :
    ((property.assemble core).onTimer inst now).result = .ok () ∧
      ((property.assemble core).onTimer inst now).inst =
        property.lapse (inst.observe now).1 now := by
  obtain ⟨result, remembered⟩ := Machine.onTimer_eq running now
  rw [result, remembered]
  exact checkDeadline_eq made (inst.observe now).1 now

/-- Time may pass at any moment. -/
theorem onTimer_ok {core : Core}
    (made : property.pattern.core property.scope.kind.isReentrant = .ok core) (inst : Instance)
    (now : Timestamp) : ((property.assemble core).onTimer inst now).result = .ok () := by
  by_cases isOff : inst.state = .off
  · rw [Machine.onTimer_of_off isOff]
    rfl
  · exact (onTimer_lapse made isOff now).1

end Property

end TemporalMonitor
