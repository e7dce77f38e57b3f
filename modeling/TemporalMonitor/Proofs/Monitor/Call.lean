import TemporalMonitor.Proofs.Machine.Rules
import TemporalMonitor.Proofs.Monitor.Reaction

/-!
What a call does to a running monitor: the deadline of the present state is checked, and then a
message is offered to the rules.
-/

namespace TemporalMonitor

/-- The last record is bound on top of the others. -/
theorem Bindings.ofRecords_append (records : List Record) (record : Record) :
    Bindings.ofRecords (records ++ [record]) = (Bindings.ofRecords records).withRecord record := by
  rw [ofRecords, List.foldl_append]
  rfl

namespace Instance

section Offered

variable (inst : Instance) (topic : String) (message : Message) (time : Timestamp)

/-- What is remembered after some rules have been tried on a message. -/
def offered (rules : List Rule) : Instance :=
  match rules.find? (inst.admits message) with
  | none => inst
  | some rule =>
      inst.reacted rule.reaction ⟨topic, time, message, rule.alias?⟩ fun pooled =>
        rule.predicate.holds message (inst.bindingsWith pooled)

@[simp] theorem offered_nil : inst.offered topic message time [] = inst := rfl

/-- A rule that works on the pool only binds nothing. -/
theorem bindings_pooling (guard : Guard) (action : PoolAction) (next : Next) (record : Record)
    (discharged : Record → Bool) :
    (inst.reacted (.pooling guard action next) record discharged).bindings = inst.bindings := by
  change Bindings.ofRecords (inst.witness ++ []) = _
  rw [List.append_nil]
  rfl

/-- Only a rule that consumes records asks which of them it discharges. -/
theorem reacted_congr {reaction : Reaction} (other : reaction.guard ≠ .consumePooled)
    (record : Record) (first second : Record → Bool) :
    inst.reacted reaction record first = inst.reacted reaction record second := by
  have same : inst.poolLeft reaction.guard first = inst.poolLeft reaction.guard second := by
    cases guard : reaction.guard with
    | consumePooled => exact absurd guard other
    | message => rfl
    | undecided => rfl
    | anyPooled => rfl
  unfold reacted poolAfter
  rw [same]

/-- The rules of an event come to the same, whichever of its branches is the one that passes. -/
theorem offered_event (event : Event) (role : Role) (reaction : Reaction) (rest : List Rule)
    {test : Predicate → Bool} (other : reaction.guard ≠ .consumePooled)
    (same : ∀ branch, inst.admits message (event.rule role reaction branch) =
      test branch.predicate) :
    inst.offered topic message time (event.rules role reaction topic ++ rest) =
      if event.passes topic test then
        inst.reacted reaction ⟨topic, time, message, event.alias?⟩ fun _ => false
      else inst.offered topic message time rest := by
  rcases event.find_rules role reaction topic test same with
    ⟨refused, none_found⟩ | ⟨passed, branch, _, _, _, found⟩
  · rw [offered, List.find?_append, none_found, refused, if_neg (by decide)]
    rfl
  · rw [offered, List.find?_append, found, passed, if_pos rfl]
    exact inst.reacted_congr other _ _ _

/-- A rule for messages applies when its event occurs. -/
theorem offered_message (event : Event) (role : Role) (reaction : Reaction) (rest : List Rule)
    (plain : reaction.guard = .message) :
    inst.offered topic message time (event.rules role reaction topic ++ rest) =
      if event.occurs inst.bindings (.message topic message time) then
        inst.reacted reaction ⟨topic, time, message, event.alias?⟩ fun _ => false
      else inst.offered topic message time rest :=
  inst.offered_event topic message time event role reaction rest (by rw [plain]; decide)
    fun branch => by simp only [admits, Event.rule, plain]

/-- A branch of an event passes with one of the records exactly if the event occurs with it. -/
theorem passes_pooled (event : Event) :
    event.passes topic (fun predicate => inst.pool.records.any fun pooled =>
        predicate.holds message (inst.bindingsWith pooled)) =
      inst.pool.records.any fun pooled =>
        event.occurs (inst.bindings.withRecord pooled) (.message topic message time) := by
  rw [Bool.eq_iff_iff, Event.passes_iff, List.any_eq_true]
  constructor
  · rintro ⟨branch, member, onTopic, passes⟩
    obtain ⟨pooled, here, holds⟩ := List.any_eq_true.mp passes
    exact ⟨pooled, here, Event.passes_iff.mpr ⟨branch, member, onTopic, holds⟩⟩
  · rintro ⟨pooled, here, occurs⟩
    obtain ⟨branch, member, onTopic, holds⟩ := Event.passes_iff.mp occurs
    exact ⟨branch, member, onTopic, List.any_eq_true.mpr ⟨pooled, here, holds⟩⟩

/-- A rule for pooled records applies when its event occurs with one of them. -/
theorem offered_anyPooled (event : Event) (role : Role) (reaction : Reaction) (rest : List Rule)
    (pools : reaction.guard = .anyPooled) :
    inst.offered topic message time (event.rules role reaction topic ++ rest) =
      if inst.pool.records.any fun pooled =>
          event.occurs (inst.bindings.withRecord pooled) (.message topic message time) then
        inst.reacted reaction ⟨topic, time, message, event.alias?⟩ fun _ => false
      else inst.offered topic message time rest := by
  rw [← inst.passes_pooled topic message time event]
  exact inst.offered_event topic message time event role reaction rest (by rw [pools]; decide)
    fun branch => by simp only [admits, Event.rule, pools]

/-- A rule for undecided messages applies when its event may occur. -/
theorem offered_undecided (event : Event) (role : Role) (reaction : Reaction) (rest : List Rule)
    (undecided : reaction.guard = .undecided) :
    inst.offered topic message time (event.rules role reaction topic ++ rest) =
      if event.mayOccur inst.bindings (.message topic message time) then
        inst.reacted reaction ⟨topic, time, message, event.alias?⟩ fun _ => false
      else inst.offered topic message time rest :=
  inst.offered_event topic message time event role reaction rest (by rw [undecided]; decide)
    fun branch => by simp only [admits, Event.rule, undecided]

/-- A rule that consumes records applies when its event occurs with one of them, and takes out all
with which it does, provided that the event has one branch on the topic. -/
theorem offered_consumePooled (event : Event) (role : Role) (reaction : Reaction)
    (rest : List Rule) (consumes : reaction.guard = .consumePooled)
    (distinct : event.topics.Nodup) :
    inst.offered topic message time (event.rules role reaction topic ++ rest) =
      if inst.pool.records.any fun pooled =>
          event.occurs (inst.bindings.withRecord pooled) (.message topic message time) then
        inst.reacted reaction ⟨topic, time, message, event.alias?⟩ fun pooled =>
          event.occurs (inst.bindings.withRecord pooled) (.message topic message time)
      else inst.offered topic message time rest := by
  rw [← inst.passes_pooled topic message time event]
  have same (branch : Branch) : inst.admits message (event.rule role reaction branch) =
      inst.pool.records.any fun pooled =>
        branch.predicate.holds message (inst.bindingsWith pooled) := by
    simp only [admits, Event.rule, consumes]
  rcases event.find_rules role reaction topic
      (fun predicate => inst.pool.records.any fun pooled =>
        predicate.holds message (inst.bindingsWith pooled)) same with
    ⟨refused, none_found⟩ | ⟨passed, branch, member, rfl, _, found⟩
  · rw [offered, List.find?_append, none_found, refused, if_neg (by decide)]
    rfl
  · rw [offered, List.find?_append, found, passed, if_pos rfl]
    refine congrArg (inst.reacted reaction _) (funext fun pooled => ?_)
    exact (Event.passes_of_distinct distinct member _).symm

end Offered

end Instance

theorem State.isOff_of_ne {state : State} (running : state ≠ .off) : state.isOff = false := by
  cases state <;> first | rfl | exact absurd rfl running

namespace Machine

variable {machine : Machine} {inst : Instance}

section Deadline

variable {now : Timestamp}

/-- Looking at the clock changes nothing but the latest timestamp seen. -/
theorem observe_inst (inst : Instance) (now : Timestamp) :
    ∃ latest?, (inst.observe now).1 = { inst with latestSeen? := latest? } := by
  unfold Instance.observe
  cases seen : inst.latestSeen? with
  | none => exact ⟨some now, rfl⟩
  | some latest =>
      dsimp only
      split
      · exact ⟨inst.latestSeen?, rfl⟩
      · exact ⟨some now, rfl⟩

/-- Without a deadline nothing happens when time passes. -/
theorem checkDeadline_of_none (untimed : machine.deadline? inst.state = none) :
    machine.checkDeadline inst now = .done () inst [] := by
  rw [checkDeadline, untimed]

/-- Without a bound there are no deadlines. -/
theorem checkDeadline_of_unbounded (unbounded : machine.bound = .unbounded) :
    machine.checkDeadline inst now = .done () inst [] := by
  rw [checkDeadline, unbounded]
  cases machine.deadline? inst.state <;> rfl

/-- A deadline that has elapsed applies. -/
theorem checkDeadline_of_elapsed {anchor : Anchor} {action : WitnessAction}
    {verdict? : Option Bool} {next : State} {reference : Timestamp}
    (timed : machine.deadline? inst.state = some ⟨anchor, .transition action verdict? next⟩)
    (anchored : reference? inst anchor = some reference)
    (elapsed : machine.bound.hasElapsed reference now = true) :
    machine.checkDeadline inst now = overrun inst action verdict? next now := by
  cases bounded : machine.bound with
  | unbounded => simp [bounded, Bound.hasElapsed] at elapsed
  | within span =>
      rw [bounded] at elapsed
      simp only [checkDeadline, timed, bounded, anchored, elapsed, if_true]

/-- A deadline that has not elapsed does not apply. -/
theorem checkDeadline_of_not_elapsed {anchor : Anchor} {action : WitnessAction}
    {verdict? : Option Bool} {next : State} {reference : Timestamp}
    (timed : machine.deadline? inst.state = some ⟨anchor, .transition action verdict? next⟩)
    (anchored : reference? inst anchor = some reference)
    (notElapsed : machine.bound.hasElapsed reference now = false) :
    machine.checkDeadline inst now = .done () inst [] := by
  cases bounded : machine.bound with
  | unbounded => simp only [checkDeadline, timed, bounded]
  | within span =>
      rw [bounded] at notElapsed
      simp only [checkDeadline, timed, bounded, anchored, notElapsed, Bool.false_eq_true, if_false]

/-- A machine with one deadline for a transition applies it as soon as the bound has elapsed. -/
theorem checkDeadline_deadlineIf {bound : Bound} {state next : State} {anchor : Anchor}
    {action : WitnessAction} {verdict? : Option Bool} {reference : Timestamp}
    (deadlines : machine.deadlines =
      Core.deadlineIf bound state ⟨anchor, .transition action verdict? next⟩)
    (limit : machine.bound = bound) (here : inst.state = state)
    (anchored : reference? inst anchor = some reference) (now : Timestamp) :
    machine.checkDeadline inst now =
      if bound.hasElapsed reference now then overrun inst action verdict? next now
      else .done () inst [] := by
  cases bound with
  | unbounded => rw [checkDeadline_of_unbounded limit]; rfl
  | within span =>
      have timed : machine.deadline? inst.state = some ⟨anchor, .transition action verdict? next⟩ := by
        rw [deadline?, deadlines, here]
        exact Core.lookup_deadlineIf rfl state _
      rw [← limit]
      split
      · next elapsed => exact checkDeadline_of_elapsed timed anchored elapsed
      · next inTime =>
          exact checkDeadline_of_not_elapsed timed anchored (Bool.eq_false_iff.mpr inTime)

/-- A deadline with a transition does nothing else than that. -/
theorem checkDeadline_cases {anchor : Anchor} {action : WitnessAction} {verdict? : Option Bool}
    {next : State}
    (timed : machine.deadline? inst.state = some ⟨anchor, .transition action verdict? next⟩)
    (now : Timestamp) :
    machine.checkDeadline inst now = .done () inst [] ∨
      machine.checkDeadline inst now = overrun inst action verdict? next now := by
  cases anchored : reference? inst anchor with
  | none =>
      left
      cases bounded : machine.bound <;> simp only [checkDeadline, timed, bounded, anchored]
  | some reference =>
      cases elapsed : machine.bound.hasElapsed reference now with
      | true => exact .inr (checkDeadline_of_elapsed timed anchored elapsed)
      | false => exact .inl (checkDeadline_of_not_elapsed timed anchored elapsed)

/-- A deadline on the pooled records drops those that are too old. -/
theorem checkDeadline_of_evict {anchor : Anchor} {span : Duration}
    (timed : machine.deadline? inst.state = some ⟨anchor, .evict⟩)
    (bounded : machine.bound = .within span) :
    (machine.checkDeadline inst now).result = .ok () ∧
      (machine.checkDeadline inst now).inst = { inst with pool := inst.pool.evict now span } := by
  simp only [checkDeadline, timed, bounded]
  exact ⟨rfl, rfl⟩

/-- The change of state when a deadline has passed. -/
def lapsed (inst : Instance) (added : List Record) (verdict? : Option Bool) (next : State)
    (now : Timestamp) : Instance :=
  { inst with
    state := next
    verdict := (verdict?.map Verdict.ofBool).getD inst.verdict
    witness := inst.witness ++ added
    lastTransition? := if next = inst.state then inst.lastTransition? else some now }

theorem overrun_keep (inst : Instance) (verdict? : Option Bool) (next : State) (now : Timestamp) :
    (overrun inst .keep verdict? next now).result = .ok () ∧
      (overrun inst .keep verdict? next now).inst = lapsed inst [] verdict? next now := by
  refine ⟨rfl, ?_⟩
  simp only [overrun, expire, Step.done, Instance.transition_inst, lapsed, List.append_nil]

theorem overrun_recordPending {oldest : Record} (verdict? : Option Bool) (next : State)
    (first : inst.pool.oldest? = some oldest) :
    (overrun inst .recordPending verdict? next now).result = .ok () ∧
      (overrun inst .recordPending verdict? next now).inst =
        lapsed inst [oldest] verdict? next now := by
  simp only [overrun, expire, first, Step.done, Instance.transition_inst, lapsed]
  exact ⟨trivial, trivial⟩

/-- A deadline that has passed leaves the pool and the start of the episode as they are. -/
theorem overrun_frame (action : WitnessAction) (verdict? : Option Bool) (next : State)
    (now : Timestamp) :
    (overrun inst action verdict? next now).inst.pool = inst.pool ∧
      (overrun inst action verdict? next now).inst.episodeStart? = inst.episodeStart? := by
  unfold overrun expire
  cases action with
  | keep => simp [Step.done, Instance.transition_inst]
  | recordPending => cases inst.pool.oldest? <;> simp [Step.done, Instance.transition_inst]
  | record => exact ⟨rfl, rfl⟩
  | recordBoth => exact ⟨rfl, rfl⟩
  | reset => exact ⟨rfl, rfl⟩

/-- Time that passes can only take entries out of the pool. -/
theorem checkDeadline_pool (machine : Machine) (inst : Instance) (now : Timestamp) :
    ∃ entries, entries.Sublist inst.pool.entries ∧
      (machine.checkDeadline inst now).inst.pool = { inst.pool with entries := entries } := by
  unfold checkDeadline
  split
  · split
    · exact ⟨_, List.dropWhile_sublist _, rfl⟩
    · split
      · split
        · exact ⟨_, List.Sublist.refl _, (overrun_frame _ _ _ _).1⟩
        · exact ⟨_, List.Sublist.refl _, rfl⟩
      · exact ⟨_, List.Sublist.refl _, rfl⟩
  · exact ⟨_, List.Sublist.refl _, rfl⟩

/-- Time that passes does not end an episode. -/
theorem checkDeadline_episodeStart (machine : Machine) (inst : Instance) (now : Timestamp) :
    (machine.checkDeadline inst now).inst.episodeStart? = inst.episodeStart? := by
  unfold checkDeadline
  split
  · split
    · rfl
    · split
      · split
        · exact (overrun_frame _ _ _ _).2
        · rfl
      · rfl
  · rfl

end Deadline

section Offer

variable {topic : String} {message : Message} {time : Timestamp}

/-- A settled monitor ignores every message. -/
theorem offer_of_terminal (settled : inst.state.isTerminal = true) :
    machine.offer inst topic message time = .done false inst [] := by
  rw [offer, if_pos settled]

/-- A message that is offered to a monitor is tried on the rules of the present state. -/
theorem offer_eq (total : ∀ rule ∈ machine.rulesAt topic inst.state, rule.predicate.Total)
    (permits : ∀ rule ∈ machine.rulesAt topic inst.state, inst.Permits rule.reaction)
    (running : inst.state.isTerminal = false) :
    (∃ consumed, (machine.offer inst topic message time).result = .ok consumed) ∧
      (machine.offer inst topic message time).inst =
        inst.offered topic message time (machine.rulesAt topic inst.state) := by
  have unsettled : ¬ inst.state.isTerminal = true := by rw [running]; decide
  rw [offer, if_neg unsettled, inst.select_eq message total, Instance.offered]
  cases chosen : (machine.rulesAt topic inst.state).find? (inst.admits message) with
  | none => exact ⟨⟨false, rfl⟩, rfl⟩
  | some rule =>
      have member := List.mem_of_find?_eq_some chosen
      obtain ⟨result, reacted⟩ := Instance.apply_eq topic message time (total rule member)
        (permits rule member)
      dsimp only
      rw [Step.andThen_result _ result, Step.andThen_inst _ result]
      exact ⟨⟨true, rfl⟩, reacted⟩

end Offer

/-- What a monitor remembers after a call. -/
def next (machine : Machine) (inst : Instance) : Call → Instance
  | .timer time => (machine.onTimer inst time).inst
  | .message topic message time => (machine.onMessage inst topic message time).inst

theorem onTimer_of_off (isOff : inst.state = .off) (now : Timestamp) :
    machine.onTimer inst now = .done () inst [] := by
  rw [onTimer, isOff]
  rfl

theorem onMessage_of_off (isOff : inst.state = .off) (topic : String) (message : Message)
    (now : Timestamp) : machine.onMessage inst topic message now = .done false inst [] := by
  rw [onMessage, isOff]
  rfl

/-- When time passes, the deadline is checked once the clock has been looked at. -/
theorem onTimer_eq (running : inst.state ≠ .off) (now : Timestamp) :
    (machine.onTimer inst now).result = (machine.checkDeadline (inst.observe now).1 now).result ∧
      (machine.onTimer inst now).inst = (machine.checkDeadline (inst.observe now).1 now).inst := by
  simp only [onTimer, State.isOff_of_ne running, Bool.false_eq_true, if_false, and_self]

theorem onMessage_of_on (running : inst.state ≠ .off) (topic : String) (message : Message)
    (now : Timestamp) :
    machine.onMessage inst topic message now =
      (machine.onTimer inst now).andThen fun _ inst => machine.offer inst topic message now := by
  rw [onMessage, State.isOff_of_ne running, if_neg (by decide)]

/-- A message is offered after the deadline has been checked. -/
theorem onMessage_eq (running : inst.state ≠ .off) {now : Timestamp}
    (passed : (machine.onTimer inst now).result = .ok ()) (topic : String) (message : Message) :
    (machine.onMessage inst topic message now).result =
        (machine.offer (machine.onTimer inst now).inst topic message now).result ∧
      (machine.onMessage inst topic message now).inst =
        (machine.offer (machine.onTimer inst now).inst topic message now).inst := by
  rw [onMessage_of_on running, Step.andThen_result _ passed, Step.andThen_inst _ passed]
  exact ⟨rfl, rfl⟩

end Machine

end TemporalMonitor
