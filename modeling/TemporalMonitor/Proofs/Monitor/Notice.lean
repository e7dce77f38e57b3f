import TemporalMonitor.Proofs.Monitor.Conduct
import TemporalMonitor.Proofs.Monitor.Polling

/-!
What the user of a monitor is told.

The callbacks see nothing of a step but its notices. A call of a running monitor tells at most that
an episode has opened, that it has closed, or that the verdict is settled, and each of these comes
with the change of the state that it announces. A test that crashes breaks the call off before
anything is told.
-/

namespace TemporalMonitor

namespace Step

variable {α β : Type}

/-- What the user is told during a step, in order. -/
def notices (step : Step α) : List Notice :=
  step.effects.filterMap Effect.notice?

@[simp] theorem notices_done (value : α) (inst : Instance) : (done value inst []).notices = [] :=
  rfl

theorem notices_andThen {first : Step α} {value : α} (next : α → Instance → Step β)
    (succeeded : first.result = .ok value) :
    (first.andThen next).notices = first.notices ++ (next value first.inst).notices := by
  simp [notices, andThen, succeeded]

/-- A step that fails is not continued. -/
theorem andThen_of_error {first : Step α} {failure : Failure} (next : α → Instance → Step β)
    (failed : first.result = .error failure) :
    (first.andThen next).result = .error failure ∧ (first.andThen next).inst = first.inst ∧
      (first.andThen next).notices = first.notices := by
  simp [notices, andThen, failed]

/-- What is told does not depend on what is made of the result. -/
theorem andThen_done_notices (first : Step α) (value : β) :
    (first.andThen fun _ inst => .done value inst []).notices = first.notices := by
  cases result : first.result with
  | error failure => exact (andThen_of_error _ result).2.2
  | ok _ => rw [notices_andThen _ result, notices_done, List.append_nil]

end Step

/-- The first crash of a callback that is told these notices, and the notices up to there that reach
one. -/
def Callbacks.inform (callbacks : Callbacks) : List Notice → Option Crash × List Notice
  | [] => (none, [])
  | notice :: rest =>
      match callbacks.call? notice with
      | none => callbacks.inform rest
      | some (.error crash) => (some crash, [notice])
      | some (.ok _) => ((callbacks.inform rest).1, notice :: (callbacks.inform rest).2)

/-- The callbacks see nothing but the notices among the effects. -/
theorem Callbacks.deliver_eq (callbacks : Callbacks) (effects : List Effect) :
    (callbacks.deliver effects).crash? =
        (callbacks.inform (effects.filterMap Effect.notice?)).1 ∧
      (callbacks.deliver effects).calls =
        (callbacks.inform (effects.filterMap Effect.notice?)).2 := by
  induction effects with
  | nil => exact ⟨rfl, rfl⟩
  | cons effect rest ih =>
      cases effect with
      | log entry => exact ih
      | notify notice =>
          have listed : (Effect.notify notice :: rest).filterMap Effect.notice? =
            notice :: rest.filterMap Effect.notice? := rfl
          rw [listed, deliver, inform]
          cases callbacks.call? notice with
          | none => exact ih
          | some result =>
              cases result with
              | error crash => exact ⟨rfl, rfl⟩
              | ok _ => exact ⟨ih.1, congrArg (List.cons notice) ih.2⟩

namespace Monitor

/-- A crash poisons the monitor, whether it is that of a step or that of a callback. -/
def resultOf {α : Type} (crash? : Option Crash) (result : Except Failure α) : Except Failure α :=
  match crash? with
  | some crash => .error (.crash crash)
  | none => result

/-- What becomes of a usable monitor during an operation, as far as its user can see. -/
theorem run_notices {α : Type} {monitor : Monitor} (usable : monitor.isPoisoned = false)
    (operation : String) (step : Instance → Step α) :
    let ended := step monitor.inst
    let informed := monitor.callbacks.inform ended.notices
    let result := resultOf informed.1 ended.result
    (monitor.run operation step).result = result ∧
      (monitor.run operation step).calls = informed.2 ∧
      (monitor.run operation step).monitor =
        { monitor with inst := ended.inst, isPoisoned := poisons result } := by
  obtain ⟨crash, calls⟩ := monitor.callbacks.deliver_eq (step monitor.inst).effects
  dsimp only
  rw [run, if_neg (by simp [usable])]
  dsimp only
  rw [crash]
  exact ⟨rfl, calls, rfl⟩

end Monitor

/-- The states in which an episode is open. -/
def State.isOpen : State → Bool
  | engaged | idle | pending | safe => true
  | off | inactive | accepted | rejected => false

/-- What a running monitor may do at a time, and what its user is told then. -/
inductive Advance (time : Timestamp) (inst next : Instance) : List Notice → Prop where
  | stays (stage : next.state = inst.state ∨ inst.state.isOpen = true ∧ next.state.isOpen = true)
      (start : next.episodeStart? = inst.episodeStart?) (verdict : next.verdict = inst.verdict)
      (witness : inst.state.isOpen = true ∨ next.witness = inst.witness) :
      Advance time inst next []
  | enters (waiting : inst.state = .inactive) (isOpen : next.state.isOpen = true)
      (start : next.episodeStart? = some time) (verdict : next.verdict = inst.verdict) :
      Advance time inst next [.entered time]
  | leaves (isOpen : inst.state.isOpen = true) (waiting : next.state = .inactive)
      (start : next.episodeStart? = none) (verdict : next.verdict = inst.verdict) :
      Advance time inst next [.exited time]
  /-- The verdict is settled, and the episode goes on. -/
  | concludes {verdict : Bool} (isOpen : inst.state.isOpen = true)
      (settled : next.state = .ofVerdict verdict)
      (start : next.episodeStart? = inst.episodeStart?) (known : next.verdict = .ofBool verdict) :
      Advance time inst next [.ofVerdict verdict time next.witness]
  /-- The verdict is settled with the end of the episode. -/
  | closes {verdict : Bool} (isOpen : inst.state.isOpen = true)
      (settled : next.state = .ofVerdict verdict) (start : next.episodeStart? = none)
      (known : next.verdict = .ofBool verdict) :
      Advance time inst next [.exited time, .ofVerdict verdict time next.witness]

namespace Advance

variable {time : Timestamp} {inst mid next : Instance} {told further : List Notice}

/-- The pool does not matter. -/
theorem of_pool (time : Timestamp) (inst : Instance) (pool : Pool) :
    Advance time inst { inst with pool := pool } [] :=
  .stays (.inl rfl) rfl rfl (.inr rfl)

theorem refl (time : Timestamp) (inst : Instance) : Advance time inst inst [] :=
  .of_pool time inst inst.pool

/-- When the clock was looked at last does not matter. -/
theorem of_observed {latest? : Option Timestamp}
    (advance : Advance time { inst with latestSeen? := latest? } next told) :
    Advance time inst next told := by
  cases advance with
  | stays stage start verdict witness => exact .stays stage start verdict witness
  | enters waiting isOpen start verdict => exact .enters waiting isOpen start verdict
  | leaves isOpen waiting start verdict => exact .leaves isOpen waiting start verdict
  | concludes isOpen settled start known => exact .concludes isOpen settled start known
  | closes isOpen settled start known => exact .closes isOpen settled start known

theorem isOpen_ofVerdict (verdict : Bool) : (State.ofVerdict verdict).isOpen = false := by
  cases verdict <;> rfl

theorem ofVerdict_ne_inactive (verdict : Bool) : State.ofVerdict verdict ≠ .inactive := by
  cases verdict <;> decide

/-- Once the verdict is settled, nothing more happens that the user is told about. -/
theorem of_settled {verdict : Bool} (settled : inst.state = .ofVerdict verdict)
    (advance : Advance time inst next told) :
    told = [] ∧ next.state = inst.state ∧ next.episodeStart? = inst.episodeStart? ∧
      next.verdict = inst.verdict ∧ next.witness = inst.witness := by
  have shut : ¬ inst.state.isOpen = true := by simp [settled, isOpen_ofVerdict]
  cases advance with
  | stays stage start verdict witness =>
      have state : next.state = inst.state := stage.resolve_right fun both => shut both.1
      exact ⟨rfl, state, start, verdict, witness.resolve_left shut⟩
  | enters waiting => exact absurd (settled.symm.trans waiting) (ofVerdict_ne_inactive verdict)
  | leaves isOpen => exact absurd isOpen shut
  | concludes isOpen => exact absurd isOpen shut
  | closes isOpen => exact absurd isOpen shut

/-- After a part of which the user is told nothing, the rest is what is told. -/
theorem of_silent (first : Advance time inst mid []) (second : Advance time mid next told) :
    Advance time inst next told := by
  cases first with
  | stays stage start verdict witness =>
      have opened (isOpen : mid.state.isOpen = true) : inst.state.isOpen = true := by
        rcases stage with same | both
        · rwa [← same]
        · exact both.1
      cases second with
      | stays laterStage laterStart laterVerdict laterWitness =>
          refine .stays ?_ (laterStart.trans start) (laterVerdict.trans verdict) ?_
          · rcases laterStage with same | ⟨isOpen, stillOpen⟩
            · rw [same]
              exact stage
            · exact .inr ⟨opened isOpen, stillOpen⟩
          · rcases laterWitness with isOpen | same
            · exact .inl (opened isOpen)
            · rw [same]
              exact witness
      | enters waiting isOpen begun sameVerdict =>
          refine .enters ?_ isOpen begun (sameVerdict.trans verdict)
          rcases stage with same | ⟨_, isOpen⟩
          · rw [← same, waiting]
          · rw [waiting] at isOpen
            cases isOpen
      | leaves isOpen waiting ended sameVerdict =>
          exact .leaves (opened isOpen) waiting ended (sameVerdict.trans verdict)
      | concludes isOpen settled same known =>
          exact .concludes (opened isOpen) settled (same.trans start) known
      | closes isOpen settled ended known => exact .closes (opened isOpen) settled ended known

/-- A deadline comes first, and leaves the rest of the call with nothing to tell if it settles the
verdict. -/
theorem andThen (first : Advance time inst mid told)
    (either : told = [] ∨ ∃ verdict, mid.state = .ofVerdict verdict)
    (second : Advance time mid next further) : Advance time inst next (told ++ further) := by
  rcases either with rfl | ⟨verdict, settled⟩
  · exact first.of_silent second
  · obtain ⟨rfl, state, start, verdict', witness⟩ := of_settled settled second
    have shut : ¬ mid.state.isOpen = true := by simp [settled, isOpen_ofVerdict]
    rw [List.append_nil]
    cases first with
    | stays stage begun unchanged kept =>
        refine .stays ?_ (start.trans begun) (verdict'.trans unchanged) ?_
        · rw [state]
          exact stage
        · rw [witness]
          exact kept
    | enters _ isOpen => exact absurd isOpen shut
    | leaves _ waiting => exact absurd (settled.symm.trans waiting) (ofVerdict_ne_inactive verdict)
    | concludes isOpen concluded begun known =>
        rw [← witness]
        exact .concludes isOpen (state.trans concluded) (start.trans begun) (verdict'.trans known)
    | closes isOpen concluded ended known =>
        rw [← witness]
        exact .closes isOpen (state.trans concluded) (start.trans ended) (verdict'.trans known)

end Advance

namespace Instance

variable (inst : Instance) (rule : Rule) (topic : String) (message : Message) (time : Timestamp)

/-- Records may leave the pool, and nobody is told. -/
theorem discharge_frame :
    ∃ pool, (inst.discharge rule message).inst = { inst with pool := pool } ∧
      (inst.discharge rule message).notices = [] := by
  unfold discharge
  cases rule.reaction.guard with
  | consumePooled =>
      cases inst.pool.consume (inst.testPooled rule message) with
      | error crash => exact ⟨inst.pool, rfl, rfl⟩
      | ok pair => exact ⟨pair.2, rfl, rfl⟩
  | message => exact ⟨inst.pool, rfl, rfl⟩
  | undecided => exact ⟨inst.pool, rfl, rfl⟩
  | anyPooled => exact ⟨inst.pool, rfl, rfl⟩

/-- A record may enter the pool, and nobody is told. -/
theorem store_frame (action : PoolAction) (record : Record) :
    ∃ pool, (inst.store action record).inst = { inst with pool := pool } ∧
      (inst.store action record).notices = [] := by
  unfold store
  cases action with
  | keep => exact ⟨inst.pool, rfl, rfl⟩
  | clear => exact ⟨inst.pool.clear, rfl, rfl⟩
  | push =>
      cases inst.pool.push record with
      | error crash => exact ⟨inst.pool, rfl, rfl⟩
      | ok pool => exact ⟨pool, rfl, rfl⟩
  | replace =>
      obtain ⟨stored, pool⟩ := inst.pool.replace record
      refine ⟨pool, ?_⟩
      rcases stored with crash | stored
      · exact ⟨rfl, rfl⟩
      · cases stored <;> exact ⟨rfl, rfl⟩

/-- A transition only writes to the log. -/
theorem transition_notices (next : State) (verdict? : Option Bool) :
    (inst.transition next verdict? time).2.filterMap Effect.notice? = [] := by
  unfold transition
  cases verdict? <;> rfl

/-- At the end of a rule the scope is told first, and then the verdict. -/
theorem settle_notices (added : List Record) :
    (inst.settle rule topic time added).notices =
      (scopeEffects rule.reaction.scope time).filterMap Effect.notice? ++
        ((inst.settle rule topic time added).inst.verdictEffects rule.reaction.verdict?
          time).filterMap Effect.notice? := by
  simp [settle, Step.notices, Step.done, List.filterMap_cons, Effect.notice?, transition_notices]

/-- A rule breaks off with a change of the pool, of which nobody is told, or it completes. -/
theorem apply_cases :
    (∃ pool, (inst.apply rule topic message time).inst = { inst with pool := pool } ∧
        (inst.apply rule topic message time).notices = []) ∨
      ∃ pool added,
        (inst.apply rule topic message time).inst =
            ({ inst with pool := pool }.settle rule topic time added).inst ∧
          (inst.apply rule topic message time).notices =
            ({ inst with pool := pool }.settle rule topic time added).notices := by
  unfold apply
  dsimp only
  cases inst.additions rule.reaction.witness ⟨topic, time, message, rule.alias?⟩ with
  | error failure => exact .inl ⟨inst.pool, rfl, rfl⟩
  | ok added =>
      obtain ⟨left, discharged, quiet⟩ := inst.discharge_frame rule message
      cases first : (inst.discharge rule message).result with
      | error failure =>
          obtain ⟨_, same, told⟩ := Step.andThen_of_error
            (fun _ inst =>
              (inst.store rule.reaction.pool ⟨topic, time, message, rule.alias?⟩).andThen
                fun _ inst => inst.settle rule topic time added) first
          exact .inl ⟨left, same.trans discharged, told.trans quiet⟩
      | ok _ =>
          rw [Step.andThen_inst _ first, Step.notices_andThen _ first, quiet, List.nil_append,
            discharged]
          obtain ⟨kept, stored, silent⟩ := { inst with pool := left }.store_frame
            rule.reaction.pool ⟨topic, time, message, rule.alias?⟩
          generalize { inst with pool := left }.store rule.reaction.pool
            ⟨topic, time, message, rule.alias?⟩ = storing at stored silent
          cases second : storing.result with
          | error failure =>
              obtain ⟨_, same, told⟩ := Step.andThen_of_error
                (fun _ inst => inst.settle rule topic time added) second
              exact .inl ⟨kept, same.trans stored, told.trans silent⟩
          | ok _ =>
              right
              refine ⟨kept, added, ?_, ?_⟩
              · rw [Step.andThen_inst _ second, stored]
              · rw [Step.notices_andThen _ second, silent, stored, List.nil_append]

end Instance

/-- Records that are too old are dropped without a word. -/
theorem Machine.evict_notices (inst : Instance) (age : Duration) (now : Timestamp) :
    (evict inst age now).notices = [] := by
  simp only [evict, Step.notices, Step.done]
  split <;> rfl

theorem Machine.mem_deadlines {machine : Machine} {state : State} {deadline : Deadline}
    (timed : machine.deadline? state = some deadline) :
    (state, deadline) ∈ machine.deadlines := by
  obtain ⟨before, after, whole, _⟩ := List.lookup_eq_some_iff.mp timed
  rw [whole]
  exact List.mem_append_right before List.mem_cons_self

/-- Looking at the clock may write to the log. -/
theorem Machine.onTimer_notices {machine : Machine} {inst : Instance} (running : inst.state ≠ .off)
    (now : Timestamp) :
    (machine.onTimer inst now).notices =
      (machine.checkDeadline (inst.observe now).1 now).notices := by
  have logged : (inst.observe now).2.filterMap Effect.notice? = [] := by
    unfold Instance.observe
    split
    · split <;> rfl
    · rfl
  simp only [onTimer, State.isOff_of_ne running, Bool.false_eq_true, if_false, Step.notices,
    List.filterMap_append, logged, List.nil_append]

section Duty

variable {property : Property} {inst : Instance} {rule : Rule} (topic : String) (message : Message)
  (time : Timestamp)

/-- Once the pool is up to date, what a duty does is told. -/
theorem Duty.settle_advances (duty : Duty property rule.role inst.state rule.reaction) (pool : Pool)
    (added : List Record) :
    Advance time inst ({ inst with pool := pool }.settle rule topic time added).inst
      ({ inst with pool := pool }.settle rule topic time added).notices := by
  rw [Instance.settle_notices]
  simp only [Instance.settle, Step.done, Instance.transition_inst]
  generalize rule.role = role, rule.reaction = reaction at duty
  have entry : property.pattern.kind.entry.isOpen = true := by
    cases property.pattern.kind <;> rfl
  obtain ⟨state, verdict, _, witness, _, _, _, start, _⟩ := inst
  cases duty with
  | opens => exact .enters rfl entry rfl rfl
  | leaves _ active => rcases active with rfl | rfl | rfl <;> exact .leaves rfl rfl rfl rfl
  | closes active => rcases active with rfl | rfl <;> exact .closes rfl rfl rfl rfl
  | closesOwed => exact .closes rfl rfl rfl rfl
  | decides => exact .concludes rfl rfl rfl rfl
  | secures => exact .stays (.inr ⟨rfl, rfl⟩) rfl rfl (.inl rfl)
  | stores => exact .stays (.inl rfl) rfl rfl (.inl rfl)
  | allows => exact .stays (.inl rfl) rfl rfl (.inl rfl)
  | owes => exact .stays (.inr ⟨rfl, rfl⟩) rfl rfl (.inl rfl)
  | owesMore => exact .stays (.inl rfl) rfl rfl (.inl rfl)
  | answers =>
      refine .stays (.inr ⟨rfl, ?_⟩) rfl rfl (.inl rfl)
      change (if pool.isEmpty then State.idle else State.pending).isOpen = true
      split <;> rfl

/-- Whether or not a rule completes, what it does is told. -/
theorem Duty.apply_advances (duty : Duty property rule.role inst.state rule.reaction) :
    Advance time inst (inst.apply rule topic message time).inst
      (inst.apply rule topic message time).notices := by
  rcases inst.apply_cases rule topic message time with
    ⟨pool, same, silent⟩ | ⟨pool, added, settled, told⟩
  · rw [same, silent]
    exact .of_pool time inst pool
  · rw [settled, told]
    exact duty.settle_advances topic time pool added

end Duty

namespace Property

variable {property : Property} {core : Core} {inst : Instance}

/-- What the deadlines of a pattern do: records expire, the episode is safe, or the verdict is
settled. -/
theorem core_deadlines (made : property.pattern.core property.scope.kind.isReentrant = .ok core) :
    ∀ timed ∈ core.deadlines, timed.1.isOpen = true ∧
      (timed.2.effect = .evict ∨ timed.2.effect = .transition .keep none .safe ∨
        ∃ action verdict,
          timed.2.effect = .transition action (some verdict) (.ofVerdict verdict)) := by
  intro timed member
  cases hasCore made with
  | absence =>
      rw [(Core.mem_deadlineIf member).2]
      refine ⟨rfl, .inr ?_⟩
      cases property.scope.kind.isReentrant with
      | true => exact .inl rfl
      | false => exact .inr ⟨.keep, true, rfl⟩
  | existence =>
      rw [(Core.mem_deadlineIf member).2]
      exact ⟨rfl, .inr (.inr ⟨.keep, false, rfl⟩)⟩
  | simpleRequirement => exact absurd member List.not_mem_nil
  | pooledRequirement =>
      rw [(Core.mem_deadlineIf member).2]
      exact ⟨rfl, .inl rfl⟩
  | response =>
      rw [(Core.mem_deadlineIf member).2]
      exact ⟨rfl, .inr (.inr ⟨.recordPending, false, rfl⟩)⟩

/-- A deadline that has passed is told if it settles the verdict. -/
theorem overrun_advances (inst : Instance) (action : WitnessAction) {verdict? : Option Bool}
    {next : State} (isOpen : inst.state.isOpen = true)
    (leads : verdict? = none ∧ next = .safe ∨
      ∃ verdict, verdict? = some verdict ∧ next = .ofVerdict verdict) (now : Timestamp) :
    let step := Machine.overrun inst action verdict? next now
    Advance now inst step.inst step.notices ∧
      (step.notices = [] ∨ ∃ verdict, step.inst.state = .ofVerdict verdict) := by
  dsimp only
  unfold Machine.overrun
  cases expired : Machine.expire inst action with
  | error failure => exact ⟨.refl now inst, .inl rfl⟩
  | ok justified =>
      obtain ⟨witness, rfl⟩ : ∃ witness, justified = { inst with witness := witness } := by
        unfold Machine.expire at expired
        split at expired
        · exact ⟨inst.witness, (Except.ok.inj expired).symm⟩
        · split at expired
          · exact ⟨_, (Except.ok.inj expired).symm⟩
          · cases expired
        · cases expired
      simp only [Step.notices, Step.done, List.filterMap_cons, List.filterMap_append,
        Instance.transition_notices, Instance.transition_inst, Effect.notice?]
      rcases leads with ⟨rfl, rfl⟩ | ⟨verdict, rfl, rfl⟩
      · exact ⟨.stays (.inr ⟨isOpen, rfl⟩) rfl rfl (.inl isOpen), .inl rfl⟩
      · exact ⟨.concludes isOpen rfl rfl rfl, .inr ⟨verdict, rfl⟩⟩

section Machine

variable (made : property.pattern.core property.scope.kind.isReentrant = .ok core)

include made

/-- When time passes, nothing is told but a verdict. -/
theorem checkDeadline_advances (inst : Instance) (now : Timestamp) :
    let step := (property.assemble core).checkDeadline inst now
    Advance now inst step.inst step.notices ∧
      (step.notices = [] ∨ ∃ verdict, step.inst.state = .ofVerdict verdict) := by
  have quiet : Advance now inst inst [] ∧ (([] : List Notice) = [] ∨
      ∃ verdict, inst.state = .ofVerdict verdict) := ⟨.refl now inst, .inl rfl⟩
  cases timed : (property.assemble core).deadline? inst.state with
  | none =>
      rw [Machine.checkDeadline_of_none timed]
      exact quiet
  | some deadline =>
      obtain ⟨isOpen, effect⟩ := core_deadlines made _ (Machine.mem_deadlines timed)
      obtain ⟨anchor, _⟩ := deadline
      dsimp only at effect
      rcases effect with rfl | rfl | ⟨action, verdict, rfl⟩
      · cases bounded : (property.assemble core).bound with
        | unbounded =>
            rw [Machine.checkDeadline_of_unbounded bounded]
            exact quiet
        | within span =>
            simp only [Machine.checkDeadline, timed, bounded, Machine.evict_notices]
            exact ⟨.of_pool now inst _, .inl trivial⟩
      · rcases Machine.checkDeadline_cases timed now with same | ran
        · rw [same]
          exact quiet
        · rw [ran]
          exact overrun_advances inst .keep isOpen (.inl ⟨rfl, rfl⟩) now
      · rcases Machine.checkDeadline_cases timed now with same | ran
        · rw [same]
          exact quiet
        · rw [ran]
          exact overrun_advances inst action isOpen (.inr ⟨verdict, rfl, rfl⟩) now

/-- So it is when the clock is looked at first. -/
theorem onTimer_advances (inst : Instance) (now : Timestamp) :
    let step := (property.assemble core).onTimer inst now
    Advance now inst step.inst step.notices ∧
      (step.notices = [] ∨ ∃ verdict, step.inst.state = .ofVerdict verdict) := by
  dsimp only
  by_cases isOff : inst.state = .off
  · rw [Machine.onTimer_of_off isOff]
    exact ⟨.refl now inst, .inl rfl⟩
  · obtain ⟨latest?, observed⟩ := Machine.observe_inst inst now
    obtain ⟨advance, either⟩ := checkDeadline_advances made (inst.observe now).1 now
    rw [(Machine.onTimer_eq isOff now).2, Machine.onTimer_notices isOff]
    refine ⟨?_, either⟩
    rw [observed] at advance ⊢
    exact advance.of_observed

/-- A message that is offered to the rules is told as far as one of them applies. -/
theorem offer_advances (inst : Instance) (topic : String) (message : Message) (time : Timestamp) :
    let step := (property.assemble core).offer inst topic message time
    Advance time inst step.inst step.notices := by
  unfold Machine.offer
  dsimp only
  split
  · exact .refl time inst
  · split
    · exact .refl time inst
    · exact .refl time inst
    · next rule selected =>
        have member := List.mem_of_find?_eq_some (Instance.select_ok selected)
        have advance := (rulesAt_performs made member).duty.apply_advances topic message time
        rw [Step.andThen_done_inst, Step.andThen_done_notices]
        exact advance

end Machine

end Property

/-- The step without its answer. -/
def Step.void {α : Type} (step : Step α) : Step Unit :=
  ⟨step.result.map fun _ => (), step.inst, step.effects⟩

namespace Machine

/-- The step of an operation. -/
def execute (machine : Machine) (inst : Instance) : Operation → Step Unit
  | .launch time => machine.launch inst time
  | .shutdown time => shutdown inst time
  | .reset => machine.reset inst
  | .call (.timer time) => machine.onTimer inst time
  | .call (.message topic message time) => (machine.onMessage inst topic message time).void

theorem execute_inst (machine : Machine) (inst : Instance) (operation : Operation) :
    (machine.execute inst operation).inst = machine.perform inst operation := by
  cases operation with
  | call call => cases call <;> rfl
  | _ => rfl

theorem execute_of_off (machine : Machine) {inst : Instance} (isOff : inst.state = .off)
    (call : Call) : machine.execute inst (.call call) = .done () inst [] := by
  cases call with
  | timer time => exact onTimer_of_off isOff time
  | message topic message time =>
      rw [execute, onMessage_of_off isOff]
      rfl

end Machine

/-- A call of a running monitor is told, whether or not it completes. -/
theorem Property.execute_advances {property : Property} {core : Core}
    (made : property.pattern.core property.scope.kind.isReentrant = .ok core) (inst : Instance)
    (call : Call) :
    let step := (property.assemble core).execute inst (.call call)
    Advance call.time inst step.inst step.notices := by
  cases call with
  | timer time => exact (onTimer_advances made inst time).1
  | message topic message time =>
      by_cases isOff : inst.state = .off
      · rw [Machine.execute_of_off _ isOff]
        exact .refl time inst
      · have passed := onTimer_ok made inst time
        obtain ⟨advance, either⟩ := onTimer_advances made inst time
        change Advance time inst ((property.assemble core).onMessage inst topic message time).inst
          ((property.assemble core).onMessage inst topic message time).notices
        rw [Machine.onMessage_of_on isOff, Step.andThen_inst _ passed,
          Step.notices_andThen _ passed]
        exact advance.andThen either (offer_advances made _ topic message time)

/-- How an operation is named when a poisoned monitor refuses it. -/
def Operation.name : Operation → String
  | launch _ => "launch"
  | shutdown _ => "shutdown"
  | reset => "reset"
  | call (.timer _) => "on_timer"
  | call (.message _ _ _) => "on_message"

/-- The end of a call without its answer. -/
def Outcome.void {α : Type} (outcome : Outcome α) : Outcome Unit :=
  ⟨outcome.result.map fun _ => (), outcome.monitor, outcome.calls, outcome.log⟩

namespace Monitor

/-- Whether the answer is dropped before or after the callbacks are told makes no difference. -/
theorem run_void {α : Type} (monitor : Monitor) (operation : String) (step : Instance → Step α) :
    (monitor.run operation step).void = monitor.run operation fun inst => (step inst).void := by
  unfold run
  split
  · rfl
  · simp only [Outcome.void, Step.void]
    cases (monitor.callbacks.deliver (step monitor.inst).effects).crash? with
    | some crash => rfl
    | none =>
        cases (step monitor.inst).result with
        | ok value => rfl
        | error failure => cases failure <;> rfl

/-- The end of an operation, without the answer to a message. -/
def outcome (monitor : Monitor) : Operation → Outcome Unit
  | .launch time => monitor.launch time
  | .shutdown time => monitor.shutdown time
  | .reset => monitor.reset
  | .call (.timer time) => monitor.onTimer time
  | .call (.message topic message time) => (monitor.onMessage topic message time).void

theorem outcome_monitor (monitor : Monitor) (operation : Operation) :
    (monitor.outcome operation).monitor = monitor.perform operation := by
  cases operation with
  | call call => cases call <;> rfl
  | _ => rfl

/-- Every operation runs its step. -/
theorem outcome_eq (monitor : Monitor) (operation : Operation) :
    monitor.outcome operation =
      monitor.run operation.name fun inst => monitor.machine.execute inst operation := by
  cases operation with
  | call call =>
      cases call with
      | timer time => rfl
      | message topic message time => exact monitor.run_void _ _
  | _ => rfl

end Monitor

end TemporalMonitor
