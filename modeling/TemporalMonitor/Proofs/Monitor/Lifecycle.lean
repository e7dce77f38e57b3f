import TemporalMonitor.Proofs.Monitor.Notice
import TemporalMonitor.Proofs.Monitor.Witness
import TemporalMonitor.Proofs.Property.Scoped

/-!
The life of a monitor, from its launch to the next one.

While the monitor runs, its state says which verdict is known, and no rule or deadline stands in the
states of the verdicts. So a known verdict stays until the monitor is launched again or reset. An
operation that is out of place is refused, and then nothing has happened.
-/

namespace TemporalMonitor

/-- How the state and the verdict of a running monitor go together. -/
inductive Instance.Poised (inst : Instance) : Prop where
  | underway (live : inst.state = .inactive ∨ inst.state.isOpen = true)
      (unknown : inst.verdict = .unknown) : Poised inst
  | settled {verdict : Bool} (state : inst.state = .ofVerdict verdict)
      (known : inst.verdict = .ofBool verdict) : Poised inst

namespace Instance.Poised

variable {inst next : Instance}

/-- Whatever a running monitor does, state and verdict stay in step. -/
theorem of_advance {time : Timestamp} {told : List Notice} (poised : inst.Poised)
    (advance : Advance time inst next told) : next.Poised := by
  cases poised with
  | underway live unknown =>
      cases advance with
      | stays stage _ same =>
          refine .underway ?_ (same.trans unknown)
          rcases stage with state | ⟨_, isOpen⟩
          · rwa [state]
          · exact .inr isOpen
      | enters _ isOpen _ same => exact .underway (.inr isOpen) (same.trans unknown)
      | leaves _ waiting _ same => exact .underway (.inl waiting) (same.trans unknown)
      | concludes _ settled _ known => exact .settled settled known
      | closes _ settled _ known => exact .settled settled known
  | settled state known =>
      obtain ⟨_, same, _, unchanged, _⟩ := Advance.of_settled state advance
      exact .settled (same.trans state) (unchanged.trans known)

theorem running (poised : inst.Poised) : inst.state ≠ .off := by
  intro isOff
  cases poised with
  | underway live => simp [isOff, State.isOpen] at live
  | @settled verdict state => cases verdict <;> simp [isOff, State.ofVerdict] at state

theorem known_iff (poised : inst.Poised) (verdict : Bool) :
    inst.verdict = .ofBool verdict ↔ inst.state = .ofVerdict verdict := by
  cases poised with
  | underway live unknown =>
      rw [unknown]
      constructor
      · intro known
        exact absurd known.symm (Verdict.ofBool_ne_unknown verdict)
      · intro state
        rw [state, Advance.isOpen_ofVerdict] at live
        exact absurd live (by simp [Advance.ofVerdict_ne_inactive])
  | @settled reached state known =>
      rw [state, known]
      cases verdict <;> cases reached <;> simp [Verdict.ofBool, State.ofVerdict]

theorem settled_of_known (poised : inst.Poised) (known : inst.verdict ≠ .unknown) :
    ∃ verdict, inst.state = .ofVerdict verdict := by
  cases poised with
  | underway _ unknown => exact absurd unknown known
  | settled state => exact ⟨_, state⟩

end Instance.Poised

namespace Instance

variable (inst : Instance) (rule : Rule) (topic : String) (time : Timestamp)

theorem nextState_cases (next : Next) :
    inst.nextState next = inst.state ∨ inst.nextState next ∈ next.targets := by
  cases next with
  | stay => exact .inl rfl
  | goto state => exact .inr List.mem_cons_self
  | drain empty otherwise =>
      right
      rw [nextState, Next.targets, List.mem_pair]
      split
      · exact .inl rfl
      · exact .inr rfl

/-- A rule leaves the state as it is, or leads to one of its targets. -/
theorem apply_state (message : Message) :
    (inst.apply rule topic message time).inst.state = inst.state ∨
      (inst.apply rule topic message time).inst.state ∈ rule.reaction.next.targets := by
  rcases inst.apply_cases rule topic message time with
    ⟨pool, same, _⟩ | ⟨pool, added, settled, _⟩
  · rw [same]
    exact .inl rfl
  · rw [settled]
    simp only [settle, Step.done, transition_inst]
    generalize justified : ({ inst with pool := pool }.justify rule.reaction.witness added).rescope
      rule.reaction.scope time = moved
    have state : moved.state = inst.state := by
      rw [← justified]
      unfold rescope justify
      split <;> split <;> rfl
    rw [← state]
    exact moved.nextState_cases rule.reaction.next

end Instance

namespace Machine

section States

variable {machine : Machine} {inst : Instance}

theorem mem_states {state : State} :
    state ∈ machine.states ↔ state = machine.initial ∨
      (∃ placement ∈ machine.placements,
        state = placement.state ∨ state ∈ placement.rule.reaction.next.targets) ∨
      ∃ entry ∈ machine.deadlines, state = entry.1 ∨ state ∈ entry.2.effect.targets := by
  rw [states, table_states, Ordered.mem_ofItems]
  simp

variable (listed : inst.state ∈ machine.states)

include listed

theorem offer_listed (topic : String) (message : Message) (time : Timestamp) :
    (machine.offer inst topic message time).inst.state ∈ machine.states := by
  unfold offer
  split
  · exact listed
  · split
    · exact listed
    · exact listed
    · next rule selected =>
        rw [Step.andThen_done_inst]
        obtain ⟨placement, placed, rfl, -, -⟩ :=
          mem_rulesAt.mp (List.mem_of_find?_eq_some (Instance.select_ok selected))
        rcases inst.apply_state placement.rule topic time message with same | target
        · rwa [same]
        · exact mem_states.mpr (.inr (.inl ⟨placement, placed, .inr target⟩))

theorem checkDeadline_listed (now : Timestamp) :
    (machine.checkDeadline inst now).inst.state ∈ machine.states := by
  cases timed : machine.deadline? inst.state with
  | none =>
      rw [checkDeadline_of_none timed]
      exact listed
  | some deadline =>
      obtain ⟨anchor, effect⟩ := deadline
      cases effect with
      | evict =>
          cases bounded : machine.bound with
          | unbounded =>
              rw [checkDeadline_of_unbounded bounded]
              exact listed
          | within span =>
              rw [(checkDeadline_of_evict timed bounded).2]
              exact listed
      | transition action verdict? next =>
          have target : next ∈ machine.states :=
            mem_states.mpr (.inr (.inr ⟨_, mem_deadlines timed, .inr (List.mem_singleton.mpr rfl)⟩))
          rcases checkDeadline_cases timed now with same | ran
          · rw [same]
            exact listed
          · rw [ran, overrun]
            split
            · exact listed
            · simp only [Step.done, Instance.transition_inst]
              exact target

theorem onTimer_listed (now : Timestamp) :
    (machine.onTimer inst now).inst.state ∈ machine.states := by
  by_cases isOff : inst.state = .off
  · rw [onTimer_of_off isOff]
    exact listed
  · obtain ⟨latest?, observed⟩ := observe_inst inst now
    rw [(onTimer_eq isOff now).2, observed]
    exact checkDeadline_listed (by exact listed) now

/-- A call leads to a state that the machine lists. -/
theorem next_listed (call : Call) : (machine.next inst call).state ∈ machine.states := by
  cases call with
  | timer time => exact onTimer_listed listed time
  | message topic message time =>
      rw [next]
      by_cases isOff : inst.state = .off
      · rw [onMessage_of_off isOff]
        exact listed
      · rw [onMessage_of_on isOff]
        cases passed : (machine.onTimer inst time).result with
        | error failure =>
            rw [(Step.andThen_of_error _ passed).2.1]
            exact onTimer_listed listed time
        | ok _ =>
            rw [Step.andThen_inst _ passed]
            exact offer_listed (onTimer_listed listed time) topic message time

end States

end Machine

/-- An error was returned. A crash is no answer. -/
def Refused {α : Type} (result : Except Failure α) : Prop :=
  ∃ error, result = .error (.error error)

theorem Step.calm_done {α : Type} (value : α) (inst : Instance) (effects : List Effect) :
    (Step.done value inst effects).Calm := by
  intro crash crashed
  cases crashed

theorem Step.calm_refused {α : Type} {step : Step α} (refused : Refused step.result) :
    step.Calm := by
  obtain ⟨error, same⟩ := refused
  intro crash crashed
  cases same.symm.trans crashed

theorem Step.andThen_answers {α β : Type} {first : Step α} {next : α → Instance → Step β}
    (begun : ¬ Refused first.result) (rest : ∀ value inst, ¬ Refused (next value inst).result) :
    ¬ Refused (first.andThen next).result := by
  cases result : first.result with
  | error failure =>
      rw [(andThen_of_error next result).1]
      rintro ⟨error, same⟩
      obtain rfl := Except.error.inj same
      exact begun ⟨error, result⟩
  | ok value =>
      rw [andThen_result next result]
      exact rest value first.inst

theorem Step.void_answers {α : Type} {step : Step α} (answers : ¬ Refused step.result) :
    ¬ Refused step.void.result := by
  rintro ⟨error, refused⟩
  cases result : step.result with
  | ok value => simp [void, result, Except.map] at refused
  | error failure =>
      rw [void, result] at refused
      obtain rfl := Except.error.inj refused
      exact answers ⟨error, result⟩

/-- The operation is out of place in the state. -/
def Operation.Misplaced (state : State) : Operation → Prop
  | launch _ | reset => state ≠ .off
  | shutdown _ => state = .off
  | call _ => False

/-- The operation starts anew. -/
def Operation.restarts : Operation → Bool
  | launch _ | reset => true
  | shutdown _ | call _ => false

namespace Machine

variable (machine : Machine) {inst : Instance}

/-- What is out of place is refused, and nothing else happens. -/
theorem execute_of_misplaced {operation : Operation} (misplaced : operation.Misplaced inst.state) :
    ∃ error, machine.execute inst operation = ⟨.error (.error error), inst, []⟩ := by
  cases operation with
  | launch time =>
      refine ⟨.execution (.alreadyActive inst.state.name), ?_⟩
      rw [execute, launch, State.isOff_of_ne misplaced, if_neg (by decide)]
  | reset =>
      refine ⟨.execution (.alreadyActive inst.state.name), ?_⟩
      rw [execute, reset, State.isOff_of_ne misplaced, if_neg (by decide)]
  | shutdown time =>
      have isOff : inst.state = .off := misplaced
      refine ⟨.execution .notActive, ?_⟩
      rw [execute, shutdown, isOff]
      rfl
  | call call => exact absurd misplaced id

/-- Nothing of the past is left after a launch. -/
theorem launch_of_off (isOff : inst.state = .off) (time : Timestamp) :
    machine.launch inst time = machine.launch (Instance.off machine) time := by
  rw [launch, launch, isOff]
  rfl

theorem reset_of_off (isOff : inst.state = .off) :
    machine.reset inst = .done () (Instance.off machine) [] := by
  rw [reset, isOff]
  rfl

theorem shutdown_of_on (running : inst.state ≠ .off) (time : Timestamp) :
    shutdown inst time = .done () { inst with state := .off, shutdownTime? := some time }
      [.log (.shutDown inst.state inst.verdict time)] := by
  rw [shutdown, State.isOff_of_ne running, if_neg (by decide)]

/-- What a monitor of the machine remembers is in order. -/
structure InOrder (inst : Instance) : Prop where
  poised : inst.state ≠ .off → inst.Poised
  listed : inst.state ≠ .off → inst.state ∈ machine.states

end Machine

namespace Property

variable {property : Property} {core : Core}
  (made : property.pattern.core property.scope.kind.isReentrant = .ok core)

include made

theorem launched_poised (time : Timestamp) : ((property.assemble core).launched time).Poised := by
  refine .underway ?_ rfl
  change (if property.scope.kind.hasActivator then State.inactive else core.entry) = .inactive ∨
    (if property.scope.kind.hasActivator then State.inactive else core.entry).isOpen = true
  split
  · exact .inl rfl
  · rw [(core_states made).1]
    cases property.pattern.kind <;> exact .inr rfl

/-- Every operation leaves what is remembered in order, whether or not it completes. -/
theorem perform_inOrder {inst : Instance} (inOrder : (property.assemble core).InOrder inst)
    (operation : Operation) :
    (property.assemble core).InOrder ((property.assemble core).perform inst operation) := by
  by_cases misplaced : operation.Misplaced inst.state
  · obtain ⟨error, refused⟩ := (property.assemble core).execute_of_misplaced misplaced
    rw [← Machine.execute_inst, refused]
    exact inOrder
  · cases operation with
    | launch time =>
        rw [Machine.perform, Machine.launch_of_off _ (not_not.mp misplaced)]
        exact ⟨fun _ => launched_poised made time, fun _ => Machine.mem_states.mpr (.inl rfl)⟩
    | reset =>
        rw [Machine.perform, Machine.reset_of_off _ (not_not.mp misplaced)]
        exact ⟨fun running => absurd rfl running, fun running => absurd rfl running⟩
    | shutdown time =>
        rw [Machine.perform, Machine.shutdown_of_on misplaced]
        exact ⟨fun running => absurd rfl running, fun running => absurd rfl running⟩
    | call call =>
        rw [Machine.perform]
        by_cases isOff : inst.state = .off
        · rw [Machine.next_of_off isOff]
          exact inOrder
        · have advance := execute_advances made inst call
          dsimp only at advance
          rw [Machine.execute_inst] at advance
          exact ⟨fun _ => (inOrder.poised isOff).of_advance advance,
            fun _ => Machine.next_listed (inOrder.listed isOff) call⟩

section Settled

variable {inst : Instance} {verdict : Bool} (settled : inst.state = .ofVerdict verdict)

include settled

theorem onTimer_of_settled (now : Timestamp) :
    ((property.assemble core).onTimer inst now).result = .ok () ∧
      ∃ latest?, ((property.assemble core).onTimer inst now).inst =
        { inst with latestSeen? := latest? } := by
  have running : inst.state ≠ .off := by
    rw [settled]
    cases verdict <;> decide
  have calm : inst.state ≠ .engaged ∧ inst.state ≠ .pending := by
    rw [settled]
    cases verdict <;> decide
  obtain ⟨latest?, observed⟩ := Machine.observe_inst inst now
  obtain ⟨result, passed⟩ := onTimer_lapse made running now
  rw [observed, lapse_of_calm (by exact calm)] at passed
  exact ⟨result, latest?, passed⟩

theorem onMessage_of_settled (topic : String) (message : Message) (time : Timestamp) :
    ((property.assemble core).onMessage inst topic message time).result = .ok false ∧
      ∃ latest?, ((property.assemble core).onMessage inst topic message time).inst =
        { inst with latestSeen? := latest? } := by
  have terminal : inst.state.isTerminal = true := by
    rw [settled]
    cases verdict <;> rfl
  have running : inst.state ≠ .off := by
    rw [settled]
    cases verdict <;> decide
  obtain ⟨result, latest?, passed⟩ := onTimer_of_settled made settled time
  obtain ⟨answer, remembered⟩ := Machine.onMessage_eq running result topic message
  rw [answer, remembered, passed, Machine.offer_of_terminal (by exact terminal)]
  exact ⟨rfl, latest?, rfl⟩

/-- What a call finds settled, it leaves as it is, and nobody is told anything. -/
theorem execute_of_settled (call : Call) :
    let step := (property.assemble core).execute inst (.call call)
    step.Calm ∧ step.notices = [] ∧
      ∃ latest?, step.inst = { inst with latestSeen? := latest? } := by
  have silent := (Advance.of_settled settled (execute_advances made inst call)).1
  cases call with
  | timer time =>
      obtain ⟨result, remembered⟩ := onTimer_of_settled made settled time
      refine ⟨fun crash crashed => ?_, silent, remembered⟩
      rw [Machine.execute, result] at crashed
      cases crashed
  | message topic message time =>
      obtain ⟨result, remembered⟩ := onMessage_of_settled made settled topic message time
      refine ⟨fun crash crashed => ?_, silent, remembered⟩
      rw [Machine.execute, Step.void, result] at crashed
      cases crashed

end Settled

end Property

theorem State.ofVerdict_ne_pending (verdict : Bool) : State.ofVerdict verdict ≠ .pending := by
  cases verdict <;> decide

theorem PatternKind.entry_ne_pending (kind : PatternKind) : kind.entry ≠ .pending := by
  cases kind <;> decide

/-- What a pending monitor owes is pooled. -/
def Instance.Owing (inst : Instance) : Prop :=
  inst.state = .pending → inst.pool.records ≠ []

namespace Property

variable {property : Property} {inst : Instance}

/-- Time leaves what is owed in the pool. -/
theorem lapse_owing (owing : inst.Owing) (now : Timestamp) : (property.lapse inst now).Owing := by
  intro pending
  unfold lapse at pending ⊢
  split at pending
  · rcases property.overdue_state inst now with state | state | state <;>
    · rw [state] at pending
      cases pending
  · next inTime =>
      rw [if_neg inTime]
      rcases property.refreshed_cases inst now with same | ⟨_, _, _, _, engaged, evicted⟩
      · rw [same] at pending ⊢
        exact owing pending
      · rw [evicted] at pending
        exact absurd (engaged.symm.trans pending) (by decide)

/-- A duty leaves a monitor pending only if something is owed. -/
theorem Takes.owing {call : Call} {next : Instance} (takes : property.Takes inst call next)
    (owing : inst.Owing) : next.Owing := by
  cases takes with
  | nothing => exact owing
  | @duty role reaction event record discharged duty =>
      intro pending
      generalize here : inst.state = state at duty
      have moved : { inst with pool := inst.poolAfter reaction record discharged }.nextState
        reaction.next = .pending := pending
      cases duty with
      | opens => exact absurd moved (PatternKind.entry_ne_pending _)
      | leaves => cases moved
      | closes => exact absurd moved (State.ofVerdict_ne_pending _)
      | closesOwed => cases moved
      | decides => exact absurd moved (State.ofVerdict_ne_pending _)
      | secures => cases moved
      | stores => exact absurd (here.symm.trans moved) (by decide)
      | allows => exact absurd (here.symm.trans moved) (by decide)
      | owes => exact Pool.records_stored_ne_nil
      | owesMore => exact Pool.records_stored_ne_nil
      | answers =>
          intro vacant
          have drained : { inst with pool := inst.poolAfter _ record discharged }.nextState
            (.drain .idle .pending) = .idle := if_pos (Pool.isEmpty_iff.mpr vacant)
          exact absurd (drained.symm.trans moved) (by decide)

end Property

/-- A monitor that is usable has pooled what it owes. -/
theorem Machine.Reached.owing {property : Property} {core : Core}
    (made : property.pattern.core property.scope.kind.isReentrant = .ok core) {count : Nat}
    {inst : Instance} {chronicle : Chronicle}
    (reached : (property.assemble core).Reached count inst chronicle) : inst.Owing := by
  induction reached with
  | fresh =>
      intro pending
      cases pending
  | reset =>
      intro pending
      cases pending
  | shutdown =>
      intro pending
      cases pending
  | launch _ _ time =>
      intro pending
      change (if property.scope.kind.hasActivator then State.inactive else core.entry) = .pending
        at pending
      split at pending
      · cases pending
      · rw [(Property.core_states made).1] at pending
        exact absurd pending (PatternKind.entry_ne_pending _)
  | call _ running survives owing =>
      obtain ⟨latest?, takes⟩ := Property.next_takes made running survives
      exact takes.owing (Property.lapse_owing (by exact owing) _)
  | ignored _ owing => exact owing

namespace Instance

variable {inst : Instance}

/-- Taking records out of the pool is never refused, though a test may crash. -/
theorem discharge_answers (rule : Rule) (message : Message) :
    ¬ Refused (inst.discharge rule message).result := by
  rintro ⟨error, refused⟩
  unfold discharge at refused
  split at refused
  · split at refused <;> cases refused
  · cases refused

theorem store_answers (action : PoolAction) (record : Record) :
    ¬ Refused (inst.store action record).result := by
  rintro ⟨error, refused⟩
  unfold store at refused
  repeat' split at refused
  all_goals cases refused

theorem additions_ok {action : WitnessAction}
    (pooled : action = .recordPending ∨ action = .recordBoth → inst.pool.records ≠ [])
    (record : Record) : ∃ added, inst.additions action record = .ok added := by
  unfold additions
  cases action with
  | keep => exact ⟨_, rfl⟩
  | reset => exact ⟨_, rfl⟩
  | record => exact ⟨_, rfl⟩
  | recordPending =>
      obtain ⟨oldest, first⟩ := exists_oldest (pooled (.inl rfl))
      rw [first]
      exact ⟨_, rfl⟩
  | recordBoth =>
      obtain ⟨oldest, first⟩ := exists_oldest (pooled (.inr rfl))
      rw [first]
      exact ⟨_, rfl⟩

/-- A rule is refused only if it reports what is not pooled. -/
theorem apply_answers {rule : Rule} (topic : String) (message : Message) (time : Timestamp)
    (pooled : rule.reaction.witness = .recordPending ∨ rule.reaction.witness = .recordBoth →
      inst.pool.records ≠ []) : ¬ Refused (inst.apply rule topic message time).result := by
  obtain ⟨added, reported⟩ := additions_ok pooled ⟨topic, time, message, rule.alias?⟩
  simp only [apply, reported]
  refine Step.andThen_answers (discharge_answers rule message) fun _ _ => ?_
  refine Step.andThen_answers (store_answers _ _) fun _ _ => ?_
  rintro ⟨error, refused⟩
  cases refused

end Instance

/-- Only the end of a response that is owed reports what is pooled. -/
theorem Duty.pending_of_reports {property : Property} {role : Role} {state : State}
    {reaction : Reaction} (duty : Duty property role state reaction)
    (reports : reaction.witness = .recordPending ∨ reaction.witness = .recordBoth) :
    state = .pending := by
  cases duty <;> first | rfl | (rcases reports with pending | both <;> contradiction)

namespace Property

variable {property : Property} {core : Core}
  (made : property.pattern.core property.scope.kind.isReentrant = .ok core)

include made

theorem offer_answers {inst : Instance} (owing : inst.Owing) (topic : String) (message : Message)
    (time : Timestamp) :
    ¬ Refused ((property.assemble core).offer inst topic message time).result := by
  rintro ⟨error, refused⟩
  unfold Machine.offer at refused
  split at refused
  · cases refused
  · split at refused
    · cases refused
    · cases refused
    · next rule selected =>
        have member := List.mem_of_find?_eq_some (Instance.select_ok selected)
        have duty := (rulesAt_performs made member).duty
        have applied := Instance.apply_answers topic message time fun reports =>
          owing (duty.pending_of_reports reports)
        refine Step.andThen_answers applied (fun _ _ => ?_) ⟨error, refused⟩
        rintro ⟨_, done⟩
        cases done

theorem onMessage_answers {inst : Instance} (owing : inst.Owing) (topic : String)
    (message : Message) (time : Timestamp) :
    ¬ Refused ((property.assemble core).onMessage inst topic message time).result := by
  by_cases isOff : inst.state = .off
  · rw [Machine.onMessage_of_off isOff]
    rintro ⟨error, refused⟩
    cases refused
  · obtain ⟨latest?, observed⟩ := Machine.observe_inst inst time
    obtain ⟨result, passed⟩ := onTimer_lapse made isOff time
    rw [(Machine.onMessage_eq isOff result topic message).1, passed, observed]
    exact offer_answers made (lapse_owing (by exact owing) time) topic message time

/-- An operation in its place is not refused by a monitor that has pooled what it owes. -/
theorem execute_answers {inst : Instance} (owing : inst.Owing) {operation : Operation}
    (placed : ¬ operation.Misplaced inst.state) :
    ¬ Refused ((property.assemble core).execute inst operation).result := by
  cases operation with
  | launch time =>
      rw [Machine.execute, Machine.launch_of_off _ (not_not.mp placed)]
      rintro ⟨error, refused⟩
      cases refused
  | reset =>
      rw [Machine.execute, Machine.reset_of_off _ (not_not.mp placed)]
      rintro ⟨error, refused⟩
      cases refused
  | shutdown time =>
      rw [Machine.execute, Machine.shutdown_of_on placed]
      rintro ⟨error, refused⟩
      cases refused
  | call call =>
      cases call with
      | timer time =>
          rw [Machine.execute, onTimer_ok made inst time]
          rintro ⟨error, refused⟩
          cases refused
      | message topic message time =>
          exact Step.void_answers (onMessage_answers made owing topic message time)

end Property

namespace Monitor

variable {monitor : Monitor} {inst : Instance}

theorem outcome_of_poisoned (poisoned : monitor.isPoisoned = true) (operation : Operation) :
    monitor.outcome operation = ⟨.error (poisonedIn operation.name), monitor, [], []⟩ := by
  rw [outcome_eq, run, if_pos poisoned]

theorem callbacks_perform (monitor : Monitor) (operation : Operation) :
    (monitor.perform operation).callbacks = monitor.callbacks := by
  rw [← outcome_monitor, outcome_eq]
  exact monitor.run_callbacks _ _

theorem callbacks_after (monitor : Monitor) (operations : List Operation) :
    (monitor.after operations).callbacks = monitor.callbacks := by
  induction operations generalizing monitor with
  | nil => rfl
  | cons operation rest ih => exact (ih _).trans (monitor.callbacks_perform operation)

/-- Where nothing crashes and nobody is told anything, an operation has the effect of its step. -/
theorem outcome_of_quiet (usable : monitor.isPoisoned = false) {operation : Operation}
    (calm : (monitor.machine.execute monitor.inst operation).Calm)
    (silent : (monitor.machine.execute monitor.inst operation).notices = []) :
    (monitor.outcome operation).result = (monitor.machine.execute monitor.inst operation).result ∧
      (monitor.outcome operation).calls = [] ∧
      monitor.perform operation =
        { monitor with inst := monitor.machine.perform monitor.inst operation } := by
  obtain ⟨result, calls, after⟩ := run_notices usable operation.name fun inst =>
    monitor.machine.execute inst operation
  have unharmed : poisons (monitor.machine.execute monitor.inst operation).result = false := by
    cases ended : (monitor.machine.execute monitor.inst operation).result with
    | ok _ => rfl
    | error failure =>
        cases failure with
        | error error => rfl
        | crash crash => exact absurd ended (calm crash)
  rw [silent] at result calls after
  rw [← outcome_monitor, ← Machine.execute_inst, outcome_eq, result, calls, after]
  refine ⟨rfl, rfl, ?_⟩
  simp only [Callbacks.inform, resultOf, unharmed, usable]

/-- A poisoned monitor refuses everything, and every monitor refuses what is out of place. Then
nothing has happened. -/
theorem outcome_of_cause {operation : Operation}
    (cause : monitor.isPoisoned = true ∨ operation.Misplaced monitor.inst.state) :
    Refused (monitor.outcome operation).result ∧ (monitor.outcome operation).calls = [] ∧
      (monitor.outcome operation).monitor = monitor := by
  cases poisoned : monitor.isPoisoned with
  | true =>
      rw [outcome_of_poisoned poisoned]
      exact ⟨⟨_, rfl⟩, rfl, rfl⟩
  | false =>
      have misplaced := cause.resolve_left (by simp [poisoned])
      obtain ⟨error, refused⟩ := monitor.machine.execute_of_misplaced misplaced
      have calm : (monitor.machine.execute monitor.inst operation).Calm :=
        Step.calm_refused ⟨error, by rw [refused]⟩
      obtain ⟨result, calls, after⟩ := outcome_of_quiet poisoned calm (by rw [refused]; rfl)
      rw [outcome_monitor, result, after, ← Machine.execute_inst, refused]
      exact ⟨⟨error, rfl⟩, calls, rfl⟩

/-- What holds of a monitor at any time, poisoned or not. -/
structure Kept (machine : Machine) (monitor : Monitor) : Prop where
  machine_eq : monitor.machine = machine
  inOrder : machine.InOrder monitor.inst
  /-- Whatever crashes, crashes while the monitor runs. -/
  running : monitor.isPoisoned = true → monitor.inst.state ≠ .off

section Compiled

variable {property : Property} {core : Core}
  (made : property.pattern.core property.scope.kind.isReentrant = .ok core)

include made

/-- Where the user is told something or a test crashes, the monitor runs afterwards. -/
theorem quiet_or_running (inOrder : (property.assemble core).InOrder inst) (operation : Operation) :
    let step := (property.assemble core).execute inst operation
    step.Calm ∧ step.notices = [] ∨ step.inst.state ≠ .off := by
  dsimp only
  by_cases misplaced : operation.Misplaced inst.state
  · obtain ⟨error, refused⟩ := (property.assemble core).execute_of_misplaced misplaced
    rw [refused]
    exact .inl ⟨Step.calm_refused ⟨error, rfl⟩, rfl⟩
  · cases operation with
    | launch time =>
        right
        rw [Machine.execute, Machine.launch_of_off _ (not_not.mp misplaced)]
        exact (Property.launched_poised made time).running
    | reset =>
        left
        rw [Machine.execute, Machine.reset_of_off _ (not_not.mp misplaced)]
        exact ⟨Step.calm_done _ _ _, rfl⟩
    | shutdown time =>
        left
        rw [Machine.execute, Machine.shutdown_of_on misplaced]
        exact ⟨Step.calm_done _ _ _, rfl⟩
    | call call =>
        by_cases isOff : inst.state = .off
        · rw [Machine.execute_of_off _ isOff]
          exact .inl ⟨Step.calm_done _ _ _, rfl⟩
        · exact .inr ((inOrder.poised isOff).of_advance
            (Property.execute_advances made inst call)).running

theorem Kept.perform (kept : monitor.Kept (property.assemble core)) (operation : Operation) :
    (monitor.perform operation).Kept (property.assemble core) := by
  cases poisoned : monitor.isPoisoned with
  | true =>
      rw [← outcome_monitor, outcome_of_poisoned poisoned]
      exact kept
  | false =>
      have inOrder := Property.perform_inOrder made kept.inOrder operation
      rcases quiet_or_running made kept.inOrder operation with ⟨calm, silent⟩ | running
      · rw [← kept.machine_eq] at calm silent
        rw [(outcome_of_quiet poisoned calm silent).2.2, kept.machine_eq]
        refine ⟨rfl, inOrder, fun stillPoisoned => ?_⟩
        exact absurd (poisoned.symm.trans stillPoisoned) (by decide)
      · obtain ⟨_, _, after⟩ := run_notices poisoned operation.name fun inst =>
          monitor.machine.execute inst operation
        rw [← outcome_monitor, outcome_eq, after, kept.machine_eq]
        rw [← Machine.execute_inst] at inOrder
        exact ⟨rfl, inOrder, fun _ => running⟩

theorem kept_after (callbacks : Callbacks) (operations : List Operation) :
    ((fresh (property.assemble core) callbacks).after operations).Kept
      (property.assemble core) := by
  induction operations using List.reverseRecOn with
  | nil =>
      refine ⟨rfl, ⟨fun running => absurd rfl running, fun running => absurd rfl running⟩, ?_⟩
      intro poisoned
      cases poisoned
  | append_singleton rest operation ih =>
      rw [after, List.foldl_append]
      exact ih.perform made operation

/-- There is no other reason for a refusal. -/
theorem cause_of_refused (kept : monitor.Kept (property.assemble core))
    (owing : monitor.isPoisoned = false → monitor.inst.Owing) {operation : Operation}
    (refused : Refused (monitor.outcome operation).result) :
    monitor.isPoisoned = true ∨ operation.Misplaced monitor.inst.state := by
  by_contra neither
  obtain ⟨usable, placed⟩ := not_or.mp neither
  rw [Bool.not_eq_true] at usable
  have answers := Property.execute_answers made (owing usable) placed
  obtain ⟨result, _, _⟩ := run_notices usable operation.name fun inst =>
    monitor.machine.execute inst operation
  rw [outcome_eq, result, kept.machine_eq] at refused
  obtain ⟨error, refused⟩ := refused
  unfold resultOf at refused
  split at refused
  · cases refused
  · exact answers ⟨error, refused⟩

/-- Once the verdict is known, an operation in its place is quiet unless it starts anew. -/
theorem execute_of_known (inOrder : (property.assemble core).InOrder inst)
    (known : inst.verdict ≠ .unknown) {operation : Operation} (goesOn : operation.restarts = false)
    (placed : ¬ operation.Misplaced inst.state) :
    let step := (property.assemble core).execute inst operation
    step.Calm ∧ step.notices = [] ∧ step.inst.verdict = inst.verdict ∧
      step.inst.witness = inst.witness ∧ step.inst.pool = inst.pool := by
  dsimp only
  cases operation with
  | launch time => cases goesOn
  | reset => cases goesOn
  | shutdown time =>
      rw [Machine.execute, Machine.shutdown_of_on placed]
      exact ⟨Step.calm_done _ _ _, rfl, rfl, rfl, rfl⟩
  | call call =>
      by_cases isOff : inst.state = .off
      · rw [Machine.execute_of_off _ isOff]
        exact ⟨Step.calm_done _ _ _, rfl, rfl, rfl, rfl⟩
      · obtain ⟨verdict, settled⟩ := (inOrder.poised isOff).settled_of_known known
        obtain ⟨calm, silent, latest?, same⟩ := Property.execute_of_settled made settled call
        refine ⟨calm, silent, ?_⟩
        rw [same]
        exact ⟨rfl, rfl, rfl⟩

theorem outcome_of_known (kept : monitor.Kept (property.assemble core))
    (known : monitor.inst.verdict ≠ .unknown) {operation : Operation}
    (refusal : operation.restarts = true →
      monitor.isPoisoned = true ∨ operation.Misplaced monitor.inst.state) :
    (monitor.outcome operation).calls = [] ∧
      (monitor.outcome operation).monitor.inst.verdict = monitor.inst.verdict ∧
      (monitor.outcome operation).monitor.inst.witness = monitor.inst.witness ∧
      (monitor.outcome operation).monitor.inst.pool = monitor.inst.pool := by
  by_cases cause : monitor.isPoisoned = true ∨ operation.Misplaced monitor.inst.state
  · obtain ⟨_, calls, same⟩ := outcome_of_cause cause
    rw [same]
    exact ⟨calls, rfl, rfl, rfl⟩
  · have goesOn : operation.restarts = false :=
      Bool.eq_false_iff.mpr fun restarts => cause (refusal restarts)
    obtain ⟨usable, placed⟩ := not_or.mp cause
    rw [Bool.not_eq_true] at usable
    obtain ⟨calm, silent, unchanged⟩ := execute_of_known made kept.inOrder known goesOn placed
    rw [← kept.machine_eq] at calm silent unchanged
    obtain ⟨_, calls, after⟩ := outcome_of_quiet usable calm silent
    rw [outcome_monitor, after, ← Machine.execute_inst]
    exact ⟨calls, unchanged⟩

/-- Once the verdict is known, every message is ignored. -/
theorem onMessage_of_known (kept : monitor.Kept (property.assemble core))
    (known : monitor.inst.verdict ≠ .unknown) (usable : monitor.isPoisoned = false)
    (topic : String) (message : Message) (time : Timestamp) :
    (monitor.onMessage topic message time).result = .ok false := by
  obtain ⟨result, _, _⟩ := run_notices usable "on_message" fun inst =>
    monitor.machine.onMessage inst topic message time
  rw [onMessage, result, kept.machine_eq]
  by_cases isOff : monitor.inst.state = .off
  · rw [Machine.onMessage_of_off isOff]
    rfl
  · obtain ⟨verdict, settled⟩ := (kept.inOrder.poised isOff).settled_of_known known
    have silent :
        ((property.assemble core).onMessage monitor.inst topic message time).notices = [] :=
      (Property.execute_of_settled made settled (.message topic message time)).2.1
    rw [silent, (Property.onMessage_of_settled made settled topic message time).1]
    rfl

end Compiled

/-- The laws of the life of a monitor, poisoned or not. -/
structure Orderly (monitor : Monitor) : Prop where
  satisfied_iff : monitor.inst.state ≠ .off →
    (monitor.inst.verdict = .satisfied ↔ monitor.inst.state = .accepted)
  violated_iff : monitor.inst.state ≠ .off →
    (monitor.inst.verdict = .violated ↔ monitor.inst.state = .rejected)
  listed : monitor.inst.state ≠ .off → monitor.inst.state ∈ monitor.machine.states
  /-- A known verdict stays as it is, with its witness and what is pooled, until a launch or a reset
  succeeds, and the user hears no more. -/
  latched : monitor.inst.verdict ≠ .unknown → ∀ operation,
    (operation.restarts = true → Refused (monitor.outcome operation).result) →
    (monitor.outcome operation).calls = [] ∧
      (monitor.outcome operation).monitor.inst.verdict = monitor.inst.verdict ∧
      (monitor.outcome operation).monitor.inst.witness = monitor.inst.witness ∧
      (monitor.outcome operation).monitor.inst.pool = monitor.inst.pool
  ignores : monitor.inst.verdict ≠ .unknown → monitor.isPoisoned = false →
    ∀ topic message time, (monitor.onMessage topic message time).result = .ok false
  launch_refused_iff : ∀ time, Refused (monitor.launch time).result ↔ monitor.inst.state ≠ .off
  reset_refused_iff : Refused monitor.reset.result ↔ monitor.inst.state ≠ .off
  shutdown_refused_iff : ∀ time, Refused (monitor.shutdown time).result ↔
    monitor.isPoisoned = true ∨ monitor.inst.state = .off
  call_refused_iff : ∀ call, Refused (monitor.outcome (.call call)).result ↔
    monitor.isPoisoned = true
  refused_unchanged : ∀ operation, Refused (monitor.outcome operation).result →
    (monitor.outcome operation).calls = [] ∧ (monitor.outcome operation).monitor = monitor

/-- Every monitor of a compiled property obeys the laws, whatever its user does with it, and
whatever crashes. -/
theorem orderly_after {property : Property} {machine : Machine}
    (compiled : property.compile = .ok machine) (callbacks : Callbacks)
    (operations : List Operation) : ((fresh machine callbacks).after operations).Orderly := by
  obtain ⟨_, core, made, rfl⟩ := property.compile_cases compiled
  have kept := kept_after made callbacks operations
  have owing (usable : ((fresh (property.assemble core) callbacks).after operations).isPoisoned =
      false) : ((fresh (property.assemble core) callbacks).after operations).inst.Owing :=
    (reached_after usable).2.owing made
  generalize (fresh (property.assemble core) callbacks).after operations = monitor at kept owing
  have refused_iff (operation : Operation) : Refused (monitor.outcome operation).result ↔
      monitor.isPoisoned = true ∨ operation.Misplaced monitor.inst.state :=
    ⟨cause_of_refused made kept owing, fun cause => (outcome_of_cause cause).1⟩
  exact {
    satisfied_iff := fun running => (kept.inOrder.poised running).known_iff true
    violated_iff := fun running => (kept.inOrder.poised running).known_iff false
    listed := fun running => kept.machine_eq ▸ kept.inOrder.listed running
    latched := fun known operation refused =>
      outcome_of_known made kept known fun restarts => (refused_iff operation).mp (refused restarts)
    ignores := onMessage_of_known made kept
    launch_refused_iff := fun time => (refused_iff (.launch time)).trans
      ⟨fun cause => cause.elim kept.running id, .inr⟩
    reset_refused_iff := (refused_iff .reset).trans
      ⟨fun cause => cause.elim kept.running id, .inr⟩
    shutdown_refused_iff := fun time => refused_iff (.shutdown time)
    call_refused_iff := fun call => (refused_iff (.call call)).trans (iff_of_eq (or_false _))
    refused_unchanged := fun operation refused =>
      (outcome_of_cause (cause_of_refused made kept owing refused)).2 }

/-- Of two requests one is answered before the stop. The callback that hears of the violation
crashes, and the user goes on calling. -/
theorem orderly_answered :
    ∃ machine monitor, Property.answered.compile = .ok machine ∧
      monitor = (fresh machine { onViolation? := some fun _ _ => .error ⟨"full"⟩ }).after [
        .launch (.ofNanos 0), .call (.message "start" ⟨[]⟩ (.ofNanos 1)),
        .call (.message "request" ⟨[("id", .int 7)]⟩ (.ofNanos 2)),
        .call (.message "request" ⟨[("id", .int 8)]⟩ (.ofNanos 3)),
        .call (.message "reply" ⟨[("id", .int 8)]⟩ (.ofNanos 4)),
        .call (.message "stop" ⟨[]⟩ (.ofNanos 5)), .reset, .call (.timer (.ofNanos 6))] ∧
      monitor.inst.verdict = .violated ∧ monitor.isPoisoned = true ∧ monitor.Orderly := by
  refine ⟨_, _, rfl, rfl, ?_, ?_, orderly_after (show Property.answered.compile = _ from rfl) _ _⟩
  · rfl
  · rfl

end Monitor

end TemporalMonitor
