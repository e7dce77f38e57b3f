import TemporalMonitor.Proofs.Monitor.Notice

/-!
What a monitor cannot tell apart.

A pool shows its records and its capacity. The numbers of arrival that it gives out are never seen:
a new record has the highest number, so it goes behind all records that are not later. Nor does a
monitor look at the times that it remembers of its launch and its transitions. So two monitors that
show the same do the same with every call.
-/

namespace TemporalMonitor

namespace Pool

/-- A test crashes on one of the records, or those leave that pass it. -/
theorem consume_cases (pool : Pool) (test : Record → Except Crash Bool) :
    (∃ crash, tested test pool.entries.reverse = .error crash ∧
        pool.consume test = .error crash) ∨
      ∃ results taken, tested test pool.entries.reverse = .ok results ∧
        pool.consume test =
          .ok (taken, pool.without fun record => (test record).toOption.getD false) := by
  cases done : tested test pool.entries.reverse with
  | error crash =>
      refine .inl ⟨crash, rfl, ?_⟩
      rw [consume, done]
      rfl
  | ok results =>
      obtain ⟨⟨taken, left⟩, consumed⟩ : ∃ pair, pool.consume test = .ok pair := by
        rw [consume, done]
        exact ⟨_, rfl⟩
      have answers (record : Record) (answer : Bool) (answered : test record = .ok answer) :
          (test record).toOption.getD false = answer := by
        rw [answered]
        rfl
      refine .inr ⟨results, taken, rfl, ?_⟩
      rw [consumed, consume_ok answers consumed]

/-- The pools show the same, and one of them is ahead of the other with its numbers. -/
structure Alike (lead : UInt64) (first second : Pool) : Prop where
  capacity : first.capacity = second.capacity
  records : first.records = second.records
  numbers : first.nextArrival = second.nextArrival + lead

namespace Alike

variable {lead : UInt64} {first second : Pool}

theorem size_eq (alike : Alike lead first second) : first.size = second.size := by
  rw [← length_records, ← length_records, alike.records]

theorem isFull_eq (alike : Alike lead first second) : first.isFull = second.isFull := by
  rw [isFull, isFull, alike.capacity, alike.size_eq]

theorem isEmpty_eq (alike : Alike lead first second) : first.isEmpty = second.isEmpty := by
  have vacant := congrArg List.isEmpty alike.records
  rwa [Pool.records, Pool.records, List.isEmpty_map, List.isEmpty_map] at vacant

theorem oldest_eq (alike : Alike lead first second) : first.oldest? = second.oldest? := by
  rw [oldest?, oldest?, alike.records]

theorem overflow_eq (alike : Alike lead first second) : first.overflow = second.overflow := by
  unfold overflow
  rw [alike.capacity, alike.size_eq]

theorem holdsNewerThan_eq (alike : Alike lead first second) (record : Record) :
    first.holdsNewerThan record = second.holdsNewerThan record := by
  rw [holdsNewerThan, holdsNewerThan, newest?, newest?, alike.records]

theorem clear (alike : Alike lead first second) : Alike lead first.clear second.clear :=
  ⟨alike.capacity, rfl, alike.numbers⟩

theorem evict (alike : Alike lead first second) (now : Timestamp) (age : Duration) :
    Alike lead (first.evict now age) (second.evict now age) where
  capacity := alike.capacity
  records := by rw [records_evict, records_evict, alike.records]
  numbers := alike.numbers

/-- Pools that are ordered stay alike when a record is stored in both. -/
theorem stored (alike : Alike lead first second) (ordered : first.Ordered)
    (otherOrdered : second.Ordered) (record : Record) :
    Alike lead (first.stored record) (second.stored record) where
  capacity := alike.capacity
  records := by rw [ordered.records_stored, otherOrdered.records_stored, alike.records]
  numbers := by
    change first.nextArrival + 1 = second.nextArrival + 1 + lead
    rw [alike.numbers, UInt64.add_assoc, UInt64.add_assoc, UInt64.add_comm lead]

theorem without (alike : Alike lead first second) (leaves : Record → Bool) :
    Alike lead (first.without leaves) (second.without leaves) where
  capacity := alike.capacity
  records := by rw [records_without, records_without, alike.records]
  numbers := alike.numbers

/-- Whether a test crashes on the way depends on the records only. -/
theorem tested (test : Record → Except Crash Bool) {entries others : List Entry}
    (same : entries.map Entry.record = others.map Entry.record) :
    (Pool.tested test entries).map (fun _ => ()) = (Pool.tested test others).map fun _ => () := by
  induction entries generalizing others with
  | nil =>
      obtain rfl : others = [] := List.map_eq_nil_iff.mp same.symm
      rfl
  | cons first rest ih =>
      cases others with
      | nil => cases same
      | cons other remaining =>
          obtain ⟨head, tail⟩ := List.cons.inj same
          have continued := ih tail
          simp only [Pool.tested, bind, Except.bind, head]
          cases test other.record with
          | error crash => rfl
          | ok passes =>
              cases one : Pool.tested test rest <;> cases two : Pool.tested test remaining <;>
                simp_all [Except.map]

/-- A test crashes for both pools, or it takes the same records out of both. -/
theorem consume (alike : Alike lead first second) (test : Record → Except Crash Bool) :
    (∃ crash, first.consume test = .error crash ∧ second.consume test = .error crash) ∨
      ∃ leaves taken others, first.consume test = .ok (taken, first.without leaves) ∧
        second.consume test = .ok (others, second.without leaves) := by
  have reversed :
      first.entries.reverse.map Entry.record = second.entries.reverse.map Entry.record := by
    rw [List.map_reverse, List.map_reverse]
    exact congrArg List.reverse alike.records
  have crashes := tested test reversed
  rcases first.consume_cases test with ⟨crash, one, consumed⟩ | ⟨results, taken, one, consumed⟩ <;>
    rcases second.consume_cases test with ⟨other, two, others⟩ | ⟨_, otherTaken, two, others⟩ <;>
    rw [one, two] at crashes
  · obtain rfl := Except.error.inj crashes
    exact .inl ⟨crash, consumed, others⟩
  · cases crashes
  · cases crashes
  · exact .inr ⟨_, taken, otherTaken, consumed, others⟩

end Alike

end Pool

/-- The monitors show the same, apart from the times of their transitions. -/
structure Instance.Alike (lead : UInt64) (first second : Instance) : Prop where
  state : first.state = second.state
  verdict : first.verdict = second.verdict
  witness : first.witness = second.witness
  episode : first.episodeStart? = second.episodeStart?
  pool : Pool.Alike lead first.pool second.pool

/-- The steps have the same result, tell the same, and leave monitors that show the same. -/
structure Step.Agrees {α : Type} (lead : UInt64) (first second : Step α) : Prop where
  result : first.result = second.result
  notices : first.notices = second.notices
  inst : first.inst.Alike lead second.inst

theorem Step.Agrees.andThen {α β : Type} {lead : UInt64} {first second : Step α}
    {next : α → Instance → Step β} (agrees : first.Agrees lead second)
    (rest : ∀ value, (next value first.inst).Agrees lead (next value second.inst)) :
    (first.andThen next).Agrees lead (second.andThen next) := by
  cases result : second.result with
  | error failure =>
      have same := agrees.result.trans result
      obtain ⟨one, oneInst, oneTold⟩ := andThen_of_error next same
      obtain ⟨two, twoInst, twoTold⟩ := andThen_of_error next result
      refine ⟨by rw [one, two], by rw [oneTold, twoTold, agrees.notices], ?_⟩
      rw [oneInst, twoInst]
      exact agrees.inst
  | ok value =>
      have same := agrees.result.trans result
      have later := rest value
      refine ⟨?_, ?_, ?_⟩
      · rw [andThen_result _ same, andThen_result _ result, later.result]
      · rw [notices_andThen _ same, notices_andThen _ result, agrees.notices, later.notices]
      · rw [andThen_inst _ same, andThen_inst _ result]
        exact later.inst

/-- Taking records out of a pool keeps it in order. -/
theorem Instance.ordered_discharge {inst : Instance} (ordered : inst.pool.Ordered) (rule : Rule)
    (message : Message) : (inst.discharge rule message).inst.pool.Ordered := by
  unfold discharge
  split
  · rcases inst.pool.consume_cases (inst.testPooled rule message) with
      ⟨crash, _, consumed⟩ | ⟨_, taken, _, consumed⟩
    · simp only [consumed]
      exact ordered
    · simp only [consumed, Step.done]
      exact ordered.without _
  · exact ordered

namespace Instance.Alike

variable {lead : UInt64} {first second : Instance} (alike : first.Alike lead second)

include alike

theorem bindings_eq : first.bindings = second.bindings := by
  rw [bindings, bindings, alike.witness]

theorem testPooled_eq (rule : Rule) (message : Message) :
    first.testPooled rule message = second.testPooled rule message := by
  funext pooled
  rw [testPooled, testPooled, bindingsWith, bindingsWith, alike.bindings_eq]

theorem select_eq (message : Message) (rules : List Rule) :
    first.select message rules = second.select message rules := by
  have guard (rule : Rule) : first.guardHolds message rule = second.guardHolds message rule := by
    rw [guardHolds, guardHolds, alike.bindings_eq, alike.testPooled_eq, Pool.newestFirst,
      Pool.newestFirst, alike.pool.records]
  induction rules with
  | nil => rfl
  | cons rule rest ih => rw [select, select, guard, ih]

theorem additions_eq (action : WitnessAction) (record : Record) :
    first.additions action record = second.additions action record := by
  unfold additions
  rw [alike.pool.oldest_eq]

/-- With other pools in their places, monitors that are alike stay so. -/
theorem withPool {pool other : Pool} (pools : Pool.Alike lead pool other) :
    { first with pool := pool }.Alike lead { second with pool := other } :=
  ⟨alike.state, alike.verdict, alike.witness, alike.episode, pools⟩

theorem discharge (rule : Rule) (message : Message) :
    (first.discharge rule message).Agrees lead (second.discharge rule message) := by
  unfold Instance.discharge
  rw [alike.testPooled_eq]
  cases rule.reaction.guard with
  | message => exact ⟨rfl, rfl, alike⟩
  | undecided => exact ⟨rfl, rfl, alike⟩
  | anyPooled => exact ⟨rfl, rfl, alike⟩
  | consumePooled =>
      rcases alike.pool.consume (second.testPooled rule message) with
        ⟨crash, one, two⟩ | ⟨leaves, taken, others, one, two⟩
      · simp only [one, two]
        exact ⟨rfl, rfl, alike⟩
      · simp only [one, two]
        exact ⟨rfl, rfl, alike.withPool (alike.pool.without leaves)⟩

/-- Whether a record has to be refused, and where it is put, can be seen from the records. -/
theorem store (ordered : first.pool.Ordered) (otherOrdered : second.pool.Ordered)
    (action : PoolAction) (record : Record) :
    (first.store action record).Agrees lead (second.store action record) := by
  unfold Instance.store
  cases action with
  | keep => exact ⟨rfl, rfl, alike⟩
  | clear => exact ⟨rfl, rfl, alike.withPool alike.pool.clear⟩
  | push =>
      have fills := alike.pool.isFull_eq
      cases full : second.pool.isFull with
      | true =>
          simp only [Pool.push, fills, full, if_true, alike.pool.overflow_eq]
          exact ⟨rfl, rfl, alike⟩
      | false =>
          simp only [Pool.push_eq full, Pool.push_eq (fills.trans full)]
          exact ⟨rfl, rfl, alike.withPool (alike.pool.stored ordered otherOrdered record)⟩
  | replace =>
      have fills := alike.pool.clear.isFull_eq
      cases newer : second.pool.holdsNewerThan record with
      | true =>
          simp only [Pool.replace, alike.pool.holdsNewerThan_eq, newer, if_true]
          exact ⟨rfl, rfl, alike.withPool alike.pool⟩
      | false =>
          cases full : second.pool.clear.isFull with
          | true =>
              simp only [Pool.replace, alike.pool.holdsNewerThan_eq, newer, Pool.push, fills, full,
                if_true, alike.pool.clear.overflow_eq, Bool.false_eq_true, if_false]
              exact ⟨rfl, rfl, alike.withPool alike.pool.clear⟩
          | false =>
              simp only [Pool.replace, alike.pool.holdsNewerThan_eq, newer, Pool.push_eq full,
                Pool.push_eq (fills.trans full), Bool.false_eq_true, if_false]
              exact ⟨rfl, rfl, alike.withPool
                (alike.pool.clear.stored Pool.Ordered.clear Pool.Ordered.clear record)⟩

theorem justify (action : WitnessAction) (added : List Record) :
    (first.justify action added).Alike lead (second.justify action added) := by
  unfold Instance.justify
  split
  · exact ⟨alike.state, alike.verdict, rfl, alike.episode, alike.pool⟩
  · exact ⟨alike.state, alike.verdict, congrArg (· ++ added) alike.witness, alike.episode,
      alike.pool⟩

theorem rescope (action : ScopeAction) (time : Timestamp) :
    (first.rescope action time).Alike lead (second.rescope action time) := by
  unfold Instance.rescope
  split
  · exact alike
  · exact ⟨alike.state, alike.verdict, alike.witness, rfl, alike.pool⟩
  · exact ⟨alike.state, alike.verdict, alike.witness, rfl, alike.pool⟩

theorem nextState_eq (next : Next) : first.nextState next = second.nextState next := by
  unfold nextState
  rw [alike.state, alike.pool.isEmpty_eq]

theorem transition (next : State) (verdict? : Option Bool) (time : Timestamp) :
    (first.transition next verdict? time).1.Alike lead
      (second.transition next verdict? time).1 := by
  rw [transition_inst, transition_inst]
  refine ⟨rfl, ?_, alike.witness, alike.episode, alike.pool⟩
  rw [alike.verdict]

theorem settle (rule : Rule) (topic : String) (time : Timestamp) (added : List Record) :
    (first.settle rule topic time added).Agrees lead (second.settle rule topic time added) := by
  have rescoped := (alike.justify rule.reaction.witness added).rescope rule.reaction.scope time
  have settled : (first.settle rule topic time added).inst.Alike lead
      (second.settle rule topic time added).inst := by
    simp only [Instance.settle, Step.done, rescoped.nextState_eq]
    exact rescoped.transition _ _ _
  refine ⟨rfl, ?_, settled⟩
  simp only [settle_notices, verdictEffects, settled.witness]

end Instance.Alike

namespace Instance.Alike

variable {lead : UInt64} {first second : Instance}

/-- Rules do the same to monitors that are alike, as long as their pools are in order. -/
theorem apply (alike : first.Alike lead second) (ordered : first.pool.Ordered)
    (otherOrdered : second.pool.Ordered) (rule : Rule) (topic : String) (message : Message)
    (time : Timestamp) :
    (first.apply rule topic message time).Agrees lead (second.apply rule topic message time) := by
  simp only [Instance.apply, alike.additions_eq]
  split
  · exact ⟨rfl, rfl, alike⟩
  · refine (alike.discharge rule message).andThen fun _ => ?_
    have discharged := (alike.discharge rule message).inst
    have left := ordered_discharge ordered rule message
    have otherLeft := ordered_discharge otherOrdered rule message
    refine (discharged.store left otherLeft _ _).andThen fun _ => ?_
    exact (discharged.store left otherLeft _ _).inst.settle rule topic time _

end Instance.Alike

namespace Machine

variable (machine : Machine) {lead : UInt64} {first second : Instance}

theorem offer_agrees (alike : first.Alike lead second) (ordered : first.pool.Ordered)
    (otherOrdered : second.pool.Ordered) (topic : String) (message : Message) (time : Timestamp) :
    (machine.offer first topic message time).Agrees lead
      (machine.offer second topic message time) := by
  unfold offer
  rw [alike.state, alike.select_eq]
  split
  · exact ⟨rfl, rfl, alike⟩
  · split
    · exact ⟨rfl, rfl, alike⟩
    · exact ⟨rfl, rfl, alike⟩
    · next rule _ =>
        have applied := alike.apply ordered otherOrdered rule topic message time
        exact applied.andThen fun _ => ⟨rfl, rfl, applied.inst⟩

theorem overrun_agrees (alike : first.Alike lead second) (action : WitnessAction)
    (verdict? : Option Bool) (next : State) (now : Timestamp) :
    (overrun first action verdict? next now).Agrees lead
      (overrun second action verdict? next now) := by
  unfold overrun expire
  rw [alike.pool.oldest_eq]
  -- What is told of a verdict is the witness, which is the same in both.
  have passes {one other : Instance} (same : one.Alike lead other) :
      Step.Agrees lead
        (.done () (one.transition next verdict? now).1
          (.log (.deadlinePassed first.state next now) :: (one.transition next verdict? now).2 ++
            (one.transition next verdict? now).1.verdictEffects verdict? now))
        (.done () (other.transition next verdict? now).1
          (.log (.deadlinePassed second.state next now) ::
            (other.transition next verdict? now).2 ++
            (other.transition next verdict? now).1.verdictEffects verdict? now)) := by
    have moved := same.transition next verdict? now
    refine ⟨rfl, ?_, moved⟩
    simp only [Step.notices, Step.done, List.filterMap_cons, List.filterMap_append,
      Instance.transition_notices, Effect.notice?, Instance.verdictEffects, moved.witness]
  cases action with
  | keep => exact passes alike
  | recordPending =>
      cases second.pool.oldest? with
      | none => exact ⟨rfl, rfl, alike⟩
      | some oldest =>
          exact passes ⟨alike.state, alike.verdict, congrArg (· ++ [oldest]) alike.witness,
            alike.episode, alike.pool⟩
  | record => exact ⟨rfl, rfl, alike⟩
  | recordBoth => exact ⟨rfl, rfl, alike⟩
  | reset => exact ⟨rfl, rfl, alike⟩

theorem checkDeadline_agrees (alike : first.Alike lead second) (now : Timestamp) :
    (machine.checkDeadline first now).Agrees lead (machine.checkDeadline second now) := by
  have reference (anchor : Anchor) : reference? first anchor = reference? second anchor := by
    cases anchor with
    | episodeStart => exact alike.episode
    | oldestPooled => exact congrArg (Option.map Record.timestamp) alike.pool.oldest_eq
  unfold checkDeadline
  rw [alike.state]
  split
  · split
    · refine ⟨rfl, ?_, alike.withPool (alike.pool.evict now _)⟩
      rw [evict_notices, evict_notices]
    · rw [reference]
      split
      · split
        · exact overrun_agrees alike _ _ _ now
        · exact ⟨rfl, rfl, alike⟩
      · exact ⟨rfl, rfl, alike⟩
  · exact ⟨rfl, rfl, alike⟩

/-- Time has the same effect on monitors that are alike. -/
theorem onTimer_agrees (alike : first.Alike lead second) (now : Timestamp) :
    (machine.onTimer first now).Agrees lead (machine.onTimer second now) := by
  by_cases isOff : second.state = .off
  · rw [onTimer_of_off isOff, onTimer_of_off (alike.state.trans isOff)]
    exact ⟨rfl, rfl, alike⟩
  · have running : first.state ≠ .off := by rwa [alike.state]
    obtain ⟨latest?, observed⟩ := observe_inst first now
    obtain ⟨otherLatest?, otherObserved⟩ := observe_inst second now
    have seen : (first.observe now).1.Alike lead (second.observe now).1 := by
      rw [observed, otherObserved]
      exact ⟨alike.state, alike.verdict, alike.witness, alike.episode, alike.pool⟩
    have checked := machine.checkDeadline_agrees seen now
    refine ⟨?_, ?_, ?_⟩
    · rw [(onTimer_eq running now).1, (onTimer_eq isOff now).1, checked.result]
    · rw [onTimer_notices running, onTimer_notices isOff, checked.notices]
    · rw [(onTimer_eq running now).2, (onTimer_eq isOff now).2]
      exact checked.inst

/-- Time that passes keeps the pool in order. -/
theorem ordered_onTimer {inst : Instance} (ordered : inst.pool.Ordered) (now : Timestamp) :
    (machine.onTimer inst now).inst.pool.Ordered := by
  by_cases isOff : inst.state = .off
  · rw [onTimer_of_off isOff]
    exact ordered
  · obtain ⟨latest?, observed⟩ := observe_inst inst now
    obtain ⟨entries, part, pool⟩ := machine.checkDeadline_pool (inst.observe now).1 now
    rw [(onTimer_eq isOff now).2, pool]
    rw [observed] at part ⊢
    exact ordered.sublist part

/-- So has a message, as long as the pools are in order. -/
theorem onMessage_agrees (alike : first.Alike lead second) (ordered : first.pool.Ordered)
    (otherOrdered : second.pool.Ordered) (topic : String) (message : Message) (time : Timestamp) :
    (machine.onMessage first topic message time).Agrees lead
      (machine.onMessage second topic message time) := by
  by_cases isOff : second.state = .off
  · rw [onMessage_of_off isOff, onMessage_of_off (alike.state.trans isOff)]
    exact ⟨rfl, rfl, alike⟩
  · have running : first.state ≠ .off := by rwa [alike.state]
    have passed := machine.onTimer_agrees alike time
    rw [onMessage_of_on running, onMessage_of_on isOff]
    exact passed.andThen fun _ => machine.offer_agrees passed.inst
      (machine.ordered_onTimer ordered time) (machine.ordered_onTimer otherOrdered time) topic
      message time

end Machine

end TemporalMonitor
