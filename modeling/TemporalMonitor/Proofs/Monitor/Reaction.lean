import TemporalMonitor.Monitor.Step
import TemporalMonitor.Proofs.Monitor.Pool
import TemporalMonitor.Proofs.Predicate.Reading

/-!
What a rule does.

Tests that do not crash make the choice of a rule a search for the first one that admits the message.
The rule chosen then succeeds, provided that the pool has room for what it stores and holds what it
reports; `reacted` is what the monitor remembers afterwards.
-/

namespace TemporalMonitor

namespace Step

variable {α β : Type}

/-- After a success the second part decides the result. -/
theorem andThen_result {first : Step α} {value : α} (next : α → Instance → Step β)
    (succeeded : first.result = .ok value) :
    (first.andThen next).result = (next value first.inst).result := by
  rw [andThen, succeeded]

/-- After a success the second part decides what is remembered. -/
theorem andThen_inst {first : Step α} {value : α} (next : α → Instance → Step β)
    (succeeded : first.result = .ok value) :
    (first.andThen next).inst = (next value first.inst).inst := by
  rw [andThen, succeeded]

end Step

/-- The pool after an action, whatever its capacity. -/
def Pool.updated (pool : Pool) (action : PoolAction) (record : Record) : Pool :=
  match action with
  | .keep => pool
  | .push => pool.stored record
  | .replace => if pool.holdsNewerThan record then pool else pool.clear.stored record
  | .clear => pool.clear

/-- As long as the numbers do not run out, every action keeps the order. -/
theorem Pool.Ordered.updated {pool : Pool} (ordered : pool.Ordered) (action : PoolAction)
    (record : Record) (numbers : pool.nextArrival.toNat + 1 < UInt64.size) :
    (pool.updated action record).Ordered := by
  cases action with
  | keep => exact ordered
  | push => exact ordered.stored record numbers
  | clear => exact Pool.Ordered.clear
  | replace =>
      unfold Pool.updated
      dsimp only
      split
      · exact ordered
      · have cleared : pool.clear.Ordered := Pool.Ordered.clear
        exact cleared.stored record numbers

/-- An action takes up at most one number of arrival. -/
theorem Pool.nextArrival_updated_le (pool : Pool) (action : PoolAction) (record : Record) :
    (pool.updated action record).nextArrival.toNat ≤ pool.nextArrival.toNat + 1 := by
  have next : (pool.nextArrival + 1).toNat ≤ pool.nextArrival.toNat + 1 := by
    rw [UInt64.toNat_add]
    exact Nat.mod_le _ _
  cases action with
  | keep => exact Nat.le_succ _
  | push => exact next
  | clear => exact Nat.le_succ _
  | replace =>
      unfold updated
      dsimp only
      split
      · exact Nat.le_succ _
      · exact next

namespace Instance

/-- The rule applies to the message. -/
def admits (inst : Instance) (message : Message) (rule : Rule) : Bool :=
  match rule.reaction.guard with
  | .message => rule.predicate.holds message inst.bindings
  | .undecided => rule.predicate.mayHold message inst.bindings
  | .anyPooled | .consumePooled =>
      inst.pool.records.any fun pooled => rule.predicate.holds message (inst.bindingsWith pooled)

theorem anyPasses_eq {test : Record → Except Crash Bool} {passes : Record → Bool}
    (answers : ∀ record, test record = .ok (passes record)) (records : List Record) :
    anyPasses test records = .ok (records.any passes) := by
  induction records with
  | nil => rfl
  | cons first rest ih =>
      rw [anyPasses, answers, ih, List.any_cons]
      cases passes first <;> rfl

theorem testPooled_eq (inst : Instance) {rule : Rule} (message : Message)
    (total : rule.predicate.Total) (pooled : Record) :
    inst.testPooled rule message pooled =
      .ok (rule.predicate.holds message (inst.bindingsWith pooled)) :=
  total.test_eq message _

theorem guardHolds_eq (inst : Instance) (message : Message) {rule : Rule}
    (total : rule.predicate.Total) :
    inst.guardHolds message rule = .ok (inst.admits message rule) := by
  have pooled : anyPasses (inst.testPooled rule message) inst.pool.newestFirst =
      .ok (inst.pool.records.any fun pooled =>
        rule.predicate.holds message (inst.bindingsWith pooled)) := by
    rw [anyPasses_eq (inst.testPooled_eq message total), Pool.newestFirst, List.any_reverse]
  rw [guardHolds, admits]
  cases rule.reaction.guard with
  | message => exact total.test_eq message inst.bindings
  | undecided => exact total.testPartial_map message inst.bindings
  | anyPooled => exact pooled
  | consumePooled => exact pooled

/-- The choice of a rule is a search for the first one that admits the message. -/
theorem select_eq (inst : Instance) (message : Message) {rules : List Rule}
    (total : ∀ rule ∈ rules, rule.predicate.Total) :
    inst.select message rules = .ok (rules.find? (inst.admits message)) := by
  induction rules with
  | nil => rfl
  | cons first rest ih =>
      rw [select, inst.guardHolds_eq message (total first List.mem_cons_self),
        ih fun rule member => total rule (List.mem_cons_of_mem _ member), List.find?_cons]
      cases inst.admits message first <;> rfl

/-- The pool after the discharge. -/
def poolLeft (inst : Instance) (guard : Guard) (discharged : Record → Bool) : Pool :=
  match guard with
  | .consumePooled => inst.pool.without discharged
  | _ => inst.pool

/-- The pool that a reaction leaves, if the message discharges the records given. -/
def poolAfter (inst : Instance) (reaction : Reaction) (record : Record)
    (discharged : Record → Bool) : Pool :=
  (inst.poolLeft reaction.guard discharged).updated reaction.pool record

theorem ordered_poolLeft {inst : Instance} (ordered : inst.pool.Ordered) (guard : Guard)
    (discharged : Record → Bool) : (inst.poolLeft guard discharged).Ordered := by
  unfold poolLeft
  split
  · exact ordered.without discharged
  · exact ordered

theorem nextArrival_poolLeft (inst : Instance) (guard : Guard) (discharged : Record → Bool) :
    (inst.poolLeft guard discharged).nextArrival = inst.pool.nextArrival := by
  cases guard <;> rfl

theorem nextArrival_poolAfter_le (inst : Instance) (reaction : Reaction) (record : Record)
    (discharged : Record → Bool) :
    (inst.poolAfter reaction record discharged).nextArrival.toNat ≤
      inst.pool.nextArrival.toNat + 1 := by
  rw [← inst.nextArrival_poolLeft reaction.guard discharged]
  exact Pool.nextArrival_updated_le _ reaction.pool record

/-- As long as the numbers do not run out, a reaction leaves the pool in order. -/
theorem ordered_poolAfter {inst : Instance} (ordered : inst.pool.Ordered) (reaction : Reaction)
    (record : Record) (discharged : Record → Bool)
    (numbers : inst.pool.nextArrival.toNat + 1 < UInt64.size) :
    (inst.poolAfter reaction record discharged).Ordered := by
  rw [← inst.nextArrival_poolLeft reaction.guard discharged] at numbers
  exact (ordered_poolLeft ordered reaction.guard discharged).updated reaction.pool record numbers

/-- The records that a reaction adds to the witness. -/
def justification (inst : Instance) (action : WitnessAction) (record : Record) : List Record :=
  match action with
  | .keep | .reset => []
  | .record => [record]
  | .recordPending => inst.pool.oldest?.toList
  | .recordBoth => inst.pool.oldest?.toList ++ [record]

/-- What is remembered after a reaction. -/
def reacted (inst : Instance) (reaction : Reaction) (record : Record)
    (discharged : Record → Bool) : Instance :=
  let pool := inst.poolAfter reaction record discharged
  let next := { inst with pool := pool }.nextState reaction.next
  { inst with
    state := next
    verdict := (reaction.verdict?.map Verdict.ofBool).getD inst.verdict
    pool := pool
    witness := match reaction.witness with
      | .reset => []
      | action => inst.witness ++ inst.justification action record
    episodeStart? := match reaction.scope with
      | .none => inst.episodeStart?
      | .enter => some record.timestamp
      | .exit => none
    lastTransition? := if next = inst.state then inst.lastTransition? else some record.timestamp }

/-- Nothing hinders a reaction: there is room for what it stores, and what it reports is pooled. -/
structure Permits (inst : Instance) (reaction : Reaction) : Prop where
  room : reaction.pool = .push → inst.pool.isFull = false
  space : reaction.pool = .replace → inst.pool.capacity ≠ .zero
  pending : reaction.witness = .recordPending ∨ reaction.witness = .recordBoth →
    inst.pool.records ≠ []

/-- A transition changes the state and the verdict, and notes the time of the change. -/
theorem transition_inst (inst : Instance) (next : State) (verdict? : Option Bool)
    (time : Timestamp) :
    (inst.transition next verdict? time).1 =
      { inst with
        state := next
        verdict := (verdict?.map Verdict.ofBool).getD inst.verdict
        lastTransition? := if next = inst.state then inst.lastTransition? else some time } := by
  unfold transition
  by_cases same : next = inst.state
  · subst same
    rw [if_pos rfl, if_pos rfl]
    cases verdict? <;> rfl
  · rw [if_neg same, if_neg same]
    cases verdict? <;> rfl

theorem exists_oldest {inst : Instance} (pooled : inst.pool.records ≠ []) :
    ∃ oldest, inst.pool.oldest? = some oldest := by
  cases listed : inst.pool.records with
  | nil => exact absurd listed pooled
  | cons oldest rest => exact ⟨oldest, by rw [Pool.oldest?, listed]; rfl⟩

section Apply

variable {inst : Instance} {reaction : Reaction} {record : Record}

theorem additions_eq (permits : inst.Permits reaction) :
    inst.additions reaction.witness record =
      .ok (inst.justification reaction.witness record) := by
  have pending := permits.pending
  cases action : reaction.witness with
  | keep => rfl
  | record => rfl
  | reset => rfl
  | recordPending =>
      obtain ⟨oldest, first⟩ := exists_oldest (pending (.inl action))
      simp only [additions, justification, first, Option.toList_some]
  | recordBoth =>
      obtain ⟨oldest, first⟩ := exists_oldest (pending (.inr action))
      simp only [additions, justification, first, Option.toList_some, List.singleton_append]

theorem discharge_eq (inst : Instance) {rule : Rule} (message : Message)
    (total : rule.predicate.Total) :
    (inst.discharge rule message).result = .ok () ∧
      (inst.discharge rule message).inst =
        { inst with
          pool := inst.poolLeft rule.reaction.guard fun pooled =>
            rule.predicate.holds message (inst.bindingsWith pooled) } := by
  obtain ⟨taken, consumed⟩ := inst.pool.consume_eq (inst.testPooled_eq message total)
  unfold discharge poolLeft
  cases rule.reaction.guard with
  | consumePooled =>
      simp only [consumed]
      exact ⟨rfl, rfl⟩
  | message => exact ⟨rfl, rfl⟩
  | undecided => exact ⟨rfl, rfl⟩
  | anyPooled => exact ⟨rfl, rfl⟩

/-- A record enters a pool that has room for it. -/
theorem store_eq (inst : Instance) (action : PoolAction) (record : Record)
    (room : action = .push → inst.pool.isFull = false)
    (space : action = .replace → inst.pool.capacity ≠ .zero) :
    (inst.store action record).result = .ok () ∧
      (inst.store action record).inst =
        { inst with pool := inst.pool.updated action record } := by
  unfold store
  cases action with
  | keep => exact ⟨rfl, rfl⟩
  | clear => exact ⟨rfl, rfl⟩
  | push =>
      simp only [Pool.push_eq (room rfl)]
      exact ⟨rfl, rfl⟩
  | replace =>
      cases newer : inst.pool.holdsNewerThan record with
      | true =>
          simp only [Pool.replace, Pool.updated, newer]
          exact ⟨rfl, rfl⟩
      | false =>
          simp only [Pool.replace, Pool.updated, newer,
            Pool.push_eq (Pool.isFull_clear (space rfl))]
          exact ⟨rfl, rfl⟩

theorem isFull_poolLeft (guard : Guard) (discharged : Record → Bool)
    (room : inst.pool.isFull = false) : (inst.poolLeft guard discharged).isFull = false := by
  unfold poolLeft
  cases guard with
  | consumePooled =>
      cases limited : inst.pool.capacity.limit? with
      | none => exact Pool.isFull_of_unbounded limited
      | some limit =>
          rw [inst.pool.isFull_of_limit limited] at room
          have below : ¬ limit ≤ inst.pool.size := of_decide_eq_false room
          have shrunk : (inst.pool.without discharged).size ≤ inst.pool.size :=
            List.length_filter_le _ _
          rw [(inst.pool.without discharged).isFull_of_limit limited]
          exact decide_eq_false (by omega)
  | message => exact room
  | undecided => exact room
  | anyPooled => exact room

theorem capacity_poolLeft (inst : Instance) (guard : Guard) (discharged : Record → Bool) :
    (inst.poolLeft guard discharged).capacity = inst.pool.capacity := by
  cases guard <;> rfl

/-- Once the pool is up to date, the last part of a rule completes the reaction. -/
theorem settle_reacted (inst : Instance) (rule : Rule) (record : Record) (topic : String)
    (discharged : Record → Bool) :
    let pool := inst.poolAfter rule.reaction record discharged
    ({ inst with pool := pool }.settle rule topic record.timestamp
      (inst.justification rule.reaction.witness record)).inst =
        inst.reacted rule.reaction record discharged := by
  simp only [settle, Step.done, transition_inst]
  unfold reacted
  cases rule.reaction.witness <;> cases rule.reaction.scope <;> cases rule.reaction.next <;> rfl

/-- A reaction that nothing hinders succeeds. -/
theorem apply_eq {rule : Rule} (topic : String) (message : Message) (time : Timestamp)
    (total : rule.predicate.Total) (permits : inst.Permits rule.reaction) :
    (inst.apply rule topic message time).result = .ok () ∧
      (inst.apply rule topic message time).inst =
        inst.reacted rule.reaction ⟨topic, time, message, rule.alias?⟩ fun pooled =>
          rule.predicate.holds message (inst.bindingsWith pooled) := by
  obtain ⟨discharged, left⟩ := inst.discharge_eq message total
  have stored := store_eq (inst.discharge rule message).inst rule.reaction.pool
    ⟨topic, time, message, rule.alias?⟩
    (fun push => by rw [left]; exact isFull_poolLeft _ _ (permits.room push))
    (fun replace => by rw [left]; exact (capacity_poolLeft inst _ _).trans_ne (permits.space replace))
  rw [apply, additions_eq permits]
  dsimp only
  rw [Step.andThen_result _ discharged, Step.andThen_inst _ discharged,
    Step.andThen_result _ stored.1, Step.andThen_inst _ stored.1, stored.2, left]
  exact ⟨rfl, settle_reacted inst rule ⟨topic, time, message, rule.alias?⟩ topic _⟩

end Apply

end Instance

end TemporalMonitor
