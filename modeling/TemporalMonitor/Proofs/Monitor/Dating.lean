import TemporalMonitor.Proofs.Monitor.Operation

/-!
The points from which a monitor counts time.

These are the start of the episode and the timestamps of the pooled records. Each of them is the time
of the launch or of a message, whatever the machine does and even if a step fails. So what holds for
the times of all calls holds for the points from which time is counted.
-/

namespace TemporalMonitor

variable {times : List Timestamp}

/-- The pooled records carry these timestamps only. -/
def Pool.Dated (times : List Timestamp) (pool : Pool) : Prop :=
  ∀ entry ∈ pool.entries, entry.record.timestamp ∈ times

namespace Pool.Dated

variable {pool : Pool} (dated : pool.Dated times)

include dated

theorem part {entries : List Entry} (part : ∀ entry ∈ entries, entry ∈ pool.entries) :
    { pool with entries := entries }.Dated times :=
  fun entry member => dated entry (part entry member)

theorem push {record : Record} (known : record.timestamp ∈ times) {stored : Pool}
    (pushed : pool.push record = .ok stored) : stored.Dated times := by
  unfold Pool.push at pushed
  split at pushed
  · cases pushed
  · obtain rfl := Except.ok.inj pushed
    intro entry member
    rcases mem_insertEntry member with rfl | old
    · exact known
    · exact dated entry old

theorem clear : pool.clear.Dated times :=
  dated.part fun _ member => absurd member List.not_mem_nil

theorem replace {record : Record} (known : record.timestamp ∈ times) :
    (pool.replace record).2.Dated times := by
  unfold Pool.replace
  split
  · exact dated
  · split
    · next stored pushed => exact dated.clear.push known pushed
    · exact dated.clear

theorem consume {test : Record → Except Crash Bool} {taken : List Record} {left : Pool}
    (consumed : pool.consume test = .ok (taken, left)) : left.Dated times := by
  -- What was tested are the entries, so what is left of the results is left of the entries.
  have same {entries : List Entry} {results : List (Entry × Bool)}
      (answered : tested test entries = .ok results) : results.map Prod.fst = entries := by
    induction entries generalizing results with
    | nil =>
        obtain rfl := Except.ok.inj answered
        rfl
    | cons first rest ih =>
        simp only [tested, bind, Except.bind] at answered
        split at answered
        · cases answered
        · split at answered
          · cases answered
          · next others found =>
              obtain rfl := Except.ok.inj answered
              rw [List.map_cons, ih found]
  simp only [Pool.consume, bind, Except.bind] at consumed
  split at consumed
  · cases consumed
  · next results answered =>
      obtain ⟨_, rfl⟩ := Prod.mk.inj (Except.ok.inj consumed)
      refine dated.part fun entry member => ?_
      obtain ⟨result, kept, rfl⟩ := List.mem_map.mp (List.mem_reverse.mp member)
      have listed := List.mem_map_of_mem (f := Prod.fst) (List.mem_filter.mp kept).1
      rw [same answered] at listed
      exact List.mem_reverse.mp listed

end Pool.Dated

/-- Time is counted from these points only. -/
structure Instance.Dated (times : List Timestamp) (inst : Instance) : Prop where
  start : ∀ start, inst.episodeStart? = some start → start ∈ times
  pool : inst.pool.Dated times

theorem Step.andThen_dated {α β : Type} {first : Step α} {next : α → Instance → Step β}
    (dated : first.inst.Dated times)
    (onward : ∀ value inst, Instance.Dated times inst → (next value inst).inst.Dated times) :
    (first.andThen next).inst.Dated times := by
  unfold andThen
  split
  · exact onward _ _ dated
  · exact dated

namespace Instance

variable {inst : Instance} (dated : inst.Dated times) {time : Timestamp}

include dated

theorem discharge_dated (rule : Rule) (message : Message) :
    (inst.discharge rule message).inst.Dated times := by
  unfold discharge
  split
  · split
    · next consumed => exact ⟨dated.start, dated.pool.consume consumed⟩
    · exact dated
  · exact dated

theorem store_dated (action : PoolAction) {record : Record} (known : record.timestamp ∈ times) :
    (inst.store action record).inst.Dated times := by
  have replaced := dated.pool.replace known
  unfold store
  split
  · exact dated
  · split
    · next pushed => exact ⟨dated.start, dated.pool.push known pushed⟩
    · exact dated
  · split
    · next same => exact ⟨dated.start, by rw [same] at replaced; exact replaced⟩
    · next same => exact ⟨dated.start, by rw [same] at replaced; exact replaced⟩
    · next same => exact ⟨dated.start, by rw [same] at replaced; exact replaced⟩
  · exact ⟨dated.start, dated.pool.clear⟩

theorem justify_dated (action : WitnessAction) (added : List Record) :
    (inst.justify action added).Dated times := by
  cases action <;> exact ⟨dated.start, dated.pool⟩

theorem rescope_dated (known : time ∈ times) (action : ScopeAction) :
    (inst.rescope action time).Dated times := by
  cases action with
  | none => exact dated
  | enter =>
      refine ⟨fun start started => ?_, dated.pool⟩
      obtain rfl := Option.some.inj started
      exact known
  | exit =>
      refine ⟨fun start started => ?_, dated.pool⟩
      cases started

theorem settle_dated (known : time ∈ times) (rule : Rule) (topic : String) (added : List Record) :
    (inst.settle rule topic time added).inst.Dated times := by
  have rescoped := rescope_dated (justify_dated dated rule.reaction.witness added) known
    rule.reaction.scope
  simp only [settle, Step.done, transition_inst]
  exact ⟨rescoped.start, rescoped.pool⟩

theorem apply_dated (known : time ∈ times) (rule : Rule) (topic : String) (message : Message) :
    (inst.apply rule topic message time).inst.Dated times := by
  unfold apply
  dsimp only
  split
  · exact dated
  · refine Step.andThen_dated (discharge_dated dated rule message) fun _ inst dated => ?_
    refine Step.andThen_dated (store_dated dated _ known) fun _ inst dated => ?_
    exact settle_dated dated known rule topic _

end Instance

namespace Machine

variable {machine : Machine} {inst : Instance} {time : Timestamp}

theorem launched_dated (known : time ∈ times) : (machine.launched time).Dated times where
  start := by
    intro start started
    change (if machine.entersOnLaunch then some time else none) = some start at started
    split at started
    · obtain rfl := Option.some.inj started
      exact known
    · cases started
  pool := fun _ member => absurd member List.not_mem_nil

variable (dated : inst.Dated times)

include dated

theorem checkDeadline_dated (now : Timestamp) :
    (machine.checkDeadline inst now).inst.Dated times := by
  have start := machine.checkDeadline_episodeStart inst now
  obtain ⟨entries, part, pool⟩ := machine.checkDeadline_pool inst now
  refine ⟨fun since started => dated.start since (start.symm.trans started), ?_⟩
  rw [pool]
  exact dated.pool.part fun entry member => part.subset member

theorem onTimer_dated (now : Timestamp) : (machine.onTimer inst now).inst.Dated times := by
  by_cases isOff : inst.state = .off
  · rw [onTimer_of_off isOff]
    exact dated
  · obtain ⟨latest?, observed⟩ := observe_inst inst now
    have still : (inst.observe now).1.Dated times := by
      rw [observed]
      exact ⟨dated.start, dated.pool⟩
    rw [(onTimer_eq isOff now).2]
    exact checkDeadline_dated still now

theorem onMessage_dated (known : time ∈ times) (topic : String) (message : Message) :
    (machine.onMessage inst topic message time).inst.Dated times := by
  have offered (inst : Instance) (dated : inst.Dated times) :
      (machine.offer inst topic message time).inst.Dated times := by
    unfold offer
    split
    · exact dated
    · split
      · exact dated
      · exact dated
      · exact Step.andThen_dated (Instance.apply_dated dated known _ topic message)
          fun _ _ dated => dated
  unfold onMessage
  split
  · exact dated
  · exact Step.andThen_dated (onTimer_dated dated time) fun _ inst dated => offered inst dated

end Machine

end TemporalMonitor
