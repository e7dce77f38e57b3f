import Mathlib.Data.List.Perm.Basic
import TemporalMonitor.Proofs.Monitor.Account

/-!
The order in which pooled records have arrived.

A pool lists its records by their timestamps. Its numbers of arrival tell in which order they came, as
long as the numbers do not run out. So the record in front is, of those with the smallest timestamp,
the one that came first.
-/

namespace TemporalMonitor

/-- Of the records in their order of arrival, the first one with the smallest timestamp. -/
def Earliest (arrived : List Record) (record : Record) : Prop :=
  ∃ before after, arrived = before ++ record :: after ∧
    (∀ other ∈ before, record.timestamp < other.timestamp) ∧
    ∀ other ∈ after, record.timestamp ≤ other.timestamp

/-- A part of the records is recounted as well. -/
theorem Recounts.sublist {matched : Call → Record → Prop} {calls : List Call}
    {records fewer : List Record} (recounts : Recounts matched calls records)
    (part : fewer.Sublist records) : Recounts matched calls fewer := by
  obtain ⟨chosen, among, each⟩ := recounts
  have found : ∃ kept, kept.Sublist chosen ∧ List.Forall₂ matched kept fewer := by
    clear among
    induction part generalizing chosen with
    | slnil => exact ⟨[], List.nil_sublist _, .nil⟩
    | cons record _ ih =>
        cases each with
        | @cons call _ rest _ _ others =>
            obtain ⟨kept, inside, fits⟩ := ih rest others
            exact ⟨kept, inside.cons call, fits⟩
    | cons_cons record _ ih =>
        cases each with
        | @cons call _ rest _ first others =>
            obtain ⟨kept, inside, fits⟩ := ih rest others
            exact ⟨call :: kept, inside.cons_cons call, .cons first fits⟩
  obtain ⟨kept, inside, fits⟩ := found
  exact ⟨kept, inside.trans among, fits⟩

/-- The entries of the pool in the order of their arrival, and the calls that they come from. -/
structure Gathered (property : Property) (bindings : Bindings) (calls : List Call) (pool : Pool)
    (arrived : List Pool.Entry) : Prop where
  all : arrived.Perm pool.entries
  numbered : arrived.Pairwise fun first second => first.arrival < second.arrival
  recounts : Recounts (property.Matched bindings .trigger) calls (arrived.map Pool.Entry.record)

namespace Gathered

variable {property : Property} {bindings : Bindings} {calls : List Call} {pool : Pool}
  {arrived : List Pool.Entry}

theorem of_vacant (property : Property) (bindings : Bindings) (calls : List Call)
    (vacant : pool.entries = []) : Gathered property bindings calls pool [] where
  all := by rw [vacant]
  numbered := .nil
  recounts := .nil _ _

theorem extend (gathered : Gathered property bindings calls pool arrived) (call : Call) :
    Gathered property bindings (calls ++ [call]) pool arrived :=
  { gathered with recounts := gathered.recounts.extend call }

/-- Entries may leave the pool. -/
theorem sublist (gathered : Gathered property bindings calls pool arrived)
    {entries : List Pool.Entry} (part : entries.Sublist pool.entries) :
    ∃ left, Gathered property bindings calls { pool with entries := entries } left := by
  obtain ⟨left, same, among⟩ := part.subperm.trans gathered.all.symm.subperm
  exact ⟨left, same, gathered.numbered.sublist among,
    gathered.recounts.sublist (among.map Pool.Entry.record)⟩

/-- A record of the present call arrives last. -/
theorem stored (gathered : Gathered property bindings calls pool arrived) (ordered : pool.Ordered)
    {call : Call} {record : Record} (matched : property.Matched bindings .trigger call record) :
    Gathered property bindings (calls ++ [call]) (pool.stored record)
      (arrived ++ [⟨pool.nextArrival, record⟩]) where
  all := by
    have last := List.perm_append_singleton ⟨pool.nextArrival, record⟩ arrived
    have inserted : (pool.stored record).entries.Perm _ := Pool.insertEntry_perm ordered.fresh
    exact (last.trans (gathered.all.cons _)).trans inserted.symm
  numbered := by
    refine List.pairwise_append.mpr ⟨gathered.numbered, List.pairwise_singleton _ _, ?_⟩
    intro entry member last here
    obtain rfl := List.mem_singleton.mp here
    exact ordered.numbered entry (gathered.all.mem_iff.mp member)
  recounts := by
    rw [List.map_append]
    exact gathered.recounts.append matched

/-- What a reaction leaves in the pool, if it stores nothing but triggers. -/
theorem poolAfter {inst : Instance} (gathered : Gathered property bindings calls inst.pool arrived)
    (ordered : inst.pool.Ordered) {reaction : Reaction} {call : Call} {record : Record}
    (stores : reaction.pool = .push ∨ reaction.pool = .replace →
      property.Matched bindings .trigger call record) (discharged : Record → Bool) :
    ∃ left, Gathered property bindings (calls ++ [call])
      (inst.poolAfter reaction record discharged) left := by
  have kept : ∃ left,
      Gathered property bindings calls (inst.poolLeft reaction.guard discharged) left := by
    unfold Instance.poolLeft
    split
    · exact gathered.sublist List.filter_sublist
    · exact ⟨arrived, gathered⟩
  have ordered := Instance.ordered_poolLeft ordered reaction.guard discharged
  obtain ⟨left, gathered⟩ := kept
  unfold Instance.poolAfter Pool.updated
  cases action : reaction.pool with
  | keep => exact ⟨left, gathered.extend call⟩
  | push => exact ⟨_, gathered.stored ordered (stores (.inl action))⟩
  | clear => exact ⟨[], of_vacant property bindings _ rfl⟩
  | replace =>
      dsimp only
      split
      · exact ⟨left, gathered.extend call⟩
      · have cleared : Gathered property bindings calls
            (inst.poolLeft reaction.guard discharged).clear [] := of_vacant property bindings _ rfl
        exact ⟨_, cleared.stored .clear (stores (.inr action))⟩

/-- The record in front of the pool is the earliest one. -/
theorem earliest (gathered : Gathered property bindings calls pool arrived) (ordered : pool.Ordered)
    {oldest : Record} (first : pool.oldest? = some oldest) :
    Earliest (arrived.map Pool.Entry.record) oldest := by
  obtain ⟨head, rest, listed, rfl⟩ : ∃ head rest, pool.entries = head :: rest ∧
      head.record = oldest := by
    rw [Pool.oldest?, Pool.records] at first
    cases listed : pool.entries with
    | nil => simp [listed] at first
    | cons head rest => exact ⟨head, rest, rfl, by simpa [listed] using first⟩
  have present : head ∈ arrived := by
    rw [gathered.all.mem_iff, listed]
    exact List.mem_cons_self
  obtain ⟨before, after, split⟩ := List.append_of_mem present
  have numbered := gathered.numbered
  rw [split] at numbered
  obtain ⟨_, behind, across⟩ := List.pairwise_append.mp numbered
  -- All other entries stand behind the head, so their timestamps are no smaller.
  have least (entry : Pool.Entry) (member : entry ∈ arrived)
      (other : entry.arrival ≠ head.arrival) : head.before entry = true := by
    have pooled := gathered.all.mem_iff.mp member
    have ascending := ordered.ascending
    rw [listed] at pooled ascending
    rcases List.mem_cons.mp pooled with rfl | later
    · exact absurd rfl other
    · exact (List.pairwise_cons.mp ascending).1 entry later
  refine ⟨before.map Pool.Entry.record, after.map Pool.Entry.record, ?_, ?_, ?_⟩
  · rw [split, List.map_append, List.map_cons]
  · intro other member
    obtain ⟨entry, here, rfl⟩ := List.mem_map.mp member
    have sooner : entry.arrival < head.arrival := across entry here head List.mem_cons_self
    have ahead := least entry (by rw [split]; exact List.mem_append_left _ here)
      (UInt64.ne_of_lt sooner)
    rcases Pool.Entry.before_iff.mp ahead with less | ⟨_, later⟩
    · exact less
    · exact absurd sooner (UInt64.lt_asymm later)
  · intro other member
    obtain ⟨entry, here, rfl⟩ := List.mem_map.mp member
    have later : head.arrival < entry.arrival := (List.pairwise_cons.mp behind).1 entry here
    have ahead := least entry
      (by rw [split]; exact List.mem_append_right _ (List.mem_cons_of_mem _ here))
      (UInt64.ne_of_lt later).symm
    exact Pool.Entry.timestamp_le ahead

end Gathered

/-- A duty inside an episode works on the pool only, or else it decides the episode. -/
theorem Duty.pools_or_decides {property : Property} {role : Role} {state : State}
    {reaction : Reaction} (duty : Duty property role state reaction) (isOpen : state ≠ .inactive) :
    (∃ guard action next, reaction = .pooling guard action next ∧
      (state = .engaged ∨ state = .idle ∨ state = .pending) ∧
      (action = .push ∨ action = .replace → role = .trigger ∧ guard = .message)) ∨
    ∃ next, reaction.next = .goto next ∧
      ¬ (next = .engaged ∨ next = .idle ∨ next = .pending) := by
  have settled (verdict : Bool) : ¬ (State.ofVerdict verdict = .engaged ∨
      State.ofVerdict verdict = .idle ∨ State.ofVerdict verdict = .pending) := by
    cases verdict <;> decide
  cases duty with
  | opens => exact absurd rfl isOpen
  | leaves => exact .inr ⟨.inactive, rfl, by decide⟩
  | closes => exact .inr ⟨_, rfl, settled _⟩
  | closesOwed => exact .inr ⟨_, rfl, settled _⟩
  | decides => exact .inr ⟨_, rfl, settled _⟩
  | secures => exact .inr ⟨.safe, rfl, by decide⟩
  | stores => exact .inl ⟨_, _, _, rfl, by decide, fun _ => ⟨rfl, rfl⟩⟩
  | allows => exact .inl ⟨_, _, _, rfl, by decide, by decide⟩
  | owes => exact .inl ⟨_, _, _, rfl, by decide, fun _ => ⟨rfl, rfl⟩⟩
  | owesMore => exact .inl ⟨_, _, _, rfl, by decide, fun _ => ⟨rfl, rfl⟩⟩
  | answers => exact .inl ⟨_, _, _, rfl, by decide, by decide⟩

/-- The pool is in order, and in an open episode it holds triggers of the episode. -/
structure Collected (property : Property) (count : Nat) (chronicle : Chronicle) (inst : Instance) :
    Prop where
  numbers : inst.pool.nextArrival.toNat ≤ count
  ordered : inst.pool.Ordered
  gathered : inst.state = .engaged ∨ inst.state = .idle ∨ inst.state = .pending →
    ∃ arrived, Gathered property inst.bindings chronicle.calls inst.pool arrived

namespace Collected

variable {property : Property} {count : Nat} {chronicle : Chronicle} {inst : Instance}

theorem of_vacant (property : Property) (chronicle : Chronicle)
    (numbers : inst.pool.nextArrival.toNat ≤ count) (vacant : inst.pool.entries = []) :
    Collected property count chronicle inst where
  numbers := numbers
  ordered := .of_vacant vacant
  gathered := fun _ => ⟨[], .of_vacant _ _ _ vacant⟩

/-- An operation may take up no number. -/
theorem later (collected : Collected property count chronicle inst) :
    Collected property (count + 1) chronicle inst :=
  { collected with numbers := Nat.le_succ_of_le collected.numbers }

/-- Time may pass. -/
theorem lapse (collected : Collected property count chronicle inst) (now : Timestamp) :
    Collected property count chronicle (property.lapse inst now) := by
  unfold Property.lapse
  split
  · have pool := property.overdue_pool inst now
    refine ⟨by rw [pool]; exact collected.numbers, by rw [pool]; exact collected.ordered, ?_⟩
    intro isOpen
    rcases property.overdue_state inst now with state | state | state <;>
    · rw [state] at isOpen
      exact absurd isOpen (by decide)
  · rcases property.refreshed_cases inst now with same | ⟨_, _, span, _, _, evicted⟩
    · rw [same]
      exact collected
    · rw [evicted]
      have part : (inst.pool.evict now span).entries.Sublist inst.pool.entries :=
        List.dropWhile_sublist _
      refine ⟨collected.numbers, collected.ordered.sublist part, fun isOpen => ?_⟩
      obtain ⟨arrived, gathered⟩ := collected.gathered isOpen
      exact gathered.sublist part

/-- In an open episode, a duty may store a trigger. -/
theorem reacted (collected : Collected property count chronicle inst)
    (few : count + 1 < UInt64.size) {role : Role} {reaction : Reaction} {event : Event}
    {call : Call} {record : Record} (duty : Duty property role inst.state reaction)
    (isOpen : inst.state ≠ .inactive) (given : property.event? role = some event)
    (detected : inst.detects event reaction.guard call = true)
    (recorded : call.record? event.alias? = some record) (discharged : Record → Bool) :
    Collected property (count + 1) { chronicle with calls := chronicle.calls ++ [call] }
      (inst.reacted reaction record discharged) where
  numbers := Nat.le_trans (inst.nextArrival_poolAfter_le _ _ _) (Nat.succ_le_succ collected.numbers)
  ordered := Instance.ordered_poolAfter collected.ordered _ _ _
    (Nat.lt_of_le_of_lt (Nat.succ_le_succ collected.numbers) few)
  gathered := by
    intro stillOpen
    rcases duty.pools_or_decides isOpen with
      ⟨guard, action, next, rfl, undecided, stores⟩ | ⟨next, goes, elsewhere⟩
    · obtain ⟨arrived, gathered⟩ := collected.gathered undecided
      rw [Instance.bindings_pooling]
      refine gathered.poolAfter collected.ordered (fun storing => ?_) discharged
      obtain ⟨rfl, rfl⟩ := stores storing
      exact .of_detected given detected recorded
    · have there : (inst.reacted reaction record discharged).state = next := by
        simp only [Instance.reacted, goes, Instance.nextState]
      rw [there] at stillOpen
      exact absurd stillOpen elsewhere

/-- Whatever a call makes of the monitor, its pool stays in order. -/
theorem takes (collected : Collected property count chronicle inst)
    (few : count + 1 < UInt64.size) (account : Account property chronicle inst) {call : Call}
    {next before : Instance} (takes : property.Takes inst call next)
    (same : before.episodeStart? = inst.episodeStart?) :
    Collected property (count + 1) (chronicle.extend call before next) next := by
  cases takes with
  | nothing =>
      refine { collected.later with gathered := fun isOpen => ?_ }
      obtain ⟨opening, underway⟩ := account.underway_of_state isOpen
      rw [chronicle.extend_of_open call (by rw [same]; exact underway.started)]
      obtain ⟨arrived, gathered⟩ := collected.gathered isOpen
      exact ⟨arrived, gathered.extend call⟩
  | duty duty given detected unclosed recorded reported =>
      by_cases waiting : inst.state = .inactive
      · obtain ⟨_, _, _, vacant⟩ := account.of_waiting waiting
        rw [waiting] at duty
        obtain ⟨rfl, rfl⟩ := duty.activates
        exact .of_vacant _ _ collected.later.numbers (List.map_eq_nil_iff.mp vacant)
      · have started := account.started duty.live.1 duty.live.2 waiting
        rw [chronicle.extend_of_open call (by rw [same]; exact started)]
        exact collected.reacted few duty waiting given detected recorded _

/-- As long as there are numbers for all of them, arrivals are in order after any operations. -/
theorem of_reached {core : Core}
    (made : property.pattern.core property.scope.kind.isReentrant = .ok core)
    (reached : (property.assemble core).Reached count inst chronicle)
    (few : count < UInt64.size) : Collected property count chronicle inst := by
  induction reached with
  | fresh => exact .of_vacant _ _ (Nat.le_refl 0) rfl
  | launch _ _ time => exact .of_vacant _ _ (Nat.zero_le _) rfl
  | reset => exact .of_vacant _ _ (Nat.zero_le _) rfl
  | shutdown _ _ time ih =>
      exact { (ih (by omega)).later with gathered := by simp }
  | ignored _ ih => exact (ih (by omega)).later
  | @call count inst chronicle reached running call survives ih =>
      have account := Account.of_reached made reached
      have collected := ih (by omega)
      obtain ⟨latest?, takes⟩ := Property.next_takes made running survives
      have seen : Collected property count chronicle { inst with latestSeen? := latest? } :=
        { collected with }
      refine (seen.lapse call.time).takes few ((account.observed latest?).lapse call.time) takes ?_
      rw [property.lapse_episodeStart]

end Collected

end TemporalMonitor
