import TemporalMonitor.Monitor.Pool
import TemporalMonitor.Proofs.Time.Elapse
import TemporalMonitor.Proofs.Trace.Episode

/-!
Triggers that stand.

Each later call either keeps a trigger standing or ends it, depending on the record of the trigger.
The records of a pool cover the standing triggers: all of them stand, and each standing trigger has a
record in the pool that does in its place.
-/

namespace TemporalMonitor

section Standing

variable (scope : Scope) (trigger : Event) (bindings : Bindings)

/-- The call is a trigger that does not close the episode, and this is its record. -/
def Call.Triggers (call : Call) (record : Record) : Prop :=
  trigger.occurs bindings call = true ∧ scope.closes bindings call = false ∧
    call.record? trigger.alias? = some record

/-- One of the calls is a trigger with this record, and these are the calls after it. -/
def Triggered (calls : List Call) (record : Record) (rest : List Call) : Prop :=
  ∃ before call, calls = before ++ call :: rest ∧ call.Triggers scope trigger bindings record

/-- One of the calls is a trigger with this record, and all calls after it keep it. -/
def Standing (keeps : Record → Call → Bool) (calls : List Call) (record : Record) : Prop :=
  ∃ rest, Triggered scope trigger bindings calls record rest ∧
    ∀ call ∈ rest, keeps record call = true

variable {scope trigger bindings} {keeps : Record → Call → Bool} {calls rest : List Call}
  {call : Call} {record : Record}

theorem Call.Triggers.alias_eq (triggers : call.Triggers scope trigger bindings record) :
    record.alias? = trigger.alias? :=
  Call.alias_of_record triggers.2.2

theorem Call.Triggers.time_eq (triggers : call.Triggers scope trigger bindings record) :
    record.timestamp = call.time :=
  Call.time_of_record triggers.2.2

/-- A call has one record. -/
theorem Call.Triggers.iff_eq (triggers : call.Triggers scope trigger bindings record)
    (other : Record) : call.Triggers scope trigger bindings other ↔ other = record := by
  constructor
  · intro same
    have recorded := same.2.2
    rw [triggers.2.2] at recorded
    exact (Option.some.inj recorded).symm
  · rintro rfl
    exact triggers

theorem triggered_append :
    Triggered scope trigger bindings (calls ++ [call]) record rest ↔
      (rest = [] ∧ call.Triggers scope trigger bindings record) ∨
        ∃ earlier, rest = earlier ++ [call] ∧
          Triggered scope trigger bindings calls record earlier := by
  constructor
  · rintro ⟨before, source, split, triggers⟩
    rcases calls_split.mp split with ⟨nothing, _, rfl⟩ | ⟨earlier, later, same⟩
    · exact .inl ⟨nothing, triggers⟩
    · exact .inr ⟨earlier, later, before, source, same, triggers⟩
  · rintro (⟨rfl, triggers⟩ | ⟨earlier, rfl, before, source, same, triggers⟩)
    · exact ⟨calls, call, rfl, triggers⟩
    · exact ⟨before, source, calls_split.mpr (.inr ⟨earlier, rfl, same⟩), triggers⟩

theorem Call.Triggers.triggered (triggers : call.Triggers scope trigger bindings record)
    (calls : List Call) : Triggered scope trigger bindings (calls ++ [call]) record [] :=
  triggered_append.mpr (.inl ⟨rfl, triggers⟩)

theorem Triggered.extend (triggered : Triggered scope trigger bindings calls record rest)
    (call : Call) : Triggered scope trigger bindings (calls ++ [call]) record (rest ++ [call]) :=
  triggered_append.mpr (.inr ⟨rest, rfl, triggered⟩)

/-- After one more call a trigger stands if it stood and was kept, or if the call is the trigger. -/
theorem standing_append :
    Standing scope trigger bindings keeps (calls ++ [call]) record ↔
      (Standing scope trigger bindings keeps calls record ∧ keeps record call = true) ∨
        call.Triggers scope trigger bindings record := by
  constructor
  · rintro ⟨rest, triggered, kept⟩
    rcases triggered_append.mp triggered with ⟨_, triggers⟩ | ⟨earlier, rfl, before⟩
    · exact .inr triggers
    · refine .inl ⟨⟨earlier, before, fun later member => ?_⟩, kept call (by simp)⟩
      exact kept later (List.mem_append_left _ member)
  · rintro (⟨⟨earlier, triggered, kept⟩, last⟩ | triggers)
    · refine ⟨earlier ++ [call], triggered.extend call, fun later member => ?_⟩
      rcases List.mem_append.mp member with old | new
      · exact kept later old
      · obtain rfl := List.mem_singleton.mp new
        exact last
    · exact ⟨[], triggers.triggered calls, fun _ member => absurd member List.not_mem_nil⟩

/-- After a call that is no trigger, the triggers stand that stood and are kept. -/
theorem standing_append_of_other (other : trigger.occurs bindings call = false) :
    Standing scope trigger bindings keeps (calls ++ [call]) record ↔
      Standing scope trigger bindings keeps calls record ∧ keeps record call = true := by
  rw [standing_append]
  refine ⟨fun stands => stands.resolve_right fun triggers => ?_, .inl⟩
  have occurs := triggers.1
  rw [other] at occurs
  cases occurs

/-- After a trigger it stands as well. -/
theorem standing_append_of_triggers {added : Record}
    (triggers : call.Triggers scope trigger bindings added) :
    Standing scope trigger bindings keeps (calls ++ [call]) record ↔
      (Standing scope trigger bindings keeps calls record ∧ keeps record call = true) ∨
        record = added := by
  rw [standing_append, triggers.iff_eq]

theorem not_standing_nil : ¬ Standing scope trigger bindings keeps [] record := by
  rintro ⟨_, ⟨before, source, split, _⟩, _⟩
  simp at split

/-- A standing trigger is one of the calls. -/
theorem Standing.mem (standing : Standing scope trigger bindings keeps calls record) :
    ∃ source ∈ calls, source.Triggers scope trigger bindings record := by
  obtain ⟨rest, ⟨before, source, same, triggers⟩, _⟩ := standing
  exact ⟨source, by rw [same]; simp, triggers⟩

theorem Standing.time_mem (standing : Standing scope trigger bindings keeps calls record) :
    record.timestamp ∈ calls.map Call.time := by
  obtain ⟨source, member, triggers⟩ := standing.mem
  rw [triggers.time_eq]
  exact List.mem_map_of_mem member

theorem Standing.alias_eq (standing : Standing scope trigger bindings keeps calls record) :
    record.alias? = trigger.alias? := by
  obtain ⟨_, _, triggers⟩ := standing.mem
  exact triggers.alias_eq

end Standing

/-- No record that stands is older than this one, which stands as well. -/
def Oldest (stands : Record → Prop) (record : Record) : Prop :=
  stands record ∧ ∀ other, stands other → record.timestamp ≤ other.timestamp

/-- Among records with few timestamps there is an oldest one. -/
theorem exists_oldest {stands : Record → Prop} {times : List Timestamp}
    (dated : ∀ record, stands record → record.timestamp ∈ times) {record : Record}
    (standing : stands record) : ∃ oldest, Oldest stands oldest := by
  induction times generalizing record stands with
  | nil => exact absurd (dated record standing) List.not_mem_nil
  | cons time rest ih =>
      by_cases later : ∃ other, stands other ∧ other.timestamp < time
      · -- The older ones have fewer timestamps.
        obtain ⟨other, stands_other, less⟩ := later
        have fewer (older : Record) (both : stands older ∧ older.timestamp < time) :
            older.timestamp ∈ rest :=
          (List.mem_cons.mp (dated older both.1)).resolve_left fun same =>
            Std.lt_irrefl (same ▸ both.2)
        obtain ⟨oldest, ⟨stands_oldest, before⟩, least⟩ := ih fewer ⟨stands_other, less⟩
        refine ⟨oldest, stands_oldest, fun next stands_next => ?_⟩
        by_cases early : next.timestamp < time
        · exact least next ⟨stands_next, early⟩
        · exact Std.le_trans (Std.le_of_lt before) (Std.not_lt.mp early)
      · by_cases here : ∃ other, stands other ∧ other.timestamp = time
        · obtain ⟨other, stands_other, same⟩ := here
          refine ⟨other, stands_other, fun next stands_next => ?_⟩
          rw [same]
          exact Std.not_lt.mp fun less => later ⟨next, stands_next, less⟩
        · exact ih (fun next stands_next => (List.mem_cons.mp (dated next stands_next)).resolve_left
            fun same => here ⟨next, stands_next, same⟩) standing

/-- One record does for another: only for itself if records are read, and else as the order says. -/
def Covers (isCorrelated : Bool) (order : Timestamp → Timestamp → Prop) (pooled record : Record) :
    Prop :=
  if isCorrelated then pooled = record else order pooled.timestamp record.timestamp

section Covers

variable {isCorrelated : Bool} {order : Timestamp → Timestamp → Prop} {pooled record : Record}

theorem covers_self (reflexive : ∀ time, order time time) (record : Record) :
    Covers isCorrelated order record record := by
  unfold Covers
  split
  · rfl
  · exact reflexive record.timestamp

theorem Covers.ordered (covers : Covers isCorrelated order pooled record)
    (reflexive : ∀ time, order time time) : order pooled.timestamp record.timestamp := by
  unfold Covers at covers
  split at covers
  · rw [covers]
    exact reflexive record.timestamp
  · exact covers

theorem Covers.eq_of_correlated (covers : Covers isCorrelated order pooled record)
    (correlated : isCorrelated = true) : pooled = record := by
  rwa [Covers, if_pos correlated] at covers

end Covers

/-- All of the records stand, and each one that stands is covered by one of them. -/
structure Covered (covers : Record → Record → Prop) (stands : Record → Prop)
    (records : List Record) : Prop where
  stand : ∀ record ∈ records, stands record
  cover : ∀ record, stands record → ∃ pooled ∈ records, covers pooled record

namespace Covered

variable {covers : Record → Record → Prop} {stands : Record → Prop} {records others : List Record}

theorem congr {same : Record → Prop} (covered : Covered covers stands records)
    (iff : ∀ record, stands record ↔ same record) : Covered covers same records where
  stand := fun record member => (iff record).mp (covered.stand record member)
  cover := fun record stands => covered.cover record ((iff record).mpr stands)

theorem empty (none_stands : ∀ record, ¬ stands record) : Covered covers stands [] where
  stand := fun _ member => absurd member List.not_mem_nil
  cover := fun record stands => absurd stands (none_stands record)

/-- Something stands exactly if a record is pooled. -/
theorem exists_iff (covered : Covered covers stands records) :
    (∃ record, stands record) ↔ records ≠ [] := by
  constructor
  · rintro ⟨record, stands⟩ vacant
    obtain ⟨pooled, member, _⟩ := covered.cover record stands
    rw [vacant] at member
    exact absurd member List.not_mem_nil
  · intro pooled
    obtain ⟨record, member⟩ := List.exists_mem_of_ne_nil records pooled
    exact ⟨record, covered.stand record member⟩

/-- Records that end do not cover others that are kept, so the others still cover these. -/
theorem filter (covered : Covered covers stands records) {keeps : Record → Bool}
    (kept : ∀ record, record ∈ others ↔ record ∈ records ∧ keeps record = true)
    (longer : ∀ pooled record, stands pooled → stands record → covers pooled record →
      keeps record = true → keeps pooled = true) :
    Covered covers (fun record => stands record ∧ keeps record = true) others where
  stand := fun record member =>
    ⟨covered.stand record ((kept record).mp member).1, ((kept record).mp member).2⟩
  cover := by
    rintro record ⟨stands, keep⟩
    obtain ⟨pooled, member, covering⟩ := covered.cover record stands
    have still := longer pooled record (covered.stand pooled member) stands covering keep
    exact ⟨pooled, (kept pooled).mpr ⟨member, still⟩, covering⟩

/-- A new record is added to the pool. -/
theorem add (covered : Covered covers stands records) {added : Record}
    (more : ∀ record, record ∈ others ↔ record = added ∨ record ∈ records)
    (itself : covers added added) :
    Covered covers (fun record => stands record ∨ record = added) others where
  stand := fun record member => by
    rcases (more record).mp member with rfl | old
    · exact .inr rfl
    · exact .inl (covered.stand record old)
  cover := by
    rintro record (stands | rfl)
    · obtain ⟨pooled, member, covering⟩ := covered.cover record stands
      exact ⟨pooled, (more pooled).mpr (.inr member), covering⟩
    · exact ⟨record, (more record).mpr (.inl rfl), itself⟩

/-- A new record that is covered already need not be pooled. -/
theorem ignore (covered : Covered covers stands records) {added : Record}
    (already : ∃ pooled ∈ records, covers pooled added) :
    Covered covers (fun record => stands record ∨ record = added) records where
  stand := fun record member => .inl (covered.stand record member)
  cover := by
    rintro record (stands | rfl)
    · exact covered.cover record stands
    · exact already

end Covered

end TemporalMonitor
