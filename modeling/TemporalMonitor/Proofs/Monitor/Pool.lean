import Mathlib.Data.List.Pairwise
import TemporalMonitor.Monitor.Pool
import TemporalMonitor.Proofs.Time.Elapse

/-!
Pools as ordered collections of records.

As long as arrivals have distinct numbers, no record is lost on its way into a pool: a new one is filed
behind all those that are not later, so the first record is the oldest one.
-/

namespace TemporalMonitor

/-- If an item passes only if all in front of it do, then what follows the first that fails is what
fails. -/
theorem dropWhile_eq_filter {α : Type} {test : α → Bool} {items : List α}
    (inOrder : items.Pairwise fun first second => test second = true → test first = true) :
    items.dropWhile test = items.filter fun item => !test item := by
  induction items with
  | nil => rfl
  | cons first rest ih =>
      obtain ⟨front, tail⟩ := List.pairwise_cons.mp inOrder
      cases passes : test first with
      | true => rw [List.dropWhile_cons_of_pos passes, ih tail, List.filter_cons]; simp [passes]
      | false =>
          have others : ∀ item ∈ rest, (!test item) = true := by
            intro item member
            rw [Bool.not_eq_true', Bool.eq_false_iff]
            intro passing
            rw [front item member passing] at passes
            cases passes
          rw [List.dropWhile_cons_of_neg (by simp [passes]), List.filter_cons,
            List.filter_eq_self.mpr others]
          simp [passes]

/-- Puts a record behind all those that are not later. -/
def Record.filed (record : Record) : List Record → List Record
  | [] => [record]
  | first :: rest =>
      if record.timestamp < first.timestamp then record :: first :: rest
      else first :: record.filed rest

theorem Record.mem_filed {record other : Record} {records : List Record} :
    other ∈ record.filed records ↔ other = record ∨ other ∈ records := by
  induction records with
  | nil => simp [filed]
  | cons first rest ih =>
      rw [filed]
      split
      · exact List.mem_cons
      · rw [List.mem_cons, List.mem_cons, ih]
        exact or_left_comm

/-- One more record keeps the order. -/
theorem Record.filed_ascending {record : Record} {records : List Record}
    (ascending : records.Pairwise fun first second => first.timestamp ≤ second.timestamp) :
    (record.filed records).Pairwise fun first second => first.timestamp ≤ second.timestamp := by
  induction records with
  | nil => exact List.pairwise_singleton _ _
  | cons first rest ih =>
      obtain ⟨least, tail⟩ := List.pairwise_cons.mp ascending
      rw [filed]
      split
      · next less =>
          refine List.pairwise_cons.mpr ⟨fun other member => ?_, ascending⟩
          rcases List.mem_cons.mp member with rfl | behind
          · exact Std.le_of_lt less
          · exact Std.le_trans (Std.le_of_lt less) (least other behind)
      · next notLess =>
          refine List.pairwise_cons.mpr ⟨fun other member => ?_, ih tail⟩
          rcases mem_filed.mp member with rfl | behind
          · exact Std.not_lt.mp notLess
          · exact least other behind

/-- Among records that ascend, those that are not later stand in front of those that are. -/
theorem Record.filed_of_ascending {record : Record} {records : List Record}
    (ascending : records.Pairwise fun first second =>
      first.timestamp ≤ second.timestamp) :
    record.filed records =
      records.filter (fun other => decide (other.timestamp ≤ record.timestamp)) ++
        record :: records.filter fun other => decide (record.timestamp < other.timestamp) := by
  induction records with
  | nil => rfl
  | cons first rest ih =>
      obtain ⟨least, tail⟩ := List.pairwise_cons.mp ascending
      rw [filed]
      split
      · next less =>
          have later : ∀ other ∈ first :: rest, record.timestamp < other.timestamp := by
            intro other member
            rcases List.mem_cons.mp member with rfl | behind
            · exact less
            · exact Std.lt_of_lt_of_le less (least other behind)
          have noneEarlier : (first :: rest).filter
              (fun other => decide (other.timestamp ≤ record.timestamp)) = [] := by
            refine List.filter_eq_nil_iff.mpr fun other member => ?_
            rw [decide_eq_true_eq]
            exact Std.not_le.mpr (later other member)
          have allLater : (first :: rest).filter
              (fun other => decide (record.timestamp < other.timestamp)) = first :: rest :=
            List.filter_eq_self.mpr fun other member => decide_eq_true (later other member)
          rw [noneEarlier, allLater, List.nil_append]
      · next notLess =>
          have notLater : first.timestamp ≤ record.timestamp := Std.not_lt.mp notLess
          rw [List.filter_cons, if_pos (decide_eq_true notLater), List.filter_cons,
            if_neg (by simpa using notLess), ih tail, List.cons_append]

/-- Among more records a record stands behind more of them, and in front of more. -/
theorem Record.filed_sublist {record : Record} {fewer records : List Record}
    (part : fewer.Sublist records)
    (ascending : records.Pairwise fun first second => first.timestamp ≤ second.timestamp) :
    (record.filed fewer).Sublist (record.filed records) := by
  rw [filed_of_ascending ascending, filed_of_ascending (ascending.sublist part)]
  exact (part.filter _).append ((part.filter _).cons_cons record)

namespace Pool

theorem Entry.before_iff {first second : Entry} :
    first.before second = true ↔
      first.record.timestamp < second.record.timestamp ∨
        first.record.timestamp = second.record.timestamp ∧ first.arrival < second.arrival := by
  simp only [Entry.before, Bool.or_eq_true, Bool.and_eq_true, decide_eq_true_eq]

theorem Entry.timestamp_le {first second : Entry} (before : first.before second = true) :
    first.record.timestamp ≤ second.record.timestamp := by
  rcases Entry.before_iff.mp before with less | ⟨same, _⟩
  · exact Std.le_of_lt less
  · exact Std.le_of_eq same

theorem Entry.before_trans {first second third : Entry} (left : first.before second = true)
    (right : second.before third = true) : first.before third = true := by
  rw [Entry.before_iff] at left right ⊢
  rcases left with left | ⟨left, arrivedLeft⟩ <;> rcases right with right | ⟨right, arrivedRight⟩
  · exact .inl (Std.lt_trans left right)
  · exact .inl (right ▸ left)
  · exact .inl (left ▸ right)
  · exact .inr ⟨left.trans right, UInt64.lt_trans arrivedLeft arrivedRight⟩

/-- Entries with different arrivals stand in one order or the other. -/
theorem Entry.before_total {first second : Entry} (different : first.arrival ≠ second.arrival)
    (not_before : ¬ first.before second = true) : second.before first = true := by
  rw [Entry.before_iff] at not_before ⊢
  rw [not_or, not_and] at not_before
  rcases Std.lt_trichotomy first.record.timestamp second.record.timestamp with
    less | same | greater
  · exact absurd less not_before.1
  · refine .inr ⟨same.symm, ?_⟩
    rcases UInt64.lt_or_eq_of_le (UInt64.not_lt.mp (not_before.2 same)) with less | equal
    · exact less
    · exact absurd equal.symm different
  · exact .inl greater

theorem insertEntry_ne_nil (entry : Entry) (entries : List Entry) :
    insertEntry entry entries ≠ [] := by
  cases entries with
  | nil => simp [insertEntry]
  | cons first rest =>
      rw [insertEntry]
      split
      · simp
      · split <;> simp

/-- Nothing but the new entry comes in. -/
theorem mem_insertEntry {entry other : Entry} {entries : List Entry}
    (member : other ∈ insertEntry entry entries) : other = entry ∨ other ∈ entries := by
  induction entries with
  | nil => exact .inl (List.mem_singleton.mp member)
  | cons first rest ih =>
      rw [insertEntry] at member
      split at member
      · exact List.mem_cons.mp member
      · split at member
        · rcases List.mem_cons.mp member with rfl | later
          · exact .inr List.mem_cons_self
          · exact (ih later).imp_right (List.mem_cons_of_mem first)
        · exact (List.mem_cons.mp member).imp_right (List.mem_cons_of_mem first)

/-- An insertion adds one entry to those with other arrivals. -/
theorem insertEntry_perm {entry : Entry} {entries : List Entry}
    (fresh : ∀ other ∈ entries, other.arrival ≠ entry.arrival) :
    (insertEntry entry entries).Perm (entry :: entries) := by
  induction entries with
  | nil => rfl
  | cons first rest ih =>
      rw [insertEntry]
      split
      · rfl
      · next not_before =>
          have after : first.before entry = true :=
            Entry.before_total (fresh first List.mem_cons_self).symm not_before
          rw [if_pos after]
          have tail := ih fun other member => fresh other (List.mem_cons_of_mem _ member)
          exact (tail.cons first).trans (List.Perm.swap entry first rest)

theorem insertEntry_ascending {entry : Entry} {entries : List Entry}
    (fresh : ∀ other ∈ entries, other.arrival ≠ entry.arrival)
    (ascending : entries.Pairwise fun first second => first.before second = true) :
    (insertEntry entry entries).Pairwise fun first second => first.before second = true := by
  induction entries with
  | nil => simp [insertEntry]
  | cons first rest ih =>
      obtain ⟨least, tail⟩ := List.pairwise_cons.mp ascending
      have freshTail : ∀ other ∈ rest, other.arrival ≠ entry.arrival :=
        fun other member => fresh other (List.mem_cons_of_mem _ member)
      rw [insertEntry]
      split
      · next before =>
          refine List.pairwise_cons.mpr ⟨fun other member => ?_, ascending⟩
          rcases List.mem_cons.mp member with rfl | later
          · exact before
          · exact Entry.before_trans before (least other later)
      · next not_before =>
          have after : first.before entry = true :=
            Entry.before_total (fresh first List.mem_cons_self).symm not_before
          rw [if_pos after]
          refine List.pairwise_cons.mpr ⟨fun other member => ?_, ih freshTail tail⟩
          rcases List.mem_cons.mp ((insertEntry_perm freshTail).mem_iff.mp member) with rfl | later
          · exact after
          · exact least other later

/-- A new arrival stands behind all records that are not later. -/
theorem records_insertEntry {entry : Entry} {entries : List Entry}
    (last : ∀ other ∈ entries, other.arrival < entry.arrival) :
    (insertEntry entry entries).map Entry.record =
      entry.record.filed (entries.map Entry.record) := by
  induction entries with
  | nil => rfl
  | cons first rest ih =>
      have earlier : first.arrival < entry.arrival := last first List.mem_cons_self
      have before_iff :
          entry.before first = true ↔ entry.record.timestamp < first.record.timestamp := by
        rw [Entry.before_iff]
        constructor
        · intro before
          exact before.resolve_right fun both => absurd both.2 (UInt64.lt_asymm earlier)
        · exact .inl
      rw [insertEntry, List.map_cons, Record.filed]
      by_cases less : entry.record.timestamp < first.record.timestamp
      · rw [if_pos (before_iff.mpr less), if_pos less]
        rfl
      · have after : first.before entry = true :=
          Entry.before_total (UInt64.ne_of_lt earlier).symm fun before =>
            less (before_iff.mp before)
        rw [if_neg fun before => less (before_iff.mp before), if_pos after, if_neg less,
          List.map_cons, ih fun other member => last other (List.mem_cons_of_mem first member)]

/-- The entries ascend, and arrivals are numbered beyond all of them. -/
structure Ordered (pool : Pool) : Prop where
  ascending : pool.entries.Pairwise fun first second => first.before second = true
  numbered : ∀ entry ∈ pool.entries, entry.arrival < pool.nextArrival

/-- The pool with one more record, whatever its capacity. -/
def stored (pool : Pool) (record : Record) : Pool :=
  { pool with
    entries := insertEntry ⟨pool.nextArrival, record⟩ pool.entries
    nextArrival := pool.nextArrival + 1 }

/-- The pool without the records that pass a test. -/
def without (pool : Pool) (leaves : Record → Bool) : Pool :=
  { pool with entries := pool.entries.filter fun entry => !leaves entry.record }

theorem push_eq {pool : Pool} {record : Record} (room : pool.isFull = false) :
    pool.push record = .ok (pool.stored record) := by
  rw [push, room]
  rfl

theorem isFull_of_limit (pool : Pool) {limit : Nat} (limited : pool.capacity.limit? = some limit) :
    pool.isFull = decide (limit ≤ pool.size) := by
  rw [isFull, limited]
  rfl

theorem isFull_of_unbounded {pool : Pool} (unbounded : pool.capacity.limit? = none) :
    pool.isFull = false := by
  rw [isFull, unbounded]
  rfl

/-- An empty pool is full only if it takes no records at all. -/
theorem isFull_clear {pool : Pool} (roomy : pool.capacity ≠ .zero) : pool.clear.isFull = false := by
  unfold isFull
  change (pool.capacity.limit?.any fun limit => decide (limit ≤ 0)) = false
  cases kind : pool.capacity with
  | zero => exact absurd kind roomy
  | one => rfl
  | unbounded => rfl

theorem tested_eq {test : Record → Except Crash Bool} {passes : Record → Bool}
    (answers : ∀ record, test record = .ok (passes record)) (entries : List Entry) :
    tested test entries = .ok (entries.map fun entry => (entry, passes entry.record)) := by
  induction entries with
  | nil => rfl
  | cons first rest ih =>
      rw [tested, answers, ih]
      rfl

/-- A test that never crashes takes out exactly the records that pass it. -/
theorem consume_eq (pool : Pool) {test : Record → Except Crash Bool} {passes : Record → Bool}
    (answers : ∀ record, test record = .ok (passes record)) :
    ∃ taken, pool.consume test = .ok (taken, pool.without passes) := by
  rw [consume, tested_eq answers]
  refine ⟨_, congrArg Except.ok (Prod.ext rfl ?_)⟩
  simp [without, List.filter_map, Function.comp_def]

section Records

variable {pool : Pool} {record : Record}

@[simp] theorem records_clear : pool.clear.records = [] := rfl

@[simp] theorem records_empty (capacity : Capacity) : (Pool.empty capacity).records = [] := rfl

theorem mem_records : record ∈ pool.records ↔ ∃ entry ∈ pool.entries, entry.record = record :=
  List.mem_map

theorem length_records (pool : Pool) : pool.records.length = pool.size :=
  List.length_map _

theorem records_evict (pool : Pool) (now : Timestamp) (age : Duration) :
    (pool.evict now age).records =
      pool.records.dropWhile fun record => decide (age ≤ now.since record.timestamp) := by
  rw [records, records, List.dropWhile_map]
  rfl

theorem records_without (pool : Pool) (leaves : Record → Bool) :
    (pool.without leaves).records = pool.records.filter fun record => !leaves record := by
  rw [records, records, List.filter_map]
  rfl

theorem isEmpty_iff : pool.isEmpty = true ↔ pool.records = [] := by
  simp [isEmpty, records]

theorem mem_records_without {leaves : Record → Bool} :
    record ∈ (pool.without leaves).records ↔ record ∈ pool.records ∧ leaves record = false := by
  rw [mem_records, mem_records]
  constructor
  · rintro ⟨entry, member, rfl⟩
    obtain ⟨old, kept⟩ := List.mem_filter.mp member
    exact ⟨⟨entry, old, rfl⟩, by simpa using kept⟩
  · rintro ⟨⟨entry, member, rfl⟩, kept⟩
    exact ⟨entry, List.mem_filter.mpr ⟨member, by simp [kept]⟩, rfl⟩

theorem mem_of_stored {other : Record} (member : other ∈ (pool.stored record).records) :
    other = record ∨ other ∈ pool.records := by
  obtain ⟨entry, listed, rfl⟩ := mem_records.mp member
  rcases mem_insertEntry listed with rfl | old
  · exact .inl rfl
  · exact .inr (mem_records.mpr ⟨entry, old, rfl⟩)

theorem records_stored_ne_nil : (pool.stored record).records ≠ [] := by
  intro empty
  exact insertEntry_ne_nil _ _ (List.map_eq_nil_iff.mp empty)

end Records

namespace Ordered

variable {pool : Pool}

/-- An empty pool is ordered. -/
theorem of_vacant (vacant : pool.entries = []) : pool.Ordered where
  ascending := by
    rw [vacant]
    exact List.Pairwise.nil
  numbered := by
    rw [vacant]
    exact fun _ member => absurd member List.not_mem_nil

theorem clear : pool.clear.Ordered :=
  of_vacant rfl

/-- A part of the entries is ordered as well. -/
theorem sublist (ordered : pool.Ordered) {entries : List Entry}
    (part : entries.Sublist pool.entries) : { pool with entries := entries }.Ordered where
  ascending := ordered.ascending.sublist part
  numbered := fun entry member => ordered.numbered entry (part.subset member)

theorem without (ordered : pool.Ordered) (leaves : Record → Bool) :
    (pool.without leaves).Ordered :=
  ordered.sublist List.filter_sublist

theorem fresh (ordered : pool.Ordered) :
    ∀ entry ∈ pool.entries, entry.arrival ≠ pool.nextArrival :=
  fun entry member => UInt64.ne_of_lt (ordered.numbered entry member)

/-- As long as the numbers do not run out, one more record keeps the order. -/
theorem stored (ordered : pool.Ordered) (record : Record)
    (numbers : pool.nextArrival.toNat + 1 < UInt64.size) : (pool.stored record).Ordered where
  ascending := insertEntry_ascending ordered.fresh ordered.ascending
  numbered := by
    have next : (pool.nextArrival + 1).toNat = pool.nextArrival.toNat + 1 := by
      rw [UInt64.toNat_add]
      exact Nat.mod_eq_of_lt numbers
    intro entry member
    change entry.arrival < pool.nextArrival + 1
    rw [UInt64.lt_iff_toNat_lt, next]
    rcases List.mem_cons.mp ((insertEntry_perm ordered.fresh).mem_iff.mp member) with rfl | old
    · exact Nat.lt_succ_self _
    · exact Nat.lt_succ_of_lt (UInt64.lt_iff_toNat_lt.mp (ordered.numbered entry old))

theorem records_stored (ordered : pool.Ordered) (record : Record) :
    (pool.stored record).records = record.filed pool.records :=
  records_insertEntry ordered.numbered

theorem mem_records_stored (ordered : pool.Ordered) {record other : Record} :
    other ∈ (pool.stored record).records ↔ other = record ∨ other ∈ pool.records := by
  rw [ordered.records_stored, Record.mem_filed]

/-- The records ascend by their timestamps. -/
theorem records_ascending (ordered : pool.Ordered) :
    pool.records.Pairwise fun first second => first.timestamp ≤ second.timestamp :=
  List.pairwise_map.mpr (ordered.ascending.imp Entry.timestamp_le)

/-- The first record is the oldest one. -/
theorem oldest_le (ordered : pool.Ordered) {oldest record : Record}
    (first : pool.oldest? = some oldest) (member : record ∈ pool.records) :
    oldest.timestamp ≤ record.timestamp := by
  have ascending := ordered.records_ascending
  rw [oldest?] at first
  cases listed : pool.records with
  | nil => simp [listed] at member
  | cons head rest =>
      rw [listed] at first member ascending
      obtain rfl : head = oldest := by simpa using first
      rcases List.mem_cons.mp member with rfl | later
      · exact Std.le_refl _
      · exact (List.pairwise_cons.mp ascending).1 record later

/-- The last record is the newest one. -/
theorem holdsNewerThan_iff (ordered : pool.Ordered) {record : Record} :
    pool.holdsNewerThan record = true ↔
      ∃ pooled ∈ pool.records, record.timestamp < pooled.timestamp := by
  rw [holdsNewerThan, newest?]
  cases found : pool.records.getLast? with
  | none =>
      rw [List.getLast?_eq_none_iff] at found
      simp [found]
  | some newest =>
      obtain ⟨front, listed⟩ := List.getLast?_eq_some_iff.mp found
      have ascending := ordered.records_ascending
      rw [listed] at ascending ⊢
      constructor
      · intro newer
        exact ⟨newest, by simp, of_decide_eq_true newer⟩
      · rintro ⟨pooled, member, newer⟩
        have below : pooled.timestamp ≤ newest.timestamp := by
          rcases List.mem_append.mp member with earlier | last
          · exact (List.pairwise_append.mp ascending).2.2 pooled earlier newest (by simp)
          · obtain rfl := List.mem_singleton.mp last
            exact Std.le_refl _
        exact decide_eq_true (Std.lt_of_lt_of_le newer below)

end Ordered

end Pool

end TemporalMonitor
