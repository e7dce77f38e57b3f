import TemporalMonitor.Proofs.Monitor.Renewal

/-!
Pools as lists of records.

What a pool shows is a list of records that ascends by their timestamps. A record that is pushed goes
behind all those that are not later, and what is taken out leaves the others in their order. The
numbers of arrival that keep it so are not seen, as long as they do not run out.
-/

namespace TemporalMonitor

/-- What a user can ask of a pool. -/
inductive Pool.Request where
  | push (record : Record)
  | replace (record : Record)
  | clear
  | consume (test : Record → Except Crash Bool)
  | evict (now : Timestamp) (age : Duration)

/-- What the user is told, unless there is a crash. -/
inductive Pool.Reply where
  | done
  | stored (isStored : Bool)
  | taken (records : List Record)
  | dropped (count : Nat)

namespace Pool

/-- The reply to a request, and the pool after it. -/
def answer (pool : Pool) : Request → Except Crash Reply × Pool
  | .push record =>
      match pool.push record with
      | .ok next => (.ok .done, next)
      | .error crash => (.error crash, pool)
  | .replace record => ((pool.replace record).1.map .stored, (pool.replace record).2)
  | .clear => (.ok .done, pool.clear)
  | .consume test =>
      match pool.consume test with
      | .ok (taken, left) => (.ok (.taken taken), left)
      | .error crash => (.error crash, pool)
  | .evict now age =>
      (.ok (.dropped (pool.size - (pool.evict now age).size)), pool.evict now age)

/-- The replies to some requests, each with the records that are pooled after it. -/
def replies (pool : Pool) : List Request → List (Except Crash Reply × List Record)
  | [] => []
  | request :: rest =>
      let (reply, next) := pool.answer request
      (reply, next.records) :: next.replies rest

/-- How many records some requests store. -/
def pushes (pool : Pool) : List Request → Nat
  | [] => 0
  | request :: rest =>
      let next := (pool.answer request).2
      (if next.nextArrival = pool.nextArrival then 0 else 1) + next.pushes rest

end Pool

/-- The records that a pool of the capacity shows. -/
structure Shelf where
  capacity : Capacity
  records : List Record := []

namespace Shelf

/-- A test passes a record if it answers so. -/
def passes (test : Record → Except Crash Bool) (record : Record) : Bool :=
  (test record).toOption.getD false

/-- The crash of a test on a record, if there is one. -/
def crash? (test : Record → Except Crash Bool) (record : Record) : Option Crash :=
  match test record with
  | .error crash => some crash
  | .ok _ => none

variable (shelf : Shelf)

def isFull : Bool :=
  shelf.capacity.limit?.any (· ≤ shelf.records.length)

def overflow : Crash where
  message := "pool overflow: capacity " ++ shelf.capacity.describe ++ " already holds " ++
    toString shelf.records.length ++ " record(s)"

def clear : Shelf :=
  { shelf with records := [] }

/-- The record stands behind all that are not later. -/
def insert (record : Record) : Shelf :=
  { shelf with
    records := shelf.records.filter (fun other => decide (other.timestamp ≤ record.timestamp)) ++
      record :: shelf.records.filter fun other => decide (record.timestamp < other.timestamp) }

/-- The records that do not leave keep their order. -/
def without (leaves : Record → Bool) : Shelf :=
  { shelf with records := shelf.records.filter fun record => !leaves record }

/-- The record is at least this old. -/
def isExpired (now : Timestamp) (age : Duration) (record : Record) : Bool :=
  decide (age ≤ now.since record.timestamp)

/-- The reply to a request, and the shelf after it. A replacement on a shelf without room is refused
like any other record, a test that crashes takes nothing out, and what is old enough is dropped up to
the first record that is not. -/
def answer : Pool.Request → Except Crash Pool.Reply × Shelf
  | .push record =>
      if shelf.isFull then (.error shelf.overflow, shelf) else (.ok .done, shelf.insert record)
  | .replace record =>
      if shelf.records.any fun other => decide (record.timestamp < other.timestamp) then
        (.ok (.stored false), shelf)
      else if shelf.capacity = .zero then (.error shelf.clear.overflow, shelf.clear)
      else (.ok (.stored true), { shelf with records := [record] })
  | .clear => (.ok .done, shelf.clear)
  | .consume test =>
      match shelf.records.reverse.findSome? (crash? test) with
      | some crash => (.error crash, shelf)
      | none =>
          (.ok (.taken (shelf.records.reverse.filter (passes test))), shelf.without (passes test))
  | .evict now age =>
      (.ok (.dropped (shelf.records.takeWhile (isExpired now age)).length),
        { shelf with records := shelf.records.dropWhile (isExpired now age) })

/-- The replies to some requests, each with the records after it. -/
def replies (shelf : Shelf) : List Pool.Request → List (Except Crash Pool.Reply × List Record)
  | [] => []
  | request :: rest =>
      let (reply, next) := shelf.answer request
      (reply, next.records) :: next.replies rest

end Shelf

/-- If times elapse in order, then what is dropped is all that is old enough. -/
theorem Shelf.answer_evict {shelf : Shelf} {now : Timestamp} {age : Duration}
    (ascending : shelf.records.Pairwise fun first second => first.timestamp ≤ second.timestamp)
    (inOrder : (Bound.within age).ElapsesInOrder
      (now :: shelf.records.map Record.timestamp)) :
    shelf.answer (.evict now age) =
      (.ok (.dropped (shelf.records.countP (isExpired now age))),
        shelf.without (isExpired now age)) := by
  have left : shelf.records.dropWhile (isExpired now age) =
      shelf.records.filter fun record => !isExpired now age record := by
    refine dropWhile_eq_filter (List.Pairwise.imp_of_mem ?_ ascending)
    intro first second earlier later order
    exact inOrder now List.mem_cons_self _ (List.mem_cons_of_mem _ (List.mem_map_of_mem earlier))
      _ (List.mem_cons_of_mem _ (List.mem_map_of_mem later)) order
  have parts := congrArg List.length
    (List.takeWhile_append_dropWhile (p := isExpired now age) (l := shelf.records))
  have whole := shelf.records.length_eq_countP_add_countP (isExpired now age)
  rw [List.length_append, left, ← List.countP_eq_length_filter] at parts
  simp only [Bool.not_eq_true, Bool.decide_eq_false] at whole
  have count : (shelf.records.takeWhile (isExpired now age)).length =
      shelf.records.countP (isExpired now age) := by
    omega
  rw [answer, left, count, without]

namespace Pool

variable {pool : Pool}

/-- A test of some entries breaks off at the first record on which it crashes. -/
theorem tested_of_crash {test : Record → Except Crash Bool} {entries : List Entry} {crash : Crash}
    (crashes : (entries.map Entry.record).findSome? (Shelf.crash? test) = some crash) :
    tested test entries = .error crash := by
  induction entries with
  | nil => cases crashes
  | cons first rest ih =>
      rw [List.map_cons, List.findSome?_cons, Shelf.crash?] at crashes
      rw [tested]
      cases answered : test first.record with
      | error other =>
          rw [answered] at crashes
          obtain rfl := Option.some.inj crashes
          rfl
      | ok answer =>
          rw [answered] at crashes
          rw [ih crashes]
          rfl

/-- Without a crash every record has its answer. -/
theorem tested_of_calm {test : Record → Except Crash Bool} {entries : List Entry}
    (calm : (entries.map Entry.record).findSome? (Shelf.crash? test) = none) :
    tested test entries =
      .ok (entries.map fun entry => (entry, Shelf.passes test entry.record)) := by
  induction entries with
  | nil => rfl
  | cons first rest ih =>
      rw [List.map_cons, List.findSome?_cons, Shelf.crash?] at calm
      rw [tested, List.map_cons, Shelf.passes]
      cases answered : test first.record with
      | error other =>
          rw [answered] at calm
          cases calm
      | ok answer =>
          rw [answered] at calm
          rw [ih calm]
          rfl

/-- The newest record is tested first, and those that pass are taken out in that order. -/
theorem consume_of_calm {test : Record → Except Crash Bool}
    (calm : pool.records.reverse.findSome? (Shelf.crash? test) = none) :
    pool.consume test =
      .ok (pool.records.reverse.filter (Shelf.passes test), pool.without (Shelf.passes test)) := by
  rw [records, ← List.map_reverse] at calm
  rw [consume, tested_of_calm calm]
  refine congrArg Except.ok (Prod.ext ?_ ?_)
  · simp [records, List.filter_map, Function.comp_def]
  · simp [without, List.filter_map, Function.comp_def]

theorem consume_of_crash {test : Record → Except Crash Bool} {crash : Crash}
    (crashes : pool.records.reverse.findSome? (Shelf.crash? test) = some crash) :
    pool.consume test = .error crash := by
  rw [records, ← List.map_reverse] at crashes
  rw [consume, tested_of_crash crashes]
  rfl

/-- What the pool shows. -/
def shelf (pool : Pool) : Shelf :=
  ⟨pool.capacity, pool.records⟩

theorem isFull_shelf (pool : Pool) : pool.shelf.isFull = pool.isFull := by
  rw [Shelf.isFull, isFull, shelf, length_records]

theorem overflow_shelf (pool : Pool) : pool.shelf.overflow = pool.overflow := by
  have counted : pool.shelf.records.length = pool.size := pool.length_records
  unfold Shelf.overflow overflow
  rw [counted, shelf]

theorem push_of_zero (pool : Pool) (zero : pool.capacity = .zero) (record : Record) :
    pool.push record = .error pool.overflow := by
  have limited : pool.capacity.limit? = some 0 := by
    rw [zero]
    rfl
  have full : pool.isFull = true := by
    rw [pool.isFull_of_limit limited]
    exact decide_eq_true (Nat.zero_le _)
  rw [push, if_pos full]

theorem size_evict (pool : Pool) (now : Timestamp) (age : Duration) :
    pool.size - (pool.evict now age).size =
      (pool.records.takeWhile (Shelf.isExpired now age)).length := by
  have parts := congrArg List.length
    (List.takeWhile_append_dropWhile (p := Shelf.isExpired now age) (l := pool.records))
  have left : (pool.records.dropWhile (Shelf.isExpired now age)).length = (pool.evict now age).size :=
    (congrArg List.length (pool.records_evict now age)).symm.trans (length_records _)
  rw [List.length_append, left, length_records] at parts
  omega

theorem shelf_without (pool : Pool) (leaves : Record → Bool) :
    (pool.without leaves).shelf = pool.shelf.without leaves := by
  rw [shelf, records_without]
  rfl

namespace Ordered

variable (ordered : pool.Ordered)

include ordered

theorem shelf_stored (record : Record) :
    (pool.stored record).shelf = pool.shelf.insert record := by
  rw [shelf, ordered.records_stored, Record.filed_of_ascending ordered.records_ascending]
  rfl

/-- A shelf without room stays empty when its records are to be replaced. -/
theorem replace_shelf (record : Record) :
    ((pool.answer (.replace record)).1, (pool.answer (.replace record)).2.shelf) =
      pool.shelf.answer (.replace record) := by
  have newer : pool.holdsNewerThan record =
      pool.shelf.records.any fun other => decide (record.timestamp < other.timestamp) := by
    rw [Bool.eq_iff_iff, ordered.holdsNewerThan_iff, List.any_eq_true]
    simp only [decide_eq_true_eq]
    rfl
  rw [Shelf.answer, ← newer, answer, replace]
  cases pool.holdsNewerThan record with
  | true => rfl
  | false =>
      rw [if_neg (by decide), if_neg (by decide)]
      by_cases zero : pool.capacity = .zero
      · rw [pool.clear.push_of_zero zero, if_pos (show pool.shelf.capacity = .zero from zero),
          ← pool.clear.overflow_shelf]
        rfl
      · rw [push_eq (isFull_clear zero), if_neg (show pool.shelf.capacity ≠ .zero from zero)]
        rfl

/-- Every request makes of the pool what it makes of the list of its records. -/
theorem answer_shelf (request : Request) :
    ((pool.answer request).1, (pool.answer request).2.shelf) = pool.shelf.answer request := by
  cases request with
  | push record =>
      rw [Shelf.answer, pool.isFull_shelf, answer]
      cases full : pool.isFull with
      | true =>
          rw [if_pos rfl, pool.overflow_shelf, push, if_pos full]
      | false =>
          rw [if_neg (by decide), ← ordered.shelf_stored, push_eq full]
  | replace record => exact ordered.replace_shelf record
  | clear => rfl
  | consume test =>
      rw [Shelf.answer, answer]
      cases crashes : pool.shelf.records.reverse.findSome? (Shelf.crash? test) with
      | some crash => rw [consume_of_crash crashes]
      | none =>
          rw [consume_of_calm crashes, ← shelf_without]
          rfl
  | evict now age =>
      rw [Shelf.answer, answer, size_evict, shelf, records_evict]
      rfl

end Ordered

theorem answer_moves (pool : Pool) (request : Request) : pool.Moves (pool.answer request).2 := by
  cases request with
  | push record =>
      rw [answer]
      cases full : pool.isFull with
      | true =>
          rw [push, if_pos full]
          exact .shrinks (List.Sublist.refl _)
      | false =>
          rw [push_eq full]
          exact .grows (List.Sublist.refl _) record
  | replace record =>
      rw [answer, replace]
      split
      · exact .shrinks (List.Sublist.refl _)
      · by_cases zero : pool.capacity = .zero
        · rw [pool.clear.push_of_zero zero]
          exact .shrinks (List.nil_sublist _)
        · rw [push_eq (isFull_clear zero)]
          exact .grows (List.nil_sublist _) record
  | clear => exact .shrinks (List.nil_sublist _)
  | consume test =>
      rw [answer]
      cases crashes : pool.records.reverse.findSome? (Shelf.crash? test) with
      | some crash =>
          rw [consume_of_crash crashes]
          exact .shrinks (List.Sublist.refl _)
      | none =>
          rw [consume_of_calm crashes]
          exact .shrinks List.filter_sublist
  | evict now age => exact .shrinks (List.dropWhile_sublist _)

/-- A pool in order answers like the list of its records, and stays in order, as long as the numbers
of arrival do not run out. -/
theorem Stocked.replies_shelf {capacity : Capacity} {count : Nat}
    (stocked : pool.Stocked capacity count) {requests : List Request}
    (few : count + pool.pushes requests < UInt64.size) :
    pool.replies requests = pool.shelf.replies requests ∧
      ∀ seen ∈ pool.replies requests, seen.2.Pairwise fun first second =>
        first.timestamp ≤ second.timestamp := by
  induction requests generalizing pool count with
  | nil => exact ⟨rfl, by simp [replies]⟩
  | cons request rest ih =>
      have answered := stocked.ordered.answer_shelf request
      rw [pushes, ← Nat.add_assoc] at few
      have later := stocked.moves (pool.answer_moves request) rfl (Nat.lt_of_le_of_lt
        (Nat.le_add_right _ _) few)
      obtain ⟨same, ascending⟩ := ih later few
      constructor
      · rw [replies, Shelf.replies, ← answered]
        exact congrArg (((pool.answer request).1, (pool.answer request).2.records) :: ·) same
      · intro seen member
        rcases List.mem_cons.mp member with rfl | behind
        · exact later.ordered.records_ascending
        · exact ascending seen behind

/-- A pool answers every sequence of requests like a list on which a record is inserted behind all
that are not later, and shows its records in the order of their timestamps, as long as fewer records
are stored than there are numbers for them. If times elapse in order, then all records that are old
enough are dropped from such a list, and no others. -/
theorem replies_eq_shelf (capacity : Capacity) (requests : List Request)
    (few : (empty capacity).pushes requests < UInt64.size) :
    (empty capacity).replies requests = (Shelf.mk capacity []).replies requests ∧
      (∀ seen ∈ (empty capacity).replies requests, seen.2.Pairwise fun first second =>
        first.timestamp ≤ second.timestamp) ∧
      ∀ (shelf : Shelf) now age,
        shelf.records.Pairwise (fun first second => first.timestamp ≤ second.timestamp) →
        (Bound.within age).ElapsesInOrder (now :: shelf.records.map Record.timestamp) →
        shelf.answer (.evict now age) =
          (.ok (.dropped (shelf.records.countP (Shelf.isExpired now age))),
            shelf.without (Shelf.isExpired now age)) := by
  have stocked := Stocked.empty capacity 0
  rw [← Nat.zero_add (pushes _ _)] at few
  obtain ⟨same, ascending⟩ := stocked.replies_shelf few
  exact ⟨same, ascending, fun _ _ _ => Shelf.answer_evict⟩

/-- Records come late and at one time, one of them is refused, and some leave in between. -/
theorem replies_eq_shelf_unpunctual :
    ∃ requests : List Request,
      requests = [.push ⟨"/a", (.ofNanos 5), ⟨[]⟩, none⟩, .push ⟨"/b", (.ofNanos 3), ⟨[]⟩, none⟩,
        .push ⟨"/c", (.ofNanos 5), ⟨[]⟩, none⟩, .replace ⟨"/d", (.ofNanos 4), ⟨[]⟩, none⟩,
        .consume fun record => .ok (record.topic == "/a"), .push ⟨"/e", (.ofNanos 3), ⟨[]⟩, none⟩,
        .evict (.ofNanos 7) ⟨4⟩, .replace ⟨"/f", (.ofNanos 5), ⟨[]⟩, none⟩] ∧
      (empty .unbounded).pushes requests = 5 ∧
      ((empty .unbounded).replies requests).map (fun seen => seen.2.map Record.topic) =
        [["/a"], ["/b", "/a"], ["/b", "/a", "/c"], ["/b", "/a", "/c"], ["/b", "/c"],
          ["/b", "/e", "/c"], ["/c"], ["/f"]] ∧
      (empty .unbounded).replies requests = (Shelf.mk .unbounded []).replies requests ∧
      ∀ seen ∈ (empty .unbounded).replies requests, seen.2.Pairwise fun first second =>
        first.timestamp ≤ second.timestamp := by
  refine ⟨_, rfl, rfl, rfl, ?_⟩
  refine (replies_eq_shelf .unbounded _ ?_).imp_right And.left
  show 5 < UInt64.size
  decide

/-- A pool without room does not take the record that is to replace the others, though none of them
is later. And a record that is old enough stays behind one of a leap second that is not. -/
theorem pool_unlike_list :
    (∃ record : Record, (∀ other ∈ (empty .zero).records, ¬ record.timestamp < other.timestamp) ∧
        ((empty .zero).answer (.replace record)).1 =
          .error ⟨"pool overflow: capacity Zero already holds 0 record(s)"⟩ ∧
        ((empty .zero).answer (.replace record)).2.records ≠ [record]) ∧
      let first : Record := ⟨"/a", .ofParts 1483228799 1500000000, ⟨[]⟩, none⟩
      let second : Record := ⟨"/b", .ofParts 1483228800 200000000, ⟨[]⟩, none⟩
      let now := Timestamp.ofParts 1483228810 0
      let age : Duration := ⟨9700000000⟩
      (empty .unbounded).replies [.push first, .push second, .evict now age] =
          [(.ok .done, [first]), (.ok .done, [first, second]),
            (.ok (.dropped 0), [first, second])] ∧
        age ≤ now.since second.timestamp := by
  refine ⟨⟨⟨"/a", (.ofNanos 0), ⟨[]⟩, none⟩, by simp [empty, records], rfl, ?_⟩, rfl, by decide⟩
  exact (List.cons_ne_nil _ _).symm

end Pool

end TemporalMonitor
