import TemporalMonitor.Machine.Basic
import TemporalMonitor.Monitor.Record

/-!
Pools of records, ordered by the timestamps that the records carry.
-/

namespace TemporalMonitor

/-- A pooled record with the number of its arrival. -/
structure Pool.Entry where
  arrival : UInt64
  record : Record

/-- Entries ascend by timestamp, and those with one timestamp by arrival. -/
structure Pool where
  capacity : Capacity
  entries : List Pool.Entry := []
  nextArrival : UInt64 := 0

namespace Pool

/-- The order of entries. -/
def Entry.before (a b : Entry) : Bool :=
  decide (a.record.timestamp < b.record.timestamp) ||
    (decide (a.record.timestamp = b.record.timestamp) && decide (a.arrival < b.arrival))

/-- Puts an entry in its place. An entry with the same timestamp and arrival gives way. -/
def insertEntry (entry : Entry) : List Entry → List Entry
  | [] => [entry]
  | first :: rest =>
      if entry.before first then entry :: first :: rest
      else if first.before entry then first :: insertEntry entry rest
      else entry :: rest

def empty (capacity : Capacity) : Pool := { capacity := capacity }

def size (pool : Pool) : Nat :=
  pool.entries.length

def isEmpty (pool : Pool) : Bool :=
  pool.entries.isEmpty

/-- The records, the oldest one first. -/
def records (pool : Pool) : List Record :=
  pool.entries.map Entry.record

def oldest? (pool : Pool) : Option Record :=
  pool.records.head?

def newest? (pool : Pool) : Option Record :=
  pool.records.getLast?

def newestFirst (pool : Pool) : List Record :=
  pool.records.reverse

def isFull (pool : Pool) : Bool :=
  pool.capacity.limit?.any (· ≤ pool.size)

def overflow (pool : Pool) : Crash where
  message := "pool overflow: capacity " ++ pool.capacity.describe ++ " already holds " ++
    toString pool.size ++ " record(s)"

/-- Adds a record in its place; a full pool takes none. -/
def push (pool : Pool) (record : Record) : Except Crash Pool :=
  if pool.isFull then .error pool.overflow
  else .ok { pool with
    entries := insertEntry ⟨pool.nextArrival, record⟩ pool.entries
    nextArrival := pool.nextArrival + 1 }

def clear (pool : Pool) : Pool :=
  { pool with entries := [] }

/-- A record with a later timestamp is pooled already. -/
def holdsNewerThan (pool : Pool) (record : Record) : Bool :=
  pool.newest?.any fun newest => decide (record.timestamp < newest.timestamp)

/-- Puts the record in place of all pooled ones, unless one of them is newer, and says whether it was
stored. A pool that takes no records is left empty. -/
def replace (pool : Pool) (record : Record) : Except Crash Bool × Pool :=
  if pool.holdsNewerThan record then (.ok false, pool)
  else match pool.clear.push record with
    | .ok stored => (.ok true, stored)
    | .error crash => (.error crash, pool.clear)

/-- The entries with the results of a test, which breaks off at the first crash. -/
def tested (test : Record → Except Crash Bool) : List Entry → Except Crash (List (Entry × Bool))
  | [] => .ok []
  | entry :: rest => do
      let passes ← test entry.record
      let others ← tested test rest
      .ok ((entry, passes) :: others)

/-- Takes out every record that passes the test. The newest one is tested first, and the records
taken out come in the order in which they were tested. -/
def consume (pool : Pool) (test : Record → Except Crash Bool) :
    Except Crash (List Record × Pool) := do
  let results ← tested test pool.entries.reverse
  let taken := results.filter fun result => result.2
  let left := results.filter fun result => !result.2
  .ok (taken.map fun result => result.1.record,
    { pool with entries := (left.map Prod.fst).reverse })

/-- The record is at least as old as the age given. -/
def isExpired (now : Timestamp) (age : Duration) (entry : Entry) : Bool :=
  decide (age ≤ now.since entry.record.timestamp)

/-- Drops the oldest records as long as they are expired. -/
def evict (pool : Pool) (now : Timestamp) (age : Duration) : Pool :=
  { pool with entries := pool.entries.dropWhile (isExpired now age) }

end Pool

end TemporalMonitor
