/-!
Ascending lists: sets, and tables with one value per key.
-/

namespace TemporalMonitor.Ordered

variable {κ α : Type} [LT κ] [DecidableLT κ] [DecidableEq κ]

/-- Puts a value in its place; a value under the same key gives way. -/
def insert (key : κ) (value : α) : List (κ × α) → List (κ × α)
  | [] => [(key, value)]
  | entry :: rest =>
      if key < entry.1 then (key, value) :: entry :: rest
      else if key = entry.1 then (key, value) :: rest
      else entry :: insert key value rest

/-- The table of the pairs given; of pairs with one key the last one counts. -/
def ofPairs (pairs : List (κ × α)) : List (κ × α) :=
  pairs.foldl (fun table pair => insert pair.1 pair.2 table) []

/-- Changes the value under a key, or the one given if there is none yet. -/
def update (start : α) (key : κ) (change : α → α) : List (κ × α) → List (κ × α)
  | [] => [(key, change start)]
  | entry :: rest =>
      if key < entry.1 then (key, change start) :: entry :: rest
      else if key = entry.1 then (key, change entry.2) :: rest
      else entry :: update start key change rest

/-- Puts an item in its place unless it is there already. -/
def add (item : κ) : List κ → List κ
  | [] => [item]
  | first :: rest =>
      if item < first then item :: first :: rest
      else if item = first then first :: rest
      else first :: add item rest

/-- Adds the items one after the other. -/
def addAll (items set : List κ) : List κ :=
  items.foldl (fun set item => add item set) set

/-- The items given, ascending and without repetition. -/
def ofItems (items : List κ) : List κ :=
  addAll items []

end TemporalMonitor.Ordered
