import TemporalMonitor.Text.CharSet
import TemporalMonitor.Text.Digits

/-!
Tables of characters as text.

A table of labels gives the code points in order, as runs of code points that share a label: the
size of the run, then the label. A table of members gives the distances between the code points at
which membership changes.
-/

namespace TemporalMonitor.Unicode

/-- Consecutive code points that share a label. -/
structure Run where
  size : Nat
  label : String
  deriving DecidableEq, Repr

/-- The parts of a text between blanks and line ends. -/
def words (text : String) : List (List Char) :=
  let split := fun (c : Char) (words : List (List Char)) =>
    if c == ' ' || c == '\n' then [] :: words
    else match words with
      | word :: rest => (c :: word) :: rest
      | [] => [[c]]
  (text.toList.foldr split []).filter (! ·.isEmpty)

def Run.ofWord (word : List Char) : Run where
  size := Text.decimalValue (word.takeWhile Char.isDigit)
  label := String.ofList (word.dropWhile Char.isDigit)

def readRuns (text : String) : List Run :=
  (words text).map Run.ofWord

/-- The code points in the runs whose label is accepted, when the first run begins at `start`. -/
def selectFrom (accepts : String → Bool) : Nat → List Run → List CharRange
  | _, [] => []
  | start, run :: rest =>
      let others := selectFrom accepts (start + run.size) rest
      if accepts run.label then ⟨start, start + run.size - 1⟩ :: others else others

def select (accepts : String → Bool) (runs : List Run) : CharSet :=
  .ofRanges (selectFrom accepts 0 runs)

/-- The code points at which membership changes, given by the distances between them. -/
def changesFrom : Nat → List Nat → List Nat
  | _, [] => []
  | start, distance :: rest => (start + distance) :: changesFrom (start + distance) rest

def ofDistances (text : String) : CharSet :=
  .ofRanges (CharSet.ofChanges (changesFrom 0 ((words text).map Text.decimalValue)))

/-- The entry that has the given name among its names. -/
def named? {α : Type} (name : String) (table : List (List String × α)) : Option α :=
  (table.find? fun entry => entry.1.contains name).map Prod.snd

end TemporalMonitor.Unicode
