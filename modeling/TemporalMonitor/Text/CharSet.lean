/-!
Sets of characters as ranges of code points.

Surrogates are no characters: the code point after the last one below them is the first one above
them.
-/

namespace TemporalMonitor

/-- The code points from `low` to `high`. -/
structure CharRange where
  low : Nat
  high : Nat
  deriving DecidableEq, Repr

namespace CharRange

def lastCode : Nat := 0x10FFFF

def everything : CharRange := ⟨0, lastCode⟩

def nextCode (code : Nat) : Nat :=
  if code = 0xD7FF then 0xE000 else code + 1

def previousCode (code : Nat) : Nat :=
  if code = 0xE000 then 0xD7FF else code - 1

/-- The range with the given ends, whichever of them comes first. -/
def between (a b : Nat) : CharRange :=
  if a ≤ b then ⟨a, b⟩ else ⟨b, a⟩

def overlap? (a b : CharRange) : Option CharRange :=
  let low := max a.low b.low
  let high := min a.high b.high
  if low ≤ high then some ⟨low, high⟩ else none

/-- Joins a range to the ranges before it, the nearest of which stands first. -/
def join (before : List CharRange) (range : CharRange) : List CharRange :=
  match before with
  | [] => [range]
  | last :: others =>
      if range.low ≤ last.high + 1 then ⟨last.low, max last.high range.high⟩ :: others
      else range :: last :: others

/-- What is left of a range without the ascending ranges given. -/
def minus : List CharRange → CharRange → List CharRange
  | [], range => [range]
  | other :: others, range =>
      if other.high < range.low then minus others range
      else if range.high < other.low then [range]
      else
        let left := if range.low < other.low then [⟨range.low, previousCode other.low⟩] else []
        let right := if other.high < range.high then
          minus others ⟨nextCode other.high, range.high⟩ else []
        left ++ right

/-- The ranges between the ascending ranges given, after the code point `last`. -/
def gapsAfter (last : Nat) : List CharRange → List CharRange
  | [] => if last < lastCode then [⟨nextCode last, lastCode⟩] else []
  | range :: others =>
      between (nextCode last) (previousCode range.low) :: gapsAfter range.high others

end CharRange

/-- A set of characters, as ascending ranges that do not touch. -/
structure CharSet where
  ranges : Array CharRange
  deriving DecidableEq, Repr

namespace CharSet

def empty : CharSet := ⟨#[]⟩

def everything : CharSet := ⟨#[CharRange.everything]⟩

/-- The ranges may come in any order, and may overlap. -/
def ofRanges (ranges : List CharRange) : CharSet :=
  let sorted := ranges.mergeSort fun a b => a.low ≤ b.low
  ⟨(sorted.foldl CharRange.join []).reverse.toArray⟩

def ofCodes (codes : List Nat) : CharSet :=
  ofRanges (codes.map fun code => ⟨code, code⟩)

def range (low high : Char) : CharSet := ⟨#[⟨low.toNat, high.toNat⟩]⟩

def single (c : Char) : CharSet := range c c

/-- Membership changes at each of the ascending code points. -/
def ofChanges : List Nat → List CharRange
  | first :: after :: rest => ⟨first, after - 1⟩ :: ofChanges rest
  | [first] => [⟨first, CharRange.lastCode⟩]
  | [] => []

def isEmpty (set : CharSet) : Bool :=
  set.ranges.isEmpty

/-- Whether one of the ranges from `low` up to but not including `high` holds the code point, found
by halving. -/
def search (ranges : Array CharRange) (code : Nat) : Nat → Nat → Nat → Bool
  | 0, _, _ => false
  | fuel + 1, low, high =>
      let middle := (low + high) / 2
      if low < high then
        match ranges[middle]? with
        | some range =>
            if code < range.low then search ranges code fuel low middle
            else if range.high < code then search ranges code fuel (middle + 1) high
            else true
        | none => false
      else false

def hasCode (set : CharSet) (code : Nat) : Bool :=
  search set.ranges code (set.ranges.size + 1) 0 set.ranges.size

def has (set : CharSet) (c : Char) : Bool :=
  set.hasCode c.toNat

def union (a b : CharSet) : CharSet :=
  if a.isEmpty then b
  else if b.isEmpty then a
  else ofRanges (a.ranges.toList ++ b.ranges.toList)

def unions (sets : List CharSet) : CharSet :=
  ofRanges (sets.flatMap fun set => set.ranges.toList)

def inter (a b : CharSet) : CharSet :=
  ⟨(a.ranges.toList.flatMap fun range => b.ranges.toList.filterMap range.overlap?).toArray⟩

def diff (a b : CharSet) : CharSet :=
  ⟨(a.ranges.toList.flatMap (CharRange.minus b.ranges.toList)).toArray⟩

/-- The characters of exactly one of the two sets. -/
def symmetric (a b : CharSet) : CharSet :=
  (a.union b).diff (a.inter b)

def negate (set : CharSet) : CharSet :=
  match set.ranges.toList with
  | [] => everything
  | first :: rest =>
      let before := if 0 < first.low then [⟨0, CharRange.previousCode first.low⟩] else []
      ⟨(before ++ CharRange.gapsAfter first.high rest).toArray⟩

/-- All characters are ASCII. -/
def isAscii (set : CharSet) : Bool :=
  set.ranges.all fun range => range.high < 0x80

/-- The character of a set with one member. -/
def single? (set : CharSet) : Option Char :=
  match set.ranges.toList with
  | [range] => if range.low = range.high then some (Char.ofNat range.low) else none
  | _ => none

end CharSet

end TemporalMonitor
