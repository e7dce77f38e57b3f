import TemporalMonitor.Text.CharSet

/-!
Ranges of characters as sequences of ranges of bytes in UTF-8.

Every range of characters falls into ranges whose characters are exactly the combinations of bytes
of a sequence of byte ranges.
-/

namespace TemporalMonitor.Text

structure ByteRange where
  low : Nat
  high : Nat
  deriving DecidableEq, Repr

/-- The bytes of a code point. -/
def utf8Bytes (code : Nat) : List Nat :=
  if code < 0x80 then [code]
  else if code < 0x800 then [0xC0 + code / 0x40, 0x80 + code % 0x40]
  else if code < 0x10000 then
    [0xE0 + code / 0x1000, 0x80 + code / 0x40 % 0x40, 0x80 + code % 0x40]
  else
    [0xF0 + code / 0x40000, 0x80 + code / 0x1000 % 0x40, 0x80 + code / 0x40 % 0x40,
      0x80 + code % 0x40]

def textBytes (text : List Char) : List Nat :=
  text.flatMap fun c => utf8Bytes c.toNat

/-- Divides a range after the code point `last`, if both parts have members. -/
def divideAfter? (last : Nat) (range : CharRange) : Option (CharRange × CharRange) :=
  if range.low ≤ last ∧ last < range.high then
    some (⟨range.low, last⟩, ⟨last + 1, range.high⟩)
  else none

/-- Divides a range whose ends differ above their last `count` groups of six bits, unless it has all
that these groups can be. -/
def divideAligned? (count : Nat) (range : CharRange) : Option (CharRange × CharRange) :=
  let block := Nat.pow 0x40 count
  if range.low / block ≠ range.high / block then
    if range.low % block ≠ 0 then divideAfter? (range.low / block * block + block - 1) range
    else if range.high % block ≠ block - 1 then
      divideAfter? (range.high / block * block - 1) range
    else none
  else none

/-- Divides a range that is not yet the range of one sequence. -/
def divide? (range : CharRange) : Option (CharRange × CharRange) :=
  if range.low < 0xE000 ∧ 0xD7FF < range.high then
    some (⟨range.low, 0xD7FF⟩, ⟨0xE000, range.high⟩)
  else
    ([0x7F, 0x7FF, 0xFFFF].findSome? fun last => divideAfter? last range).orElse fun _ =>
      if range.high < 0x80 then none
      else [1, 2, 3].findSome? fun count => divideAligned? count range

def byteRanges (range : CharRange) : List ByteRange :=
  ((utf8Bytes range.low).zip (utf8Bytes range.high)).map fun (low, high) => ⟨low, high⟩

/-- The sequences of the ranges given, in order. Ranges without members have none. -/
def sequencesWithin : Nat → List CharRange → List (List ByteRange)
  | 0, _ | _, [] => []
  | fuel + 1, range :: rest =>
      if range.high < range.low then sequencesWithin fuel rest
      else match divide? range with
        | some (first, second) => sequencesWithin fuel (first :: second :: rest)
        | none => byteRanges range :: sequencesWithin fuel rest

/-- No range falls into more than a hundred pieces. -/
def sequences (set : CharSet) : List (List ByteRange) :=
  set.ranges.toList.flatMap fun range => sequencesWithin 200 [range]

end TemporalMonitor.Text
