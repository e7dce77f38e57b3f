/-!
Digits in base ten and in base sixteen, and the numbers they stand for.
-/

namespace TemporalMonitor.Text

/-- The number that decimal digits stand for. -/
def decimalValue (digits : List Char) : Nat :=
  digits.foldl (fun value digit => value * 10 + (digit.toNat - '0'.toNat)) 0

def hexValue? (c : Char) : Option Nat :=
  if '0' ≤ c && c ≤ '9' then some (c.toNat - '0'.toNat)
  else if 'a' ≤ c && c ≤ 'f' then some (c.toNat - 'a'.toNat + 10)
  else if 'A' ≤ c && c ≤ 'F' then some (c.toNat - 'A'.toNat + 10)
  else none

/-- The number that digits in base sixteen stand for. -/
def hexNumber? (digits : List Char) : Option Nat := do
  let values ← digits.mapM hexValue?
  some (values.foldl (fun number value => number * 16 + value) 0)

end TemporalMonitor.Text
