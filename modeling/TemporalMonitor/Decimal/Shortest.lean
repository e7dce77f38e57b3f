import TemporalMonitor.Decimal.Binary

/-!
The shortest decimal that reads back as a given double.

A decimal reads back as a double if it lies between the midpoints to the two neighbouring doubles;
the midpoints themselves read back as the double whose mantissa is even.
-/

namespace TemporalMonitor.Decimal

/-- Where a value goes that lies exactly half way between two candidates. -/
inductive Tie where
  | toEven
  | up
  deriving DecidableEq, Repr

/-- The number `digits * 10 ^ exponent`. -/
structure Scaled where
  digits : Nat
  exponent : Int
  deriving DecidableEq, Repr

/-- Trailing zeros move into the exponent. -/
def Scaled.trim : Nat → Scaled → Scaled
  | 0, number => number
  | fuel + 1, number =>
      if number.digits ≠ 0 && number.digits % 10 = 0 then
        trim fuel ⟨number.digits / 10, number.exponent + 1⟩
      else number

def digitCount (n : Nat) : Nat :=
  (Nat.toDigits 10 n).length

/-- Comparing `c * 10 ^ place` with `n` quarters of the binary unit is comparing `c * tens` with
`n * units`. -/
structure Grid where
  tens : Nat
  units : Nat

def Binary.grid (value : Binary) (place : Int) : Grid where
  tens := Nat.pow 10 place.toNat * Nat.pow 2 (2 - value.exponent).toNat
  units := Nat.pow 2 (value.exponent - 2).toNat * Nat.pow 10 (-place).toNat

/-- The place of the leading decimal digit. -/
def Binary.leadingPlace (value : Binary) : Int :=
  let scaled := value.mantissa * Nat.pow 10 400 * Nat.pow 2 value.exponent.toNat
  let whole := scaled / Nat.pow 2 (-value.exponent).toNat
  (digitCount whole : Int) - 401

/-- The candidate with last digit at `place`, if one of the two around the value reads back. -/
def Binary.candidate (tie : Tie) (value : Binary) (place : Int) : Option Nat :=
  let grid := value.grid place
  let center := 4 * value.mantissa * grid.units
  let low := (4 * value.mantissa - (if value.narrow then 1 else 2)) * grid.units
  let high := (4 * value.mantissa + 2) * grid.units
  let even := value.mantissa % 2 = 0
  let below := center / grid.tens
  let above := below + 1
  let belowFits := if even then low ≤ below * grid.tens else low < below * grid.tens
  let aboveFits := if even then above * grid.tens ≤ high else above * grid.tens < high
  let toBelow := center - below * grid.tens
  let toAbove := above * grid.tens - center
  if belowFits then
    if aboveFits then
      if toBelow < toAbove then some below
      else if toAbove < toBelow then some above
      else match tie with
        | .up => some above
        | .toEven => if below % 2 = 0 then some below else some above
    else some below
  else if aboveFits then some above
  else none

/-- The fewest digits that read back, and of those the nearest; seventeen digits always suffice. -/
def Binary.shortest (tie : Tie) (value : Binary) : Scaled :=
  let lead := value.leadingPlace
  let found := (List.range 17).findSome? fun (extra : Nat) =>
    (value.candidate tie (lead - extra)).map fun digits => (⟨digits, lead - extra⟩ : Scaled)
  (found.getD ⟨0, 0⟩).trim 20

end TemporalMonitor.Decimal
