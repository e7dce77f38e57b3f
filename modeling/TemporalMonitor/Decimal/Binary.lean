/-!
Doubles as exact binary fractions.
-/

namespace TemporalMonitor.Decimal

/-- The positive number `mantissa * 2 ^ exponent`. The double below a `narrow` one is only half as
far away as the double above it. -/
structure Binary where
  mantissa : Nat
  exponent : Int
  narrow : Bool
  deriving DecidableEq, Repr

/-- What a double stands for, apart from its sign. -/
inductive Magnitude where
  | notNumber
  | infinite
  | zero
  | finite (value : Binary)
  deriving DecidableEq, Repr

/-- Negative zero is negative as well. -/
def isNegative (x : Float) : Bool :=
  Nat.pow 2 63 ≤ x.toBits.toNat

def magnitude (x : Float) : Magnitude :=
  let bits := x.toBits.toNat
  let scale : Nat := bits / Nat.pow 2 52 % Nat.pow 2 11
  let fraction := bits % Nat.pow 2 52
  if scale = 2047 then
    if fraction = 0 then .infinite else .notNumber
  else if scale = 0 then
    if fraction = 0 then .zero else .finite ⟨fraction, -1074, false⟩
  else .finite ⟨fraction + Nat.pow 2 52, (scale : Int) - 1075, fraction = 0 && scale ≠ 1⟩

/-- Doubles in plain use: neither infinite nor undefined. -/
def isFinite (x : Float) : Bool :=
  match magnitude x with
  | .notNumber | .infinite => false
  | .zero | .finite _ => true

end TemporalMonitor.Decimal
