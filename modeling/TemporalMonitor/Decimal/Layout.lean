import TemporalMonitor.Decimal.Shortest

/-!
Layouts of doubles as text, and the double nearest to a decimal.
-/

namespace TemporalMonitor.Decimal

/-- The decisions that a number format leaves open. A number whose leading digit stands at a place
from `least` to `most` is written positionally, any other one with an exponent. -/
structure Layout where
  least : Option Int
  most : Option Int
  /-- Whole numbers end in `.0`. -/
  showsPoint : Bool
  /-- Exponents that are not negative start with `+`. -/
  showsPlus : Bool
  tie : Tie

/-- Numbers for people: always positional, and no point in whole numbers. -/
def plain : Layout := ⟨none, none, false, false, .up⟩

/-- Numbers in descriptions of data. -/
def descriptive : Layout := ⟨some (-4), some 15, true, false, .up⟩

def Layout.isPositional (layout : Layout) (place : Int) : Bool :=
  layout.least.all (· ≤ place) && layout.most.all (place ≤ ·)

def zeros (count : Nat) : List Char :=
  List.replicate count '0'

/-- All digits, with the point where it belongs. -/
def Layout.positional (layout : Layout) (digits : List Char) (exponent : Int) : List Char :=
  let place := digits.length + exponent
  if 0 ≤ exponent then
    digits ++ zeros exponent.toNat ++ (if layout.showsPoint then ['.', '0'] else [])
  else if 0 < place then
    digits.take place.toNat ++ '.' :: digits.drop place.toNat
  else '0' :: '.' :: zeros (-place).toNat ++ digits

/-- One digit before the point, and the place of that digit as the exponent. -/
def Layout.scientific (layout : Layout) (digits : List Char) (place : Int) : List Char :=
  let mantissa := match digits with
    | [] => []
    | [digit] => [digit]
    | digit :: rest => digit :: '.' :: rest
  let sign := if place < 0 then ['-'] else if layout.showsPlus then ['+'] else []
  mantissa ++ 'e' :: sign ++ Nat.toDigits 10 place.natAbs

def Layout.finite (layout : Layout) (value : Binary) : List Char :=
  let number := value.shortest layout.tie
  let digits := Nat.toDigits 10 number.digits
  let place := digits.length + number.exponent - 1
  if layout.isPositional place then layout.positional digits number.exponent
  else layout.scientific digits place

def Layout.chars (layout : Layout) (x : Float) : List Char :=
  let sign := if isNegative x then ['-'] else []
  match magnitude x with
  | .notNumber => ['N', 'a', 'N']
  | .infinite => sign ++ ['i', 'n', 'f']
  | .zero => sign ++ (if layout.showsPoint then ['0', '.', '0'] else ['0'])
  | .finite value => sign ++ layout.finite value

def Layout.text (layout : Layout) (x : Float) : String :=
  String.ofList (layout.chars x)

/-- The double nearest to `digits * 10 ^ exponent`. Exponents far outside the range of doubles are
cut off first. -/
def nearest (negative : Bool) (digits : Nat) (exponent : Int) : Float :=
  let size : Int := digitCount digits
  let value :=
    if digits = 0 || size + exponent < -400 then Float.ofNat 0
    else if 400 < size + exponent then Float.ofScientific 1 false 400
    else if 0 ≤ exponent then Float.ofScientific digits false exponent.toNat
    else Float.ofScientific digits true exponent.natAbs
  if negative then -value else value

end TemporalMonitor.Decimal
