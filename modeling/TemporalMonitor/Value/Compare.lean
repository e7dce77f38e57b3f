import TemporalMonitor.Value.Basic

/-!
Comparison of values.
-/

namespace TemporalMonitor.Value

/-- Doubles are unordered if one of them is not a number. -/
def compareFloats (a b : Float) : Option Ordering :=
  if a < b then some .lt
  else if a == b then some .eq
  else if b < a then some .gt
  else none

def compareInts (a b : Int) : Ordering :=
  if a < b then .lt else if a = b then .eq else .gt

def compareStrings (a b : String) : Ordering :=
  if a < b then .lt else if a = b then .eq else .gt

def compareBools : Bool → Bool → Ordering
  | false, true => .lt
  | true, false => .gt
  | _, _ => .eq

/-- Numbers form one domain, in which whole numbers are compared exactly; apart from that only
values of one scalar kind are ordered. -/
def compare (a b : Value) : Option Ordering :=
  match a, b with
  | int a, int b => some (compareInts a.toInt b.toInt)
  | int a, float b => compareFloats (Float.ofInt a.toInt) b
  | float a, int b => compareFloats a (Float.ofInt b.toInt)
  | float a, float b => compareFloats a b
  | bool a, bool b => some (compareBools a b)
  | string a, string b => some (compareStrings a b)
  | null, null => some .eq
  | _, _ => none

mutual

/-- Values of the same kind with the same content. A double that is not a number is the same as
nothing, and the two zeros are the same. -/
def same : Value → Value → Bool
  | bool a, bool b => a == b
  | int a, int b => a == b
  | float a, float b => a == b
  | string a, string b => a == b
  | list a, list b => sameItems a b
  | record a, record b => sameFields a b
  | null, null => true
  | _, _ => false

def sameItems : List Value → List Value → Bool
  | [], [] => true
  | a :: as, b :: bs => same a b && sameItems as bs
  | _, _ => false

def sameFields : List (String × Value) → List (String × Value) → Bool
  | [], [] => true
  | (name, a) :: as, (other, b) :: bs => name == other && same a b && sameFields as bs
  | _, _ => false

end

/-- Equal in the order if the values are ordered, and the same otherwise. -/
def looselyEquals (a b : Value) : Bool :=
  match a.compare b with
  | some order => order == .eq
  | none => a.same b

end TemporalMonitor.Value
