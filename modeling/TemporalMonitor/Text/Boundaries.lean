/-!
Sets of code points, written as ascending boundaries.
-/

namespace TemporalMonitor.Text

/-- Membership changes at every point, and no code point below the first is a member. -/
structure Boundaries where
  points : List Nat

def Boundaries.containsFrom : List Nat → Nat → Bool
  | [], _ => false
  | [first], code => first ≤ code
  | first :: last :: rest, code =>
      if code < first then false
      else if code < last then true
      else containsFrom rest code

def Boundaries.contains (set : Boundaries) (code : Nat) : Bool :=
  containsFrom set.points code

end TemporalMonitor.Text
