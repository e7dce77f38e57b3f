import TemporalMonitor.Error
import TemporalMonitor.Predicate.Bindings
import TemporalMonitor.Regex.Basic
import TemporalMonitor.Value.Compare

/-!
Tests on messages.

A test may also read messages bound to names. While not all of them are bound, partial evaluation
says what is known already.
-/

namespace TemporalMonitor

/-- Operators between a field and an operand. -/
inductive Comparison where
  | eq
  | ne
  | lt
  | le
  | gt
  | ge
  deriving DecidableEq, Repr

/-- Equality is loose, and values that are not ordered are neither less nor greater. -/
def Comparison.holds (op : Comparison) (a b : Value) : Bool :=
  match op with
  | eq => a.looselyEquals b
  | ne => !a.looselyEquals b
  | lt => a.compare b == some .lt
  | le => a.compare b == some .lt || a.compare b == some .eq
  | gt => a.compare b == some .gt
  | ge => a.compare b == some .gt || a.compare b == some .eq

/-- The right-hand side of a comparison: a constant, or a field of a bound message. -/
inductive Operand where
  | const (value : Value)
  | field (name path : String)

/-- A test on a message. -/
inductive Predicate where
  | always
  | compare (path : String) (op : Comparison) (operand : Operand)
  | matching (path : String) (regex : Regex)
  | all (tests : List Predicate)
  | any (tests : List Predicate)
  | not (test : Predicate)
  /-- A test supplied by the user, which may crash, and the names it says that it reads. -/
  | custom (reads : List String) (run : Message → Bindings → Except Crash Bool)

namespace Predicate

/-- A text field that contains a match of the expression. -/
def ofRegex (path expression : String) : Except ValidationError Predicate :=
  match Regex.parse expression with
  | .ok regex => .ok (matching path regex)
  | .error error =>
      .error (.invalidPredicate ("regex for '" ++ expression ++ "': " ++ error.message))

/-- The value of an operand, if it has one. -/
def operandValue? (operand : Operand) (bindings : Bindings) : Option Value :=
  match operand with
  | .const value => some value
  | .field name path => (bindings.get? name).bind fun message => message.get? path

/-- A comparison with something that is not there fails. -/
def comparisonHolds (path : String) (op : Comparison) (operand : Operand) (message : Message)
    (bindings : Bindings) : Bool :=
  match message.get? path, operandValue? operand bindings with
  | some left, some right => op.holds left right
  | _, _ => false

def regexHolds (path : String) (regex : Regex) (message : Message) : Bool :=
  ((message.get? path).bind Value.string?).any regex.isMatch

mutual

/-- Tests of a list are tried in order, and no more of them than needed. -/
def test (message : Message) (bindings : Bindings) : Predicate → Except Crash Bool
  | always => .ok true
  | compare path op operand => .ok (comparisonHolds path op operand message bindings)
  | matching path regex => .ok (regexHolds path regex message)
  | all tests => testAll message bindings tests
  | any tests => testAny message bindings tests
  | not inner =>
      match test message bindings inner with
      | .ok value => .ok (!value)
      | .error crash => .error crash
  | custom _ run => run message bindings

def testAll (message : Message) (bindings : Bindings) : List Predicate → Except Crash Bool
  | [] => .ok true
  | first :: rest =>
      match test message bindings first with
      | .ok true => testAll message bindings rest
      | .ok false => .ok false
      | .error crash => .error crash

def testAny (message : Message) (bindings : Bindings) : List Predicate → Except Crash Bool
  | [] => .ok false
  | first :: rest =>
      match test message bindings first with
      | .ok true => .ok true
      | .ok false => testAny message bindings rest
      | .error crash => .error crash

end

/-- The names of one list and then the new ones of another. -/
def merge (names more : List String) : List String :=
  more.foldl (fun names name => if names.contains name then names else names ++ [name]) names

mutual

/-- The names that a test reads. -/
def references : Predicate → List String
  | always => []
  | compare _ _ (.const _) => []
  | compare _ _ (.field name _) => [name]
  | matching _ _ => []
  | all tests => referencesOf [] tests
  | any tests => referencesOf [] tests
  | not inner => references inner
  | custom reads _ => reads

/-- The names in order of appearance, each of them once. -/
def referencesOf (seen : List String) : List Predicate → List String
  | [] => seen
  | first :: rest => referencesOf (merge seen (references first)) rest

end

/-- Unknown as long as one of the names given is not bound. -/
def whenBound (names : List String) (bindings : Bindings) (result : Except Crash Bool) :
    Except Crash (Option Bool) :=
  if names.any fun name => !bindings.contains name then .ok none
  else result.map some

mutual

/-- The result, if it is the same whatever the names that are not bound yet stand for. -/
def testPartial (message : Message) (bindings : Bindings) :
    Predicate → Except Crash (Option Bool)
  | always => .ok (some true)
  | compare path op (.const value) =>
      .ok (some (comparisonHolds path op (.const value) message bindings))
  | compare path op (.field name field) =>
      if bindings.contains name then
        .ok (some (comparisonHolds path op (.field name field) message bindings))
      else if (message.get? path).isSome then .ok none
      else .ok (some false)
  | matching path regex => .ok (some (regexHolds path regex message))
  | all tests => testPartialAll message bindings false tests
  | any tests => testPartialAny message bindings false tests
  | not inner =>
      match testPartial message bindings inner with
      | .ok value => .ok (value.map Bool.not)
      | .error crash => .error crash
  | custom reads run => whenBound reads bindings (run message bindings)

/-- One failure decides a conjunction, even after an unknown result. -/
def testPartialAll (message : Message) (bindings : Bindings) (isUnknown : Bool) :
    List Predicate → Except Crash (Option Bool)
  | [] => .ok (if isUnknown then none else some true)
  | first :: rest =>
      match testPartial message bindings first with
      | .ok (some false) => .ok (some false)
      | .ok (some true) => testPartialAll message bindings isUnknown rest
      | .ok none => testPartialAll message bindings true rest
      | .error crash => .error crash

/-- One success decides a disjunction, even after an unknown result. -/
def testPartialAny (message : Message) (bindings : Bindings) (isUnknown : Bool) :
    List Predicate → Except Crash (Option Bool)
  | [] => .ok (if isUnknown then none else some false)
  | first :: rest =>
      match testPartial message bindings first with
      | .ok (some true) => .ok (some true)
      | .ok (some false) => testPartialAny message bindings isUnknown rest
      | .ok none => testPartialAny message bindings true rest
      | .error crash => .error crash

end

end Predicate

end TemporalMonitor
