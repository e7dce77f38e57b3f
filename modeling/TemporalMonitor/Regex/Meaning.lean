import TemporalMonitor.Regex.Expr
import TemporalMonitor.Regex.Pattern
import TemporalMonitor.Unicode.CaseFold

/-!
What patterns mean.

Patterns are about characters unless a flag says that they are about bytes. Then they still must not
match anything but whole characters, so classes have only ASCII characters and cannot be negated.
-/

namespace TemporalMonitor.Regex

/-- What the flags decide. -/
structure Flags where
  caseless : Bool := false
  multiLine : Bool := false
  dotAll : Bool := false
  swapGreed : Bool := false
  unicode : Bool := true
  crlf : Bool := false
  deriving DecidableEq, Repr

namespace Flags

def set (flags : Flags) (flag : Flag) (value : Bool) : Flags :=
  match flag with
  | .caseless => { flags with caseless := value }
  | .multiLine => { flags with multiLine := value }
  | .dotAll => { flags with dotAll := value }
  | .swapGreed => { flags with swapGreed := value }
  | .unicode => { flags with unicode := value }
  | .crlf => { flags with crlf := value }
  | .ignoreSpace => flags

def change (flags : Flags) (changes : FlagChanges) : Flags :=
  changes.foldl (fun flags (flag, value) => flags.set flag value) flags

/-- Without regard to case, a set has all characters that differ only in case from its members. -/
def fold (flags : Flags) (set : CharSet) : CharSet :=
  if !flags.caseless then set
  else if flags.unicode then Unicode.foldCase set
  else Unicode.foldAsciiCase set

/-- Case is disregarded first, and then the class is negated. -/
def finish? (flags : Flags) (negated : Bool) (set : CharSet) : Option CharSet :=
  let folded := flags.fold set
  if negated then
    if flags.unicode then some folded.negate else none
  else some folded

/-- A byte must be an ASCII character. -/
def literal? (flags : Flags) (literal : Literal) : Option Char :=
  if !flags.unicode && literal.isByte && 0x80 ≤ literal.char.toNat then none
  else some literal.char

/-- A literal in a class of bytes must be an ASCII character. -/
def member? (flags : Flags) (literal : Literal) : Option Char :=
  if !flags.unicode && 0x80 ≤ literal.char.toNat then none else some literal.char

end Flags

def ofAsciiRanges (ranges : List (Char × Char)) : CharSet :=
  .ofRanges (ranges.map fun (low, high) => ⟨low.toNat, high.toNat⟩)

def Shorthand.toSet (flags : Flags) : Shorthand → CharSet
  | digit => if flags.unicode then Unicode.decimalDigits else .range '0' '9'
  | space => if flags.unicode then Unicode.whiteSpace else ofAsciiRanges [('\t', '\r'), (' ', ' ')]
  | word =>
      if flags.unicode then Unicode.wordCharacters
      else ofAsciiRanges [('0', '9'), ('A', 'Z'), ('_', '_'), ('a', 'z')]

/-- These classes have both cases of every letter as it is. -/
def shorthandSet? (flags : Flags) (kind : Shorthand) (negated : Bool) : Option CharSet :=
  if negated then
    if flags.unicode then some (kind.toSet flags).negate else none
  else some (kind.toSet flags)

def propertySet? (flags : Flags) (query : Unicode.Query) (negated : Bool) : Option CharSet :=
  if flags.unicode then query.find?.bind (flags.finish? negated) else none

def SetOp.apply (a b : CharSet) : SetOp → CharSet
  | inter => a.inter b
  | diff => a.diff b
  | symmetric => a.symmetric b

mutual

/-- The characters of a class. Case is disregarded before classes are combined. -/
def ClassSet.toSet? (flags : Flags) : ClassSet → Option CharSet
  | nothing => some .empty
  | literal l => do some (.single (← flags.member? l))
  | range low high => do some (.range (← flags.member? low) (← flags.member? high))
  | ascii ranges negated => flags.finish? negated (ofAsciiRanges ranges)
  | shorthand kind negated => shorthandSet? flags kind negated
  | property query negated => propertySet? flags query negated
  | bracketed body negated => do flags.finish? negated (← body.toSet? flags)
  | union items => do some (.unions (← ClassSet.toSets? flags items))
  | combined op left right => do
      let left ← left.toSet? flags
      let right ← right.toSet? flags
      some (op.apply (flags.fold left) (flags.fold right))

def ClassSet.toSets? (flags : Flags) : List ClassSet → Option (List CharSet)
  | [] => some []
  | item :: rest => do
      let set ← item.toSet? flags
      let sets ← ClassSet.toSets? flags rest
      some (set :: sets)

end

def Assertion.toPlace (flags : Flags) : Assertion → Place
  | lineStart =>
      if !flags.multiLine then .textStart else if flags.crlf then .anyLineStart else .lineStart
  | lineEnd =>
      if !flags.multiLine then .textEnd else if flags.crlf then .anyLineEnd else .lineEnd
  | textStart => .textStart
  | textEnd => .textEnd
  | wordBoundary => .word .boundary !flags.unicode
  | noWordBoundary => .word .noBoundary !flags.unicode
  | wordStart => .word .start !flags.unicode
  | wordEnd => .word .finish !flags.unicode
  | noWordBefore => .word .noWordBefore !flags.unicode
  | noWordAfter => .word .noWordAfter !flags.unicode

/-- A dot stands for any character but the end of a line, unless the flags say otherwise. -/
def dotSet? (flags : Flags) : Option CharSet :=
  if !flags.unicode then none
  else if flags.dotAll then some .everything
  else if flags.crlf then some (CharSet.ofCodes ['\n'.toNat, '\r'.toNat]).negate
  else some (CharSet.single '\n').negate

mutual

/-- The expression that a pattern stands for, and the flags after it. Flags that change inside a
group are as before after it. -/
def Pattern.toExpr? (flags : Flags) : Pattern → Option (Expr × Flags)
  | empty => some (.empty, flags)
  | .flags changes => some (.empty, flags.change changes)
  | literal l => do
      let c ← flags.literal? l
      some (.ofSet (flags.fold (.single c)), flags)
  | dot => do some (.ofSet (← dotSet? flags), flags)
  | assertion kind => some (.look (kind.toPlace flags), flags)
  | shorthand kind negated => do some (.ofSet (← shorthandSet? flags kind negated), flags)
  | property query negated => do some (.ofSet (← propertySet? flags query negated), flags)
  | bracketed body negated => do
      some (.ofSet (← flags.finish? negated (← body.toSet? flags)), flags)
  | repeated body least most isGreedy => do
      let (expr, flags) ← body.toExpr? flags
      some (expr.times least most (isGreedy != flags.swapGreed), flags)
  | group (.capture index) body => do
      let (expr, _) ← body.toExpr? flags
      some (.capture index expr, flags)
  | group (.plain changes) body => do
      let (expr, _) ← body.toExpr? (flags.change changes)
      some (expr, flags)
  | alternation branches => do
      let (exprs, flags) ← Pattern.toExprs? flags [] branches
      some (.choice exprs, flags)
  | concat parts => do
      let (exprs, flags) ← Pattern.toExprs? flags [] parts
      some (.sequence exprs, flags)

/-- The expressions of several patterns, one after the other, after those already there, the last of
which stands first. -/
def Pattern.toExprs? (flags : Flags) (before : List Expr) :
    List Pattern → Option (List Expr × Flags)
  | [] => some (before.reverse, flags)
  | pattern :: rest => do
      let (expr, flags) ← pattern.toExpr? flags
      Pattern.toExprs? flags (expr :: before) rest

end

end TemporalMonitor.Regex
