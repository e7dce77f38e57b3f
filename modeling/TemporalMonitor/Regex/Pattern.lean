import TemporalMonitor.Unicode.Property

/-!
Regular expressions as they are written.

A pattern keeps what its text says: flags have not been applied yet, and classes are not yet sets.
-/

namespace TemporalMonitor.Regex

/-- A character that stands for itself. One that is given by two digits in base sixteen means a byte
where patterns are not about characters. -/
structure Literal where
  char : Char
  isByte : Bool
  deriving DecidableEq, Repr

/-- Classes with a letter of their own. -/
inductive Shorthand where
  | digit
  | space
  | word
  deriving DecidableEq, Repr

/-- How classes in brackets are combined. -/
inductive SetOp where
  | inter
  | diff
  | symmetric
  deriving DecidableEq, Repr

/-- What stands in brackets. -/
inductive ClassSet where
  | nothing
  | literal (literal : Literal)
  | range (low high : Literal)
  | ascii (ranges : List (Char × Char)) (negated : Bool)
  | shorthand (kind : Shorthand) (negated : Bool)
  | property (query : Unicode.Query) (negated : Bool)
  | bracketed (body : ClassSet) (negated : Bool)
  | union (items : List ClassSet)
  | combined (op : SetOp) (left right : ClassSet)
  deriving Repr

/-- Conditions on a place in the text, before flags decide on their exact meaning. -/
inductive Assertion where
  | lineStart
  | lineEnd
  | textStart
  | textEnd
  | wordBoundary
  | noWordBoundary
  | wordStart
  | wordEnd
  | noWordBefore
  | noWordAfter
  deriving DecidableEq, Repr

/-- The flags that a pattern can switch. -/
inductive Flag where
  | caseless
  | multiLine
  | dotAll
  | swapGreed
  | unicode
  | crlf
  | ignoreSpace
  deriving DecidableEq, Repr

/-- Flags with the value that each of them gets. -/
abbrev FlagChanges := List (Flag × Bool)

inductive GroupKind where
  | capture (index : Nat)
  | plain (changes : FlagChanges)
  deriving DecidableEq, Repr

inductive Pattern where
  | empty
  | flags (changes : FlagChanges)
  | literal (literal : Literal)
  | dot
  | assertion (assertion : Assertion)
  | shorthand (kind : Shorthand) (negated : Bool)
  | property (query : Unicode.Query) (negated : Bool)
  | bracketed (body : ClassSet) (negated : Bool)
  | repeated (body : Pattern) (least : Nat) (most : Option Nat) (isGreedy : Bool)
  | group (kind : GroupKind) (body : Pattern)
  | alternation (branches : List Pattern)
  | concat (parts : List Pattern)
  deriving Repr

end TemporalMonitor.Regex
