import TemporalMonitor.Text.CharSet

/-!
Regular expressions as they are matched.

Flags have been applied, classes are sets of characters, and the functions that build expressions
keep them simple: no sequence inside a sequence, no neighbouring literals, no alternatives inside
alternatives.
-/

namespace TemporalMonitor.Regex

/-- Conditions on the characters around a place: which of them belong to words. -/
inductive WordPlace where
  | boundary
  | noBoundary
  | start
  | finish
  | noWordBefore
  | noWordAfter
  deriving DecidableEq, Repr

/-- Conditions on the place between two characters. -/
inductive Place where
  | textStart
  | textEnd
  | lineStart
  | lineEnd
  /-- Lines may also end with a carriage return, and a carriage return before a line feed belongs to
  it. -/
  | anyLineStart
  | anyLineEnd
  | word (place : WordPlace) (isAscii : Bool)
  deriving DecidableEq, Repr

inductive Expr where
  | empty
  | literal (text : List Char)
  | set (members : CharSet)
  | look (place : Place)
  | capture (index : Nat) (body : Expr)
  /-- At least `least` times, and at most `most` times if that is given. -/
  | repeated (body : Expr) (least : Nat) (most : Option Nat) (isGreedy : Bool)
  | concat (parts : List Expr)
  | alternation (branches : List Expr)
  deriving BEq, Repr

namespace Expr

/-- The number of bytes of a code point. -/
def codeSize (code : Nat) : Nat :=
  if code < 0x80 then 1 else if code < 0x800 then 2 else if code < 0x10000 then 3 else 4

def textSize (text : List Char) : Nat :=
  text.foldl (fun size c => size + codeSize c.toNat) 0

/-- The sum of two sizes, if both are known. -/
def addSizes (a b : Option Nat) : Option Nat :=
  match a, b with
  | some a, some b => some (a + b)
  | _, _ => none

mutual

/-- The least number of bytes that a match has. An expression without matches has none. -/
def minSize : Expr → Option Nat
  | empty | look _ => some 0
  | literal text => some (textSize text)
  | set members => members.ranges[0]?.map fun range => codeSize range.low
  | capture _ body => minSize body
  | repeated body least _ _ => (minSize body).map (· * least)
  | concat parts => minSizeConcat parts
  | alternation branches => minSizeAlternation branches

def minSizeConcat : List Expr → Option Nat
  | [] => some 0
  | part :: rest => addSizes (minSize part) (minSizeConcat rest)

def minSizeAlternation : List Expr → Option Nat
  | [] => none
  | [branch] => minSize branch
  | branch :: rest =>
      match minSize branch, minSizeAlternation rest with
      | some a, some b => some (min a b)
      | _, _ => none

end

mutual

/-- The largest number of bytes that a match has, if there is one. -/
def maxSize : Expr → Option Nat
  | empty | look _ => some 0
  | literal text => some (textSize text)
  | set members => members.ranges.back?.map fun range => codeSize range.high
  | capture _ body => maxSize body
  | repeated body _ most _ =>
      match most, maxSize body with
      | some most, some size => some (size * most)
      | _, _ => none
  | concat parts => maxSizeConcat parts
  | alternation branches => maxSizeAlternation branches

def maxSizeConcat : List Expr → Option Nat
  | [] => some 0
  | part :: rest => addSizes (maxSize part) (maxSizeConcat rest)

def maxSizeAlternation : List Expr → Option Nat
  | [] => none
  | [branch] => maxSize branch
  | branch :: rest =>
      match maxSize branch, maxSizeAlternation rest with
      | some a, some b => some (max a b)
      | _, _ => none

end

mutual

/-- Every match begins where the place says, and this shows before any character is read. -/
def beginsAt (place : Place) : Expr → Bool
  | look here => here == place
  | capture _ body => beginsAt place body
  | repeated body least _ _ => 0 < least && beginsAt place body
  | concat parts => concatBeginsAt place parts
  | alternation branches => !branches.isEmpty && allBeginAt place branches
  | empty | literal _ | set _ => false

def concatBeginsAt (place : Place) : List Expr → Bool
  | [] => false
  | part :: rest => beginsAt place part || (maxSize part == some 0 && concatBeginsAt place rest)

def allBeginAt (place : Place) : List Expr → Bool
  | [] => true
  | branch :: rest => beginsAt place branch && allBeginAt place rest

end

mutual

/-- Every match ends where the place says, and no character is read after that shows. -/
def endsAt (place : Place) : Expr → Bool
  | look here => here == place
  | capture _ body => endsAt place body
  | repeated body least _ _ => 0 < least && endsAt place body
  | concat parts => (concatEndsAt place parts).1
  | alternation branches => !branches.isEmpty && allEndAt place branches
  | empty | literal _ | set _ => false

/-- Whether one of the parts ends at the place and all parts after it match no character, and whether
that is so of all parts. -/
def concatEndsAt (place : Place) : List Expr → Bool × Bool
  | [] => (false, true)
  | part :: rest =>
      let (ends, isVoid) := concatEndsAt place rest
      (ends || (isVoid && endsAt place part), isVoid && maxSize part == some 0)

def allEndAt (place : Place) : List Expr → Bool
  | [] => true
  | branch :: rest => endsAt place branch && allEndAt place rest

end

/-- A set with one member is a literal. -/
def ofSet (members : CharSet) : Expr :=
  match members.single? with
  | some c => literal [c]
  | none => set members

def ofChar (c : Char) : Expr := literal [c]

/-- Puts a part in front of a sequence. -/
def prepend (part : Expr) (after : List Expr) : List Expr :=
  match part, after with
  | empty, _ => after
  | literal text, literal later :: rest => literal (text ++ later) :: rest
  | _, _ => part :: after

def partsOf : Expr → List Expr
  | concat parts => parts
  | expr => [expr]

def sequence (parts : List Expr) : Expr :=
  match (parts.flatMap partsOf).foldr prepend [] with
  | [] => empty
  | [part] => part
  | parts => concat parts

def branchesOf : Expr → List Expr
  | alternation branches => branches
  | expr => [expr]

/-- The characters of expressions that are all literals of one character. -/
def singleChars? (branches : List Expr) : Option (List Char) :=
  branches.mapM fun branch => match branch with
    | literal [c] => some c
    | _ => none

/-- The sets of expressions that are all sets. -/
def charSets? (branches : List Expr) : Option (List CharSet) :=
  branches.mapM fun branch => match branch with
    | set members => some members
    | _ => none

/-- The parts of expressions that are all sequences. -/
def sequences? (branches : List Expr) : Option (List (List Expr)) :=
  branches.mapM fun branch => match branch with
    | concat parts => some parts
    | _ => none

/-- How many parts two sequences have in common at their beginning. -/
def commonLength : List Expr → List Expr → Nat
  | a :: as, b :: bs => if a == b then commonLength as bs + 1 else 0
  | _, _ => 0

/-- How many parts all the sequences have in common at their beginning. -/
def sharedLength (first : List Expr) (others : List (List Expr)) : Nat :=
  others.foldl (fun length other => min length (commonLength first other)) first.length

/-- One of the branches, in order of preference. What all branches begin with is taken out. -/
def choiceWithin : Nat → List Expr → Expr
  | fuel, branches =>
    match branches.flatMap branchesOf with
    | [] => set .empty
    | [branch] => branch
    | branches =>
      match singleChars? branches, charSets? branches with
      | some chars, _ => ofSet (.ofCodes (chars.map Char.toNat))
      | none, some sets => ofSet (.unions sets)
      | none, none =>
        match fuel, sequences? branches with
        | fuel + 1, some (first :: others) =>
          let shared := sharedLength first others
          if shared = 0 then alternation branches
          else
            let tails := (first :: others).map fun parts => sequence (parts.drop shared)
            sequence (first.take shared ++ [choiceWithin fuel tails])
        | _, _ => alternation branches

def choice (branches : List Expr) : Expr :=
  choiceWithin branches.length branches

/-- Repeating what matches no character more than once makes no difference. -/
def times (body : Expr) (least : Nat) (most : Option Nat) (isGreedy : Bool) : Expr :=
  let isVoid := maxSize body == some 0
  let least := if isVoid then min least 1 else least
  let most := if isVoid then some (min (most.getD 1) 1) else most
  if least = 0 ∧ most = some 0 then empty
  else if least = 1 ∧ most = some 1 then body
  else repeated body least most isGreedy

end Expr

end TemporalMonitor.Regex
