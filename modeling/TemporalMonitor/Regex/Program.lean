import TemporalMonitor.Regex.Expr
import TemporalMonitor.Unicode.Binary

/-!
Searching a text for a match.

An expression becomes a program, whose instructions are followed in all possible ways at once. So
the time of a search is at most proportional to the length of the text times the length of the
program.
-/

namespace TemporalMonitor.Regex

inductive Instruction where
  /-- Reads a member of the set. -/
  | read (members : CharSet) (next : Nat)
  | look (place : Place) (next : Nat)
  | fork (first second : Nat)
  | accept

abbrev Program := Array Instruction

namespace Program

/-- A program under construction, and where it is entered. Programs are made from their end. -/
structure Draft where
  code : Program
  entry : Nat

def Draft.push (instruction : Nat → Instruction) : Draft → Draft
  | ⟨code, entry⟩ =>
      let here := code.size
      ⟨code.push (instruction entry), here⟩

/-- Applies a step a number of times. -/
def times (step : Draft → Draft) : Nat → Draft → Draft
  | 0, draft => draft
  | count + 1, draft => times step count (step draft)

/-- Rounds of the body before the entry of the draft. The program is entered before the first round;
`isOptional` says that it may also be entered after it. -/
def loop (isOptional : Bool) (body : Draft → Draft) : Draft → Draft
  | ⟨code, entry⟩ =>
      let head := code.size
      match body ⟨code.push (.fork head entry), head⟩ with
      | ⟨code, inner⟩ =>
          ⟨code.setIfInBounds head (.fork inner entry), if isOptional then head else inner⟩

/-- One round of the body before the entry of the draft, or none and then what follows at
`finish`. -/
def option (body : Draft → Draft) (finish : Nat) (draft : Draft) : Draft :=
  Draft.push (fun entry => .fork entry finish) (body draft)

mutual

/-- Puts the expression before the entry of the draft. -/
def before : Expr → Draft → Draft
  | .empty, draft => draft
  | .literal text, draft =>
      text.foldr (fun c draft => Draft.push (.read (.single c)) draft) draft
  | .set members, draft => Draft.push (.read members) draft
  | .look place, draft => Draft.push (.look place) draft
  | .capture _ body, draft => before body draft
  | .repeated body least none _, draft =>
      times (before body) (least - 1) (loop (least == 0) (before body) draft)
  | .repeated body least (some most) _, ⟨code, entry⟩ =>
      times (before body) least (times (option (before body) entry) (most - least) ⟨code, entry⟩)
  | .concat parts, draft => beforeAll parts draft
  | .alternation branches, draft => beforeAny branches draft

def beforeAll : List Expr → Draft → Draft
  | [], draft => draft
  | part :: rest, draft => before part (beforeAll rest draft)

/-- Puts alternatives before the entry of the draft. -/
def beforeAny : List Expr → Draft → Draft
  | [], draft => Draft.push (.read .empty) draft
  | [branch], draft => before branch draft
  | branch :: rest, ⟨code, entry⟩ =>
      match beforeAny rest ⟨code, entry⟩ with
      | ⟨code, others⟩ =>
          Draft.push (fun first => .fork first others) (before branch ⟨code, entry⟩)

end

end Program

/-- A program with the place where it is entered. -/
structure Matcher where
  code : Program
  entry : Nat

def Matcher.ofExpr (expr : Expr) : Matcher :=
  let draft := Program.before expr ⟨#[.accept], 0⟩
  ⟨draft.code, draft.entry⟩

/-- Words are made of letters and the like of all scripts, or of ASCII characters only. -/
def isWord (isAscii : Bool) (c : Char) : Bool :=
  if isAscii then c.isAlphanum || c == '_' else Unicode.wordCharacters.has c

def WordPlace.holds (isWordBefore isWordAfter : Bool) : WordPlace → Bool
  | boundary => isWordBefore != isWordAfter
  | noBoundary => isWordBefore == isWordAfter
  | start => !isWordBefore && isWordAfter
  | finish => isWordBefore && !isWordAfter
  | noWordBefore => !isWordBefore
  | noWordAfter => !isWordAfter

/-- Whether the place between two characters is as described; there is no character before the start
of the text and after its end. -/
def Place.holds (left right : Option Char) : Place → Bool
  | textStart => left.isNone
  | textEnd => right.isNone
  | lineStart => left.isNone || left == some '\n'
  | lineEnd => right.isNone || right == some '\n'
  | anyLineStart => left.isNone || left == some '\n' || (left == some '\r' && right != some '\n')
  | anyLineEnd => right.isNone || right == some '\r' || (right == some '\n' && left != some '\r')
  | word place isAscii => place.holds (left.any (isWord isAscii)) (right.any (isWord isAscii))

/-- The instructions that wait for a character, and those that were reached at the current place. -/
structure Threads where
  waiting : List Nat
  /-- For each instruction, the last place at which it was reached; places count from one. -/
  reached : Array Nat
  isAccepted : Bool

namespace Matcher

/-- Follows the instructions from those given until all that wait for a character are known. -/
def follow (matcher : Matcher) (place : Nat) (left right : Option Char) :
    Nat → List Nat → Threads → Threads
  | 0, _, threads => threads
  | _, [], threads => threads
  | fuel + 1, index :: rest, threads =>
      if threads.isAccepted || threads.reached[index]? == some place then
        matcher.follow place left right fuel rest threads
      else
        let threads := { threads with reached := threads.reached.setIfInBounds index place }
        let proceed := matcher.follow place left right fuel
        match matcher.code[index]? with
        | some (.read _ _) => proceed rest { threads with waiting := index :: threads.waiting }
        | some (.look condition next) =>
            if condition.holds left right then proceed (next :: rest) threads
            else proceed rest threads
        | some (.fork first second) => proceed (first :: second :: rest) threads
        | some .accept => { threads with isAccepted := true }
        | none => proceed rest threads

/-- The instructions after those that wait for the given character. -/
def advance (matcher : Matcher) (c : Char) (waiting : List Nat) : List Nat :=
  waiting.filterMap fun (index : Nat) =>
    match matcher.code[index]? with
    | some (.read members next) => if members.has c then some next else none
    | _ => none

/-- A match may begin at any place. -/
def search (matcher : Matcher) (place : Nat) (left : Option Char) (current : List Nat)
    (reached : Array Nat) : List Char → Bool
  | [] =>
      let starts := matcher.entry :: current
      let fuel := starts.length + 2 * matcher.code.size
      (matcher.follow place left none fuel starts ⟨[], reached, false⟩).isAccepted
  | c :: rest =>
      let starts := matcher.entry :: current
      let fuel := starts.length + 2 * matcher.code.size
      let threads := matcher.follow place left (some c) fuel starts ⟨[], reached, false⟩
      if threads.isAccepted then true
      else
        matcher.search (place + 1) (some c) (matcher.advance c threads.waiting) threads.reached rest

/-- Some part of the text matches. -/
def isMatch (matcher : Matcher) (text : String) : Bool :=
  matcher.search 1 none [] (Array.replicate matcher.code.size 0) text.toList

end Matcher

end TemporalMonitor.Regex
