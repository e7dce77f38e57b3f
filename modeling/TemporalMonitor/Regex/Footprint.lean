import Std.Data.HashMap
import TemporalMonitor.Regex.Expr
import TemporalMonitor.Text.Utf8

/-!
How much room an expression takes up, as an automaton that reads bytes.

An expression is refused if its automaton is too large in either direction of reading. The automaton
is not built: only its states are counted, and what they need beyond a fixed size. States are
numbered as they are made, since the sharing of states depends on their numbers.
-/

namespace TemporalMonitor.Regex

/-- The states made so far, and the bytes that they need beyond their fixed size. -/
structure Tally where
  states : Nat
  extra : Nat

namespace Tally

def stateSize : Nat := 32

/-- The size of a transition in a state with several of them. -/
def transitionSize : Nat := 8

/-- The size of a way on in a state that reads nothing. -/
def branchSize : Nat := 4

/-- Ten mebibytes. -/
def limit : Nat := 10 * 0x100000

def check (tally : Tally) : Option Tally :=
  if stateSize * tally.states + tally.extra ≤ limit then some tally else none

/-- Makes states that need the given number of bytes in all beyond their fixed size. -/
def grow (count extra : Nat) (tally : Tally) : Option Tally :=
  check ⟨tally.states + count, tally.extra + extra⟩

end Tally

/-- A state that several ways lead on from grows with every way. -/
inductive Exit where
  | single
  | fork
  deriving DecidableEq

def Exit.size : Exit → Nat
  | single => 0
  | fork => Tally.branchSize

/-- What is known after the automaton of an expression was made. -/
structure Made where
  tally : Tally
  exit : Exit

namespace Footprint

/-- In which direction the automaton reads. -/
inductive Direction where
  | forward
  | backward
  deriving DecidableEq

def single (count extra : Nat) (tally : Tally) : Option Made :=
  (tally.grow count extra).map fun tally => ⟨tally, .single⟩

/-- The place in a table of the given size for what the numbers stand for. -/
def slot (size : Nat) (numbers : List Nat) : Nat :=
  let mix := fun (hash : UInt64) (number : Nat) => (hash ^^^ number.toUInt64) * 1099511628211
  (numbers.foldl mix 14695981039346656037).toNat % size

/-- A transition for a range of bytes to the state with the given number. -/
structure Edge where
  bytes : Text.ByteRange
  next : Nat
  deriving DecidableEq

def Edge.numbers (edge : Edge) : List Nat :=
  [edge.bytes.low, edge.bytes.high, edge.next]

/-- A state that is not finished: its edges so far, the last of which stands first, and the bytes of
an edge whose end is not known yet. -/
structure Draft where
  edges : List Edge
  last : Option Text.ByteRange

def Draft.fresh (bytes : Text.ByteRange) : Draft := ⟨[], some bytes⟩

/-- The last edge leads to the given state. -/
def Draft.settle (draft : Draft) (next : Nat) : Draft :=
  match draft.last with
  | some bytes => ⟨⟨bytes, next⟩ :: draft.edges, none⟩
  | none => draft

/-- The automaton of a set that is being made from sequences in ascending order. Finished states with
the same edges are shared, as far as a table of ten thousand places remembers them. -/
structure Sharing where
  tally : Tally
  table : Std.HashMap Nat (List Edge × Nat)
  /-- The unfinished states from the first one on, the last of which stands first. -/
  drafts : List Draft

namespace Sharing

def tableSize : Nat := 10000

/-- The number of a state with the edges given. -/
def finish (sharing : Sharing) (edges : List Edge) : Option (Sharing × Nat) :=
  let place := slot tableSize (edges.flatMap Edge.numbers)
  let make := fun (_ : Unit) => do
    let number := sharing.tally.states
    let tally ← sharing.tally.grow 1 (Tally.transitionSize * edges.length)
    some ({ sharing with tally := tally, table := sharing.table.insert place (edges, number) },
      number)
  match sharing.table[place]? with
  | some (known, number) => if known = edges then some (sharing, number) else make ()
  | none => make ()

/-- Finishes the states after the first `keep`, and settles the last of those that are kept. -/
def finishAfter (keep : Nat) : Nat → Sharing → Nat → Option Sharing
  | 0, sharing, _ => some sharing
  | fuel + 1, sharing, next =>
    match sharing.drafts with
    | [] => some sharing
    | draft :: before =>
        let settled := draft.settle next
        if before.length < keep then some { sharing with drafts := settled :: before }
        else do
          let (sharing, number) ← finish { sharing with drafts := before } settled.edges.reverse
          finishAfter keep fuel sharing number

/-- How many of the byte ranges lead along the unfinished states. -/
def commonLength : List Text.ByteRange → List Draft → Nat
  | bytes :: rest, draft :: drafts =>
      if draft.last = some bytes then commonLength rest drafts + 1 else 0
  | _, _ => 0

/-- Adds a sequence; `target` is the state that all sequences lead to. -/
def add (target : Nat) (sharing : Sharing) (sequence : List Text.ByteRange) :
    Option Sharing := do
  let common := commonLength sequence sharing.drafts.reverse
  let sharing ← finishAfter (common + 1) 5 sharing target
  match sequence.drop common, sharing.drafts with
  | bytes :: rest, draft :: before =>
      let drafts := rest.foldl (fun drafts bytes => Draft.fresh bytes :: drafts)
        (⟨draft.edges, some bytes⟩ :: before)
      some { sharing with drafts := drafts }
  | _, _ => some sharing

def addAll (target : Nat) : List (List Text.ByteRange) → Sharing → Option Sharing
  | [], sharing => some sharing
  | sequence :: rest, sharing => do addAll target rest (← sharing.add target sequence)

end Sharing

def forwardSet (members : CharSet) (tally : Tally) : Option Tally := do
  let target := tally.states
  let tally ← tally.grow 1 0
  let sharing ← Sharing.addAll target (Text.sequences members) ⟨tally, ∅, [⟨[], none⟩]⟩
  let sharing ← Sharing.finishAfter 0 5 sharing target
  some sharing.tally

/-- States for the bytes of a sequence in a table of a thousand places: the bytes, and the state that
they lead to. -/
structure Suffixes where
  tally : Tally
  table : Std.HashMap Nat (Edge × Nat)

def Suffixes.tableSize : Nat := 1000

/-- Adds the bytes of a sequence one after the other, each of which leads to the one before it. -/
def Suffixes.add : List Text.ByteRange → Nat → Suffixes → Option Suffixes
  | [], _, suffixes =>
      (suffixes.tally.grow 0 Tally.branchSize).map fun tally => { suffixes with tally := tally }
  | bytes :: rest, next, suffixes =>
      let edge : Edge := ⟨bytes, next⟩
      let place := slot tableSize [next, bytes.low, bytes.high]
      let make := fun (_ : Unit) => do
        let number := suffixes.tally.states
        let tally ← suffixes.tally.grow 1 0
        add rest number ⟨tally, suffixes.table.insert place (edge, number)⟩
      match suffixes.table[place]? with
      | some (known, number) => if known = edge then add rest number suffixes else make ()
      | none => make ()

def Suffixes.addAll (target : Nat) :
    List (List Text.ByteRange) → Suffixes → Option Suffixes
  | [], suffixes => some suffixes
  | sequence :: rest, suffixes => do addAll target rest (← add sequence target suffixes)

def backwardSet (members : CharSet) (tally : Tally) : Option Tally := do
  let target := tally.states + 1
  let tally ← tally.grow 2 0
  let suffixes ← Suffixes.addAll target (Text.sequences members) ⟨tally, ∅⟩
  some suffixes.tally

/-- ASCII characters need a single state. -/
def ofSet (direction : Direction) (members : CharSet) (tally : Tally) : Option Made :=
  if members.isAscii then single 2 (Tally.transitionSize * members.ranges.size) tally
  else
    let made := match direction with
      | .forward => forwardSet members tally
      | .backward => backwardSet members tally
    made.map fun tally => ⟨tally, .single⟩

/-- A node of a tree of literals: the bytes that lead on since a literal last ended here, and how
many there were each time one did. -/
structure Twig where
  children : List (Nat × Nat)
  closed : List Nat

def Twig.isLeaf (twig : Twig) : Bool :=
  twig.children.isEmpty && twig.closed.all (· == 0)

/-- A literal ends here. -/
def Twig.close (twig : Twig) : Twig :=
  if twig.isLeaf && !twig.closed.isEmpty then twig
  else ⟨[], twig.children.length :: twig.closed⟩

/-- The room for the edges of a node, which stand together as long as no literal ends between
them. -/
def Twig.size (twig : Twig) (tally : Tally) : Option Tally :=
  if twig.isLeaf then some tally
  else
    let chunks := (twig.children.length :: twig.closed).filter (0 < ·)
    let edges := (chunks.filter (1 < ·)).foldl (· + ·) 0
    tally.grow (chunks.length + 1) (Tally.transitionSize * edges +
      Tally.branchSize * (chunks.length + twig.closed.length))

/-- Adds a literal to the tree, from the given node on. -/
def addLiteral : List Nat → Nat → Array Twig → Array Twig
  | [], here, tree => tree.modify here Twig.close
  | byte :: rest, here, tree =>
      match tree[here]?.bind fun twig => twig.children.lookup byte with
      | some next => addLiteral rest next tree
      | none =>
          let next := tree.size
          let grown := tree.modify here fun twig =>
            { twig with children := (byte, next) :: twig.children }
          addLiteral rest next (grown.push ⟨[], []⟩)

def sizeOfTree : List Twig → Tally → Option Tally
  | [], tally => some tally
  | twig :: rest, tally => do sizeOfTree rest (← twig.size tally)

/-- Alternatives that are all literals share their beginnings. -/
def ofLiterals (direction : Direction) (literals : List (List Char)) (tally : Tally) :
    Option Made := do
  let insert := fun tree literal =>
    let bytes := Text.textBytes literal
    addLiteral (if direction = .forward then bytes else bytes.reverse) 0 tree
  let tree := literals.foldl insert #[⟨[], []⟩]
  let tally ← tally.grow 1 0
  single 0 0 (← sizeOfTree tree.toList tally)

/-- The texts of expressions that are all literals. -/
def literals? (branches : List Expr) : Option (List (List Char)) :=
  branches.mapM fun branch => match branch with
    | .literal text => some text
    | _ => none

/-- The given number of copies of an automaton, one after the other. -/
def copies (make : Tally → Option Made) : Nat → Made → Option Made
  | 0, made => some made
  | count + 1, made => do
      let next ← make made.tally
      copies make count ⟨← next.tally.grow 0 made.exit.size, next.exit⟩

def exactly (make : Tally → Option Made) (count : Nat) (tally : Tally) : Option Made :=
  match count with
  | 0 => single 1 0 tally
  | count + 1 => do copies make count (← make tally)

/-- A fork leads to the start of the automaton, whose end leads back to it. -/
def loop (made : Made) : Option Made := do
  some ⟨← made.tally.grow 1 (made.exit.size + Tally.branchSize), .fork⟩

def atLeast (isVoidable : Bool) (make : Tally → Option Made) (least : Nat) (tally : Tally) :
    Option Made :=
  match least with
  | 0 =>
      if isVoidable then do
        let made ← make tally
        single 3 (made.exit.size + 4 * Tally.branchSize) made.tally
      else do
        let made ← make (← tally.grow 1 0)
        some ⟨← made.tally.grow 0 (made.exit.size + Tally.branchSize), .fork⟩
  | 1 => do loop (← make tally)
  | least + 1 => do
      let before ← exactly make least tally
      let last ← make before.tally
      loop ⟨← last.tally.grow 0 before.exit.size, last.exit⟩

/-- Further copies, each of which may be left out with all those after it. -/
def optional (make : Tally → Option Made) : Nat → Made → Option Made
  | 0, made => single 0 made.exit.size made.tally
  | count + 1, made => do
      let next ← make (← made.tally.grow 1 0)
      let tally ← next.tally.grow 0 (made.exit.size + 2 * Tally.branchSize)
      optional make count ⟨tally, next.exit⟩

def counted (isVoidable : Bool) (make : Tally → Option Made) (least : Nat) (most : Option Nat)
    (tally : Tally) : Option Made :=
  match most with
  | none => atLeast isVoidable make least tally
  | some most =>
      if least = 0 ∧ most = 1 then do
        let made ← make (← tally.grow 1 0)
        single 1 (made.exit.size + 2 * Tally.branchSize) made.tally
      else if least = most then exactly make least tally
      else do
        let before ← exactly make least tally
        optional make (most - least) ⟨← before.tally.grow 1 0, before.exit⟩

mutual

/-- Makes the automaton of an expression. -/
def make (direction : Direction) : Expr → Tally → Option Made
  | .empty, tally | .look _, tally => single 1 0 tally
  | .literal text, tally => single (Expr.textSize text) 0 tally
  | .set members, tally => ofSet direction members tally
  | .capture _ body, tally =>
      match direction with
      | .forward => do
          let made ← make direction body (← tally.grow 1 0)
          single 1 made.exit.size made.tally
      | .backward => make direction body tally
  | .repeated body least most _, tally =>
      let isVoidable := !(Expr.minSize body).any (0 < ·)
      counted isVoidable (make direction body) least most tally
  | .concat parts, tally =>
      match direction with
      | .forward => makeForward parts ⟨tally, .single⟩
      | .backward => makeBackward parts tally
  | .alternation branches, tally =>
      match literals? branches with
      | some literals => ofLiterals direction literals tally
      | none => (makeBranches direction 2 branches tally).map fun tally => ⟨tally, .single⟩

/-- Makes the parts of a sequence one after the other, after what has been made. -/
def makeForward : List Expr → Made → Option Made
  | [], made => some made
  | part :: rest, made => do
      let next ← make .forward part made.tally
      makeForward rest ⟨← next.tally.grow 0 made.exit.size, next.exit⟩

/-- Makes the last part of a sequence first. -/
def makeBackward : List Expr → Tally → Option Made
  | [], tally => some ⟨tally, .single⟩
  | part :: rest, tally => do
      let after ← makeBackward rest tally
      let next ← make .backward part after.tally
      some ⟨← next.tally.grow 0 after.exit.size, next.exit⟩

/-- Makes alternatives. The states that they begin and end with are made after the first two, so the
first argument counts down to them. -/
def makeBranches (direction : Direction) : Nat → List Expr → Tally → Option Tally
  | _, [], tally => some tally
  | ahead, branch :: rest, tally => do
      let made ← make direction branch tally
      let ends := if ahead = 1 then 2 else 0
      let tally ← made.tally.grow ends (made.exit.size + Tally.branchSize)
      makeBranches direction (ahead - 1) rest tally

end

/-- Unless every match begins where reading begins, any bytes may come before it. -/
def skipped (isAnchored : Bool) : Option Made :=
  if isAnchored then single 1 0 ⟨0, 0⟩
  else do
    let tally ← Tally.grow 3 (Tally.transitionSize + Tally.branchSize) ⟨0, 0⟩
    some ⟨tally, .fork⟩

def forward (expr : Expr) : Option Made := do
  let before ← skipped (expr.beginsAt .textStart)
  let made ← make .forward expr (← before.tally.grow 1 0)
  single 2 (made.exit.size + before.exit.size) made.tally

def backward (expr : Expr) : Option Made := do
  let before ← skipped (expr.endsAt .textEnd)
  let made ← make .backward expr before.tally
  single 1 (made.exit.size + before.exit.size) made.tally

/-- So many alternatives that are all literals are searched for without an automaton. -/
def isWordList : Expr → Bool
  | .alternation branches => 3000 ≤ branches.length && (literals? branches).isSome
  | _ => false

/-- The automaton has room in either direction. -/
def fits (expr : Expr) : Bool :=
  isWordList expr || (forward expr).isSome && (backward expr).isSome

end Footprint

end TemporalMonitor.Regex
