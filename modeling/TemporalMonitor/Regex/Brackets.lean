import TemporalMonitor.Regex.Escape

/-!
Reading classes in brackets.

The brackets that are still open are kept in a list, so a text may open any number of them. What is
read carries its depth, and nothing deeper than the limit is built.
-/

namespace TemporalMonitor.Regex

/-- A part of a pattern with the number of constructs that stand inside each other in it. -/
structure Nested (α : Type) where
  node : α
  depth : Nat

/-- How many constructs may stand inside each other. -/
def nestLimit : Nat := 250

def Nested.leaf {α : Type} (node : α) : Nested α := ⟨node, 0⟩

/-- A construct around parts of the given depth. -/
def Nested.around? {α : Type} (depth : Nat) (node : α) : Option (Nested α) :=
  if depth < nestLimit then some ⟨node, depth + 1⟩ else none

def maxDepth {α : Type} (parts : List (Nested α)) : Nat :=
  parts.foldl (fun depth part => max depth part.depth) 0

/-- The part that is alone, or one construct of all the parts, which are given last part first. -/
def joinParts? {α : Type} (nothing : α) (many : List α → α) :
    List (Nested α) → Option (Nested α)
  | [] => some (.leaf nothing)
  | [part] => some part
  | parts => Nested.around? (maxDepth parts) (many (parts.reverse.map Nested.node))

/-- An open bracket: what stands in it so far, last item first, and the operator before that. -/
structure Bracket where
  negated : Bool
  pending : Option (Nested ClassSet × SetOp)
  items : List (Nested ClassSet)

namespace Bracket

def push (bracket : Bracket) (item : Nested ClassSet) : Bracket :=
  { bracket with items := item :: bracket.items }

/-- All that stands in the bracket. Operators are applied from left to right. -/
def content? (bracket : Bracket) : Option (Nested ClassSet) := do
  let right ← joinParts? .nothing .union bracket.items
  match bracket.pending with
  | none => some right
  | some (left, op) =>
      Nested.around? (max left.depth right.depth) (.combined op left.node right.node)

def operator? (bracket : Bracket) (op : SetOp) : Option Bracket := do
  let left ← bracket.content?
  some { bracket with pending := some (left, op), items := [] }

end Bracket

def literalOf (c : Char) : Literal := ⟨c, false⟩

/-- What follows an opening bracket: a sign that negates the class, and characters that stand for
themselves only there. -/
def openBracket (verbose : Bool) (text : List Char) : Bracket × List Char :=
  let text := skip verbose text
  let (negated, text) := match text with
    | '^' :: rest => (true, skip verbose rest)
    | _ => (false, text)
  let (hyphens, rest) := takeAccepted verbose (· == '-') text
  let items := hyphens.map fun c => Nested.leaf (ClassSet.literal (literalOf c))
  match items, rest with
  | [], ']' :: rest => (⟨negated, none, [.leaf (.literal (literalOf ']'))]⟩, skip verbose rest)
  | _, _ => (⟨negated, none, items⟩, rest)

/-- The classes that brackets name as `[:name:]`. -/
def asciiClass? (name : String) : Option (List (Char × Char)) :=
  match name with
  | "alnum" => some [('0', '9'), ('A', 'Z'), ('a', 'z')]
  | "alpha" => some [('A', 'Z'), ('a', 'z')]
  | "ascii" => some [('\x00', '\x7f')]
  | "blank" => some [('\t', '\t'), (' ', ' ')]
  | "cntrl" => some [('\x00', '\x1f'), ('\x7f', '\x7f')]
  | "digit" => some [('0', '9')]
  | "graph" => some [('!', '~')]
  | "lower" => some [('a', 'z')]
  | "print" => some [(' ', '~')]
  | "punct" => some [('!', '/'), (':', '@'), ('[', '\x60'), ('\x7b', '~')]
  | "space" => some [('\t', '\r'), (' ', ' ')]
  | "upper" => some [('A', 'Z')]
  | "word" => some [('0', '9'), ('A', 'Z'), ('_', '_'), ('a', 'z')]
  | "xdigit" => some [('0', '9'), ('A', 'F'), ('a', 'f')]
  | _ => none

/-- A class between `[:` and `:]`, after the opening bracket. -/
def readAsciiClass? (text : List Char) : Option (ClassSet × List Char) :=
  match text with
  | ':' :: rest =>
    let (negated, rest) := match rest with
      | '^' :: rest => (true, rest)
      | _ => (false, rest)
    let name := rest.takeWhile (· != ':')
    match rest.drop name.length with
    | ':' :: ']' :: after => do
        let ranges ← asciiClass? (String.ofList name)
        some (.ascii ranges negated, after)
    | _ => none
  | _ => none

/-- A character inside brackets, which may begin or end a range, or a class. -/
def readClassItem (verbose : Bool) : List Char → Option (ClassSet × List Char)
  | [] => none
  | '\\' :: rest => do
      let (escape, rest) ← readEscape verbose rest
      match escape with
      | .literal literal => some (.literal literal, rest)
      | .shorthand kind negated => some (.shorthand kind negated, rest)
      | .property query negated => some (.property query negated, rest)
      | .assertion _ => none
  | c :: rest => some (.literal (literalOf c), rest)

/-- The character that decides what a hyphen means, after the hyphen. -/
def afterHyphen? (verbose : Bool) (text : List Char) : Option Char :=
  if verbose then
    match Text.skipWhiteSpace text with
    | '#' :: rest => (Text.skipWhiteSpace rest).head?
    | rest => rest.head?
  else text.head?

/-- A hyphen stands for itself before the end of the bracket, and belongs to an operator before
another hyphen. -/
def isRangeMark (verbose : Bool) (text : List Char) : Bool :=
  match afterHyphen? verbose text with
  | some ']' | some '-' => false
  | _ => true

/-- A single item or a range. -/
def readClassRange (verbose : Bool) (text : List Char) : Option (ClassSet × List Char) := do
  let (first, rest) ← readClassItem verbose text
  match skip verbose rest with
  | '-' :: after =>
      if isRangeMark verbose after then
        let (second, rest) ← readClassItem verbose (skip verbose after)
        match first, second with
        | .literal low, .literal high =>
            if low.char ≤ high.char then some (.range low high, rest) else none
        | _, _ => none
      else some (first, '-' :: after)
  | rest => some (first, rest)

/-- What follows an opening bracket and its head, up to the bracket that closes the outermost one. -/
def readBrackets (verbose : Bool) :
    Nat → Bracket → List Bracket → List Char → Option (Nested Pattern × List Char)
  | 0, _, _, _ => none
  | fuel + 1, bracket, outer, text =>
    match skip verbose text with
    | [] => none
    | '[' :: rest =>
      match readAsciiClass? rest with
      | some (named, rest) => readBrackets verbose fuel (bracket.push (.leaf named)) outer rest
      | none =>
        let (inner, rest) := openBracket verbose rest
        readBrackets verbose fuel inner (bracket :: outer) rest
    | ']' :: rest => do
        let content ← bracket.content?
        match outer with
        | [] =>
            let whole ← Nested.around? content.depth (.bracketed content.node bracket.negated)
            some (whole, rest)
        | parent :: outer =>
            let item ← Nested.around? content.depth (.bracketed content.node bracket.negated)
            readBrackets verbose fuel (parent.push item) outer rest
    | '&' :: '&' :: rest => do
        readBrackets verbose fuel (← bracket.operator? .inter) outer rest
    | '-' :: '-' :: rest => do
        readBrackets verbose fuel (← bracket.operator? .diff) outer rest
    | '~' :: '~' :: rest => do
        readBrackets verbose fuel (← bracket.operator? .symmetric) outer rest
    | text => do
        let (item, rest) ← readClassRange verbose text
        readBrackets verbose fuel (bracket.push (.leaf item)) outer rest

/-- A class, after its opening bracket. -/
def readClass (verbose : Bool) (text : List Char) : Option (Nested Pattern × List Char) :=
  let (bracket, rest) := openBracket verbose text
  readBrackets verbose (rest.length + 1) bracket [] rest

end TemporalMonitor.Regex
