import TemporalMonitor.Regex.Pattern
import TemporalMonitor.Text.Blank
import TemporalMonitor.Text.Digits

/-!
The smallest parts of patterns: white space, escapes and counts.

In verbose text, white space and comments may stand between the characters of such a part.
-/

namespace TemporalMonitor.Regex

/-- The text without the white space and the comments in front. -/
def skipVerbose : Bool → List Char → List Char
  | _, [] => []
  | true, c :: rest => skipVerbose (c != '\n') rest
  | false, c :: rest =>
      if Text.isWhiteSpace c then skipVerbose false rest
      else if c == '#' then skipVerbose true rest
      else c :: rest

def skip (verbose : Bool) (text : List Char) : List Char :=
  if verbose then skipVerbose false text else text

/-- The first characters of the text that are accepted, and the rest. -/
def takeSpaced (verbose : Bool) (accepts : Char → Bool) :
    Nat → List Char → List Char × List Char
  | fuel + 1, c :: rest =>
      if accepts c then
        let (taken, rest) := takeSpaced verbose accepts fuel (skip verbose rest)
        (c :: taken, rest)
      else ([], c :: rest)
  | _, text => ([], text)

def takeAccepted (verbose : Bool) (accepts : Char → Bool) (text : List Char) :
    List Char × List Char :=
  if text.head?.any accepts then takeSpaced verbose accepts text.length text else ([], text)

/-- What stands between braces, after the opening one. -/
def readBraces (verbose : Bool) (text : List Char) : Option (List Char × List Char) :=
  match takeAccepted verbose (· != '\x7d') (skip verbose text) with
  | (inside, '\x7d' :: rest) => some (inside, rest)
  | _ => none

/-- The character with the code point given by digits in base sixteen. -/
def ofHex? (digits : List Char) : Option Char := do
  let code ← Text.hexNumber? digits
  if digits ≠ [] ∧ code.isValidChar then some (Char.ofNat code) else none

/-- A given number of digits in base sixteen. -/
def readHexDigits (verbose : Bool) : Nat → List Char → Option (List Char × List Char)
  | 0, text => some ([], text)
  | _ + 1, [] => none
  | width + 1, c :: rest => do
      let _ ← Text.hexValue? c
      let (digits, rest) ← readHexDigits verbose width (skip verbose rest)
      some (c :: digits, rest)

/-- A code point: `width` digits, or any number of digits between braces. -/
def readCode (verbose : Bool) (width : Nat) (text : List Char) : Option (Literal × List Char) :=
  match skip verbose text with
  | '\x7b' :: rest => do
      let (digits, rest) ← readBraces verbose rest
      some (⟨← ofHex? digits, false⟩, skip verbose rest)
  | text => do
      let (digits, rest) ← readHexDigits verbose width text
      some (⟨← ofHex? digits, width == 2⟩, rest)

/-- The text before and after the first place where a mark stands. -/
def splitAtMark? (mark : List Char) : List Char → Option (List Char × List Char)
  | [] => none
  | c :: rest =>
      if mark.isPrefixOf (c :: rest) then some ([], (c :: rest).drop mark.length)
      else (splitAtMark? mark rest).map fun (before, after) => (c :: before, after)

/-- A property may be given with its value. -/
def queryOf (text : List Char) : Unicode.Query :=
  let parts := (splitAtMark? ['!', '='] text).orElse fun _ =>
    (splitAtMark? [':'] text).orElse fun _ => splitAtMark? ['='] text
  match parts with
  | some (property, value) => .value (String.ofList property) (String.ofList value)
  | none => .name (String.ofList text)

/-- A property: one letter, or what stands between braces. -/
def readQuery (verbose : Bool) (text : List Char) : Option (Unicode.Query × List Char) :=
  match skip verbose text with
  | '\x7b' :: rest => do
      let (inside, rest) ← readBraces verbose rest
      some (queryOf inside, rest)
  | '\\' :: _ | [] => none
  | c :: rest => some (.name (String.ofList [c]), skip verbose rest)

/-- The kinds of word boundaries that are named between braces. -/
def boundaryOfName? (name : String) : Option Assertion :=
  match name with
  | "start" => some .wordStart
  | "end" => some .wordEnd
  | "start-half" => some .noWordBefore
  | "end-half" => some .noWordAfter
  | _ => none

def isBoundaryChar (c : Char) : Bool :=
  c.isAlpha || c == '-'

/-- What follows the escape for a word boundary. Braces that begin with a letter or a hyphen name its
kind; any others are left for a count. -/
def readBoundary (verbose : Bool) (text : List Char) : Option (Assertion × List Char) :=
  match text with
  | '\x7b' :: rest =>
    match skip verbose rest with
    | [] => none
    | c :: inner =>
      if isBoundaryChar c then
        match takeAccepted verbose isBoundaryChar (c :: inner) with
        | (name, '\x7d' :: rest) => do
            some (← boundaryOfName? (String.ofList name), rest)
        | _ => none
      else some (.wordBoundary, text)
  | _ => some (.wordBoundary, text)

/-- What an escape stands for. -/
inductive Escape where
  | literal (literal : Literal)
  | shorthand (kind : Shorthand) (negated : Bool)
  | property (query : Unicode.Query) (negated : Bool)
  | assertion (assertion : Assertion)

def Escape.ofChar (c : Char) : Escape :=
  .literal ⟨c, false⟩

/-- Punctuation may be escaped; letters and digits have a meaning of their own, or none. -/
def isEscapable (c : Char) : Bool :=
  c.toNat < 0x80 && !c.isAlphanum && c != '<' && c != '>'

/-- What follows a backslash. -/
def readEscape (verbose : Bool) : List Char → Option (Escape × List Char)
  | [] => none
  | c :: rest =>
    match c with
    | 'd' => some (.shorthand .digit false, rest)
    | 'D' => some (.shorthand .digit true, rest)
    | 's' => some (.shorthand .space false, rest)
    | 'S' => some (.shorthand .space true, rest)
    | 'w' => some (.shorthand .word false, rest)
    | 'W' => some (.shorthand .word true, rest)
    | 'p' => (readQuery verbose rest).map fun (query, rest) => (.property query false, rest)
    | 'P' => (readQuery verbose rest).map fun (query, rest) => (.property query true, rest)
    | 'x' => (readCode verbose 2 rest).map fun (literal, rest) => (.literal literal, rest)
    | 'u' => (readCode verbose 4 rest).map fun (literal, rest) => (.literal literal, rest)
    | 'U' => (readCode verbose 8 rest).map fun (literal, rest) => (.literal literal, rest)
    | 'a' => some (.ofChar '\x07', rest)
    | 'f' => some (.ofChar '\x0c', rest)
    | 't' => some (.ofChar '\t', rest)
    | 'n' => some (.ofChar '\n', rest)
    | 'r' => some (.ofChar '\r', rest)
    | 'v' => some (.ofChar '\x0b', rest)
    | 'A' => some (.assertion .textStart, rest)
    | 'z' => some (.assertion .textEnd, rest)
    | 'B' => some (.assertion .noWordBoundary, rest)
    | '<' => some (.assertion .wordStart, rest)
    | '>' => some (.assertion .wordEnd, rest)
    | 'b' => (readBoundary verbose rest).map fun (kind, rest) => (.assertion kind, rest)
    | _ => if isEscapable c then some (.ofChar c, rest) else none

/-- A number that 32 bits can hold, with white space around it. -/
def readCount (verbose : Bool) (text : List Char) : Option (Nat × List Char) :=
  let (digits, rest) := takeAccepted verbose Char.isDigit (Text.skipWhiteSpace text)
  let value := Text.decimalValue digits
  if digits.isEmpty || UInt32.size ≤ value then none
  else some (value, skip verbose (Text.skipWhiteSpace rest))

/-- The bounds of a counted repetition, after the opening brace. -/
def readBounds (verbose : Bool) (text : List Char) :
    Option ((Nat × Option Nat) × List Char) := do
  let (least, rest) ← readCount verbose (skip verbose text)
  match rest with
  | '\x7d' :: rest => some ((least, some least), rest)
  | ',' :: rest =>
    match skip verbose rest with
    | '\x7d' :: rest => some ((least, none), rest)
    | rest => do
        let (most, rest) ← readCount verbose rest
        match rest with
        | '\x7d' :: rest => if least ≤ most then some ((least, some most), rest) else none
        | _ => none
  | _ => none

end TemporalMonitor.Regex
