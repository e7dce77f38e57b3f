import TemporalMonitor.Decimal.Layout
import TemporalMonitor.Json.Basic
import TemporalMonitor.Text.Digits

/-!
Reading JSON text.

Every reader takes the characters ahead and answers with what it read and the rest. A text that is
well formed is read even if some part of it has no value; who needs that part cannot use it.
-/

namespace TemporalMonitor.Json

def isBlank (c : Char) : Bool :=
  c == ' ' || c == '\n' || c == '\t' || c == '\r'

def skipBlank (text : List Char) : List Char :=
  text.dropWhile isBlank

/-- Four digits in base sixteen. -/
def unit? (a b c d : Char) : Option Nat :=
  Text.hexNumber? [a, b, c, d]

def isHighSurrogate (unit : Nat) : Bool :=
  0xD800 ≤ unit && unit < 0xDC00

def isLowSurrogate (unit : Nat) : Bool :=
  0xDC00 ≤ unit && unit < 0xE000

/-- The character after a backslash stands for another one. -/
def unescape? (c : Char) : Option Char :=
  match c with
  | '\x22' => some '\x22'
  | '\\' => some '\\'
  | '/' => some '/'
  | 'b' => some '\x08'
  | 'f' => some '\x0c'
  | 'n' => some '\n'
  | 'r' => some '\r'
  | 't' => some '\t'
  | _ => none

/-- A part of a string: a character, or a code unit given by its number. -/
inductive Piece where
  | char (c : Char)
  | unit (number : Nat)
  deriving DecidableEq, Repr

/-- What follows an opening quote, up to the closing one. -/
def readPieces : List Char → Option (List Piece × List Char)
  | [] => none
  | '\x22' :: rest => some ([], rest)
  | '\\' :: 'u' :: a :: b :: c :: d :: rest => do
      let number ← unit? a b c d
      let (pieces, rest) ← readPieces rest
      some (.unit number :: pieces, rest)
  | '\\' :: c :: rest => do
      let c ← unescape? c
      let (pieces, rest) ← readPieces rest
      some (.char c :: pieces, rest)
  | c :: rest =>
      if c == '\\' || c.toNat < 0x20 then none
      else do
        let (pieces, rest) ← readPieces rest
        some (.char c :: pieces, rest)

/-- The text that the pieces make up. Two surrogates that form a pair are one character, and any
other surrogate has no value. -/
def joinPieces? : List Piece → Option (List Char)
  | [] => some []
  | .char c :: rest => (joinPieces? rest).map (c :: ·)
  | .unit number :: rest =>
      if isHighSurrogate number then
        match rest with
        | .unit low :: rest =>
            if isLowSurrogate low then
              let code := 0x10000 + (number - 0xD800) * 0x400 + (low - 0xDC00)
              (joinPieces? rest).map (Char.ofNat code :: ·)
            else none
        | _ => none
      else if isLowSurrogate number then none
      else (joinPieces? rest).map (Char.ofNat number :: ·)

/-- What follows an opening quote. The form may be right and the text have no value. -/
def readString (text : List Char) : Option (Option String × List Char) := do
  let (pieces, rest) ← readPieces text
  some ((joinPieces? pieces).map String.ofList, rest)

def splitDigits (text : List Char) : List Char × List Char :=
  (text.takeWhile Char.isDigit, text.dropWhile Char.isDigit)

/-- The digits before the point: a leading zero stands alone. -/
def readWhole (text : List Char) : Option (List Char × List Char) :=
  match splitDigits text with
  | ([], _) => none
  | ('0' :: _ :: _, _) => none
  | (digits, rest) => some (digits, rest)

/-- The digits after the point, if there is one. -/
def readFraction (text : List Char) : Option (Option (List Char) × List Char) :=
  match text with
  | '.' :: text =>
    match splitDigits text with
    | ([], _) => none
    | (digits, rest) => some (some digits, rest)
  | _ => some (none, text)

/-- The power of ten, if one is given. -/
def readExponent (text : List Char) : Option (Option Int × List Char) :=
  match text with
  | c :: rest =>
    if c == 'e' || c == 'E' then
      let (negative, rest) := match rest with
        | '-' :: rest => (true, rest)
        | '+' :: rest => (false, rest)
        | _ => (false, rest)
      match splitDigits rest with
      | ([], _) => none
      | (digits, rest) =>
        let value : Int := Text.decimalValue digits
        some (some (if negative then -value else value), rest)
    else some (none, text)
  | [] => some (none, text)

/-- Whole numbers from `-2 ^ 63` to `2 ^ 64 - 1` are kept exactly, apart from negative zero; any
other number is the nearest double, and has no value if that is not finite. -/
def ofNumber (negative : Bool) (whole : List Char) (fraction : Option (List Char))
    (power : Option Int) : Json :=
  let value : Int := if negative then -(Text.decimalValue whole : Int) else Text.decimalValue whole
  if fraction.isNone && power.isNone && !(negative && value == 0) &&
      decide (Int64.minValue.toInt ≤ value) && decide (value < UInt64.size) then
    int value
  else
    let places := fraction.getD []
    let x := Decimal.nearest negative (Text.decimalValue (whole ++ places))
      (power.getD 0 - places.length)
    if Decimal.isFinite x then float x else unreadable

def readNumber (text : List Char) : Option (Json × List Char) := do
  let (negative, text) := match text with
    | '-' :: rest => (true, rest)
    | _ => (false, text)
  let (whole, text) ← readWhole text
  let (fraction, text) ← readFraction text
  let (power, text) ← readExponent text
  some (ofNumber negative whole fraction power, text)

/-- A value that is no container. -/
def readScalar (text : List Char) : Option (Json × List Char) :=
  match text with
  | 'n' :: 'u' :: 'l' :: 'l' :: rest => some (null, rest)
  | 't' :: 'r' :: 'u' :: 'e' :: rest => some (bool true, rest)
  | 'f' :: 'a' :: 'l' :: 's' :: 'e' :: rest => some (bool false, rest)
  | '\x22' :: rest => do
      let (text, rest) ← readString rest
      some ((text.map string).getD unreadable, rest)
  | text => readNumber text

/-- A name and the colon after it. -/
def readName (text : List Char) : Option (Option String × List Char) :=
  match skipBlank text with
  | '\x22' :: rest => do
      let (name, rest) ← readString rest
      match skipBlank rest with
      | ':' :: rest => some (name, rest)
      | _ => none
  | _ => none

/-- What follows the opening bracket of an array that is not empty. -/
def readItems (item : List Char → Option (Json × List Char)) :
    Nat → List Char → Option (List Json × List Char)
  | 0, _ => none
  | fuel + 1, text => do
      let (value, rest) ← item text
      match skipBlank rest with
      | ']' :: rest => some ([value], rest)
      | ',' :: rest => do
          let (values, rest) ← readItems item fuel rest
          some (value :: values, rest)
      | _ => none

/-- What follows the opening brace of an object that is not empty. There are no members to speak of
if one of their names has no value. -/
def readMembers (item : List Char → Option (Json × List Char)) :
    Nat → List Char → Option (Option (List (String × Json)) × List Char)
  | 0, _ => none
  | fuel + 1, text => do
      let (name, rest) ← readName text
      let (value, rest) ← item rest
      match skipBlank rest with
      | '\x7d' :: rest => some (name.map fun name => [(name, value)], rest)
      | ',' :: rest => do
          let (members, rest) ← readMembers item fuel rest
          some (name.bind fun name => members.map ((name, value) :: ·), rest)
      | _ => none

/-- The two kinds of containers. -/
inductive Container where
  | array
  | object
  deriving DecidableEq, Repr

def Container.closing : Container → Char
  | array => ']'
  | object => '\x7d'

/-- What may come next in an open container. -/
inductive Awaited where
  /-- The first item, or the end. -/
  | start
  | item
  /-- A comma, or the end. -/
  | more
  deriving DecidableEq, Repr

/-- The text after all the open containers, the innermost of which stands first. Only the form is
checked, so it does not matter how deep they stand. -/
def skipContainers : Nat → Awaited → List Container → List Char → Option (List Char)
  | _, _, [], text => some text
  | 0, _, _ :: _, _ => none
  | fuel + 1, awaited, inner :: outer, text =>
    match awaited, skipBlank text with
    | .start, c :: rest =>
        if c == inner.closing then skipContainers fuel .more outer rest
        else skipContainers fuel .item (inner :: outer) (c :: rest)
    | .more, c :: rest =>
        if c == inner.closing then skipContainers fuel .more outer rest
        else if c == ',' then skipContainers fuel .item (inner :: outer) rest
        else none
    | .item, text => do
        let text ← match inner with
          | .array => some text
          | .object => (readName text).map Prod.snd
        match skipBlank text with
        | '[' :: rest => skipContainers fuel .start (.array :: inner :: outer) rest
        | '\x7b' :: rest => skipContainers fuel .start (.object :: inner :: outer) rest
        | text => do
            let (_, rest) ← readScalar text
            skipContainers fuel .more (inner :: outer) rest
    | _, [] => none

/-- A container whose content is only checked for its form. -/
def skipContainer (bound : Nat) (container : Container) (text : List Char) :
    Option (Json × List Char) :=
  (skipContainers (2 * bound) .start [container] text).map fun rest => (unreadable, rest)

/-- One value. Containers have a value if at most `limit` of them stand inside each other. The text
is no longer than `bound`. -/
def readValue (bound limit : Nat) (text : List Char) : Option (Json × List Char) :=
  match skipBlank text with
  | '[' :: rest =>
    match limit with
    | 0 => skipContainer bound .array rest
    | limit + 1 =>
      match skipBlank rest with
      | ']' :: rest => some (array [], rest)
      | rest => do
          let (items, rest) ← readItems (readValue bound limit) bound rest
          some (array items, rest)
  | '\x7b' :: rest =>
    match limit with
    | 0 => skipContainer bound .object rest
    | limit + 1 =>
      match skipBlank rest with
      | '\x7d' :: rest => some (object [], rest)
      | rest => do
          let (members, rest) ← readMembers (readValue bound limit) bound rest
          some ((members.map object).getD unreadable, rest)
  | text => readScalar text

/-- The whole text as one document. -/
def read? (limit : Nat) (text : String) : Option Json := do
  let (document, rest) ← readValue text.length limit text.toList
  if (skipBlank rest).isEmpty then some document else none

/-- In documents from outside, containers deeper than this have no value. -/
def depthLimit : Nat := 127

def parse? (text : String) : Option Json :=
  read? depthLimit text

end TemporalMonitor.Json
