import TemporalMonitor.Decimal.Layout
import TemporalMonitor.Json.Basic

/-!
JSON text: compact, or indented by two spaces a level.
-/

namespace TemporalMonitor.Json

/-- Numbers in JSON text always show a fraction or an exponent. -/
def number : Decimal.Layout := ⟨some (-5), some 15, true, true, .toEven⟩

def hexDigit (n : Nat) : Char :=
  Nat.digitChar n

/-- Quotes, backslashes and control characters are escaped, and nothing else is. -/
def escape (c : Char) : List Char :=
  match c with
  | '\x22' => ['\\', '\x22']
  | '\\' => ['\\', '\\']
  | '\n' => ['\\', 'n']
  | '\r' => ['\\', 'r']
  | '\t' => ['\\', 't']
  | '\x08' => ['\\', 'b']
  | '\x0c' => ['\\', 'f']
  | _ =>
    if c.toNat < 0x20 then
      ['\\', 'u', '0', '0', hexDigit (c.toNat / 16), hexDigit (c.toNat % 16)]
    else [c]

def stringChars (text : String) : List Char :=
  '\x22' :: text.toList.flatMap escape ++ ['\x22']

def intChars (n : Int) : List Char :=
  if n < 0 then '-' :: Nat.toDigits 10 n.natAbs else Nat.toDigits 10 n.natAbs

/-- JSON has no text for a double that is not finite. -/
def floatChars (x : Float) : List Char :=
  if Decimal.isFinite x then number.chars x else ['n', 'u', 'l', 'l']

/-- How the parts of a text are set apart. -/
inductive Spacing where
  | tight
  | indented
  deriving DecidableEq, Repr

/-- What stands before an item at the given level, and before the end of a container there. -/
def Spacing.line : Spacing → Nat → List Char
  | tight, _ => []
  | indented, level => '\n' :: List.replicate (2 * level) ' '

/-- What stands between the colon and the value. -/
def Spacing.gap : Spacing → List Char
  | tight => []
  | indented => [' ']

mutual

/-- The text of a document at the given level. What has no value is written like null. -/
def chars (spacing : Spacing) (level : Nat) : Json → List Char
  | unreadable | null => ['n', 'u', 'l', 'l']
  | bool true => ['t', 'r', 'u', 'e']
  | bool false => ['f', 'a', 'l', 's', 'e']
  | int n => intChars n
  | float x => floatChars x
  | string text => stringChars text
  | array [] => ['[', ']']
  | array (item :: rest) =>
      '[' :: (spacing.line (level + 1) ++ chars spacing (level + 1) item ++
        charsItems spacing level rest)
  | object [] => ['\x7b', '\x7d']
  | object ((name, value) :: rest) =>
      '\x7b' :: (spacing.line (level + 1) ++ stringChars name ++ ':' :: (spacing.gap ++
        chars spacing (level + 1) value ++ charsMembers spacing level rest))

/-- What follows an item of an array. -/
def charsItems (spacing : Spacing) (level : Nat) : List Json → List Char
  | [] => spacing.line level ++ [']']
  | item :: rest =>
      ',' :: (spacing.line (level + 1) ++ chars spacing (level + 1) item ++
        charsItems spacing level rest)

/-- What follows a member of an object. -/
def charsMembers (spacing : Spacing) (level : Nat) : List (String × Json) → List Char
  | [] => spacing.line level ++ ['\x7d']
  | (name, value) :: rest =>
      ',' :: (spacing.line (level + 1) ++ stringChars name ++ ':' :: (spacing.gap ++
        chars spacing (level + 1) value ++ charsMembers spacing level rest))

end

def text (document : Json) (spacing : Spacing) : String :=
  String.ofList (document.chars spacing 0)

/-- The text without any white space. -/
def compact (document : Json) : String :=
  document.text .tight

/-- The text with every item and member on a line of its own. -/
def pretty (document : Json) : String :=
  document.text .indented

end TemporalMonitor.Json
