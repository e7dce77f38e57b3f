import TemporalMonitor.Text.Printable

/-!
Quoted text: between double quotes, with escapes for what cannot be shown.
-/

namespace TemporalMonitor.Text

/-- The digits of a code point in base sixteen, without leading zeros. -/
def hexDigits (code : Nat) : List Char :=
  Nat.toDigits 16 code

/-- A character that is not printable is written by its code point. -/
def escape (c : Char) : List Char :=
  match c with
  | '\x22' => ['\\', '\x22']
  | '\\' => ['\\', '\\']
  | '\n' => ['\\', 'n']
  | '\r' => ['\\', 'r']
  | '\t' => ['\\', 't']
  | '\x00' => ['\\', '0']
  | _ => if isPrintable c then [c] else ['\\', 'u', '\x7b'] ++ hexDigits c.toNat ++ ['\x7d']

def quoted (text : String) : String :=
  String.ofList ('\x22' :: text.toList.flatMap escape ++ ['\x22'])

/-- Texts between brackets, as lists of names are shown. -/
def bracketed (items : List String) : String :=
  "[" ++ ", ".intercalate items ++ "]"

/-- An optional text as it is shown in descriptions. -/
def optional (text : Option String) : String :=
  match text with
  | some text => "Some(" ++ text ++ ")"
  | none => "None"

end TemporalMonitor.Text
