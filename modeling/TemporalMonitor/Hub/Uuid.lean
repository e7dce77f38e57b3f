import TemporalMonitor.Json.Fields
import TemporalMonitor.Text.Digits

/-!
Identifiers of 128 bits.
-/

namespace TemporalMonitor

structure Uuid where
  bits : BitVec 128
  deriving DecidableEq, Repr

namespace Uuid

instance : LT Uuid := ⟨fun a b => a.bits < b.bits⟩

instance : DecidableLT Uuid := fun a b => inferInstanceAs (Decidable (a.bits < b.bits))

/-- The identifier that nothing has. -/
def nil : Uuid := ⟨0⟩

def ofNat (n : Nat) : Uuid := ⟨BitVec.ofNat 128 n⟩

/-- Thirty-two digits in base sixteen. -/
def digits (id : Uuid) : List Char :=
  let digits := Nat.toDigits 16 id.bits.toNat
  List.replicate (32 - digits.length) '0' ++ digits

/-- Groups of eight, four, four, four and twelve digits, divided by hyphens. -/
def text (id : Uuid) : String :=
  let part := fun start length => String.ofList ((id.digits.drop start).take length)
  "-".intercalate [part 0 8, part 8 4, part 12 4, part 16 4, part 20 12]

def ofDigits? (digits : List Char) : Option Uuid :=
  if digits.length = 32 then (Text.hexNumber? digits).map ofNat else none

/-- The digits of five groups divided by hyphens. -/
def ungroup? (text : List Char) : Option (List Char) :=
  if text.length = 36 ∧ [8, 13, 18, 23].all (fun i => text[i]? == some '-') then
    some (text.take 8 ++ (text.drop 9).take 4 ++ (text.drop 14).take 4 ++ (text.drop 19).take 4 ++
      text.drop 24)
  else none

/-- Digits with or without hyphens; those with hyphens may stand between braces or follow
`urn:uuid:`, in capitals or not. -/
def ofText? (text : String) : Option Uuid :=
  let chars := text.toList
  if chars.length = 32 then ofDigits? chars
  else if chars.length = 36 then (ungroup? chars).bind ofDigits?
  else if chars.length = 38 ∧ chars.head? = some '\x7b' ∧ chars.getLast? = some '\x7d' then
    (ungroup? (chars.drop 1).dropLast).bind ofDigits?
  else if chars.length = 45 ∧ (chars.take 9).map Char.toLower = "urn:uuid:".toList then
    (ungroup? (chars.drop 9)).bind ofDigits?
  else none

def toJson (id : Uuid) : Json :=
  .string id.text

def ofJson? (document : Json) : Option Uuid :=
  document.string?.bind ofText?

end Uuid

end TemporalMonitor
