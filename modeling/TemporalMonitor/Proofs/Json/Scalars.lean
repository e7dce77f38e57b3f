import Mathlib.Data.List.Basic
import TemporalMonitor.Json.Reader
import TemporalMonitor.Json.Writer

/-!
Strings and whole numbers in JSON text are read back as they were written.

A string ends with its quote, but a number ends only where something follows that cannot belong to
it.
-/

namespace TemporalMonitor

namespace Text

theorem hexValue_digitChar {n : Nat} (small : n < 16) : hexValue? (Nat.digitChar n) = some n := by
  have all : ∀ n < 16, hexValue? (Nat.digitChar n) = some n := by decide
  exact all n small

theorem decimalValue_toDigits (n : Nat) : decimalValue (Nat.toDigits 10 n) = n := by
  calc decimalValue (Nat.toDigits 10 n)
      = Nat.ofDigitChars 10 (Nat.toDigits 10 n) 0 := by
        simp only [decimalValue, Nat.ofDigitChars_eq_foldl, Nat.mul_comm]
    _ = n := Nat.ofDigitChars_ten_toDigits

theorem isDigit_of_mem_toDigits {n : Nat} {c : Char} (mem : c ∈ Nat.toDigits 10 n) :
    c.isDigit = true :=
  Nat.isDigit_of_mem_toDigits (by decide) (by decide) mem

theorem toDigits_eq_cons (n : Nat) :
    ∃ c more, Nat.toDigits 10 n = c :: more ∧ c.isDigit = true := by
  cases digits : Nat.toDigits 10 n with
  | nil => exact absurd digits Nat.toDigits_ne_nil
  | cons c more =>
      exact ⟨c, more, rfl, isDigit_of_mem_toDigits (digits ▸ List.mem_cons_self)⟩

/-- Only zero has a first digit that is zero. -/
theorem toDigits_head {n : Nat} (positive : 0 < n) : (Nat.toDigits 10 n).head? ≠ some '0' := by
  induction n using Nat.strongRecOn with
  | ind n ih =>
      by_cases small : n < 10
      · rw [Nat.toDigits_of_lt_base small, List.head?_cons, Ne, Option.some.injEq,
          Nat.digitChar_eq_zero]
        omega
      · rw [Nat.toDigits_of_base_le (by decide) (by omega),
          List.head?_append_of_ne_nil _ Nat.toDigits_ne_nil]
        exact ih (n / 10) (by omega) (by omega)

end Text

namespace Json

theorem readPieces_plain {c : Char} (notQuote : c ≠ '\x22') (notBackslash : c ≠ '\\')
    (plain : ¬ c.toNat < 0x20) (rest : List Char) :
    readPieces (c :: rest) =
      (readPieces rest).map fun read => (.char c :: read.1, read.2) := by
  have kept : (c == '\\' || decide (c.toNat < 0x20)) = false := by
    simpa [notBackslash] using plain
  rw [readPieces]
  · rw [kept]
    cases readPieces rest <;> rfl
  all_goals simp [notQuote, notBackslash]

theorem unit_control {c : Char} (control : c.toNat < 0x20) :
    unit? '0' '0' (hexDigit (c.toNat / 16)) (hexDigit (c.toNat % 16)) = some c.toNat := by
  have zero : Text.hexValue? '0' = some 0 := by decide
  have high := Text.hexValue_digitChar (show c.toNat / 16 < 16 by omega)
  have low := Text.hexValue_digitChar (show c.toNat % 16 < 16 by omega)
  have code : c.toNat / 16 * 16 + c.toNat % 16 = c.toNat := by omega
  simp [unit?, Text.hexNumber?, hexDigit, zero, high, low, code]

theorem joinPieces_control {c : Char} (control : c.toNat < 0x20) (pieces : List Piece) :
    joinPieces? (.unit c.toNat :: pieces) = (joinPieces? pieces).map (c :: ·) := by
  have notHigh : isHighSurrogate c.toNat = false := by simp [isHighSurrogate]; omega
  have notLow : isLowSurrogate c.toNat = false := by simp [isLowSurrogate]; omega
  rw [joinPieces?.eq_def]
  simp only [notHigh, notLow, Char.ofNat_toNat]
  rfl

/-- One character is written as one piece, which stands for it. -/
theorem escape_piece (c : Char) :
    ∃ piece : Piece,
      (∀ rest, readPieces (escape c ++ rest) =
        (readPieces rest).map fun read => (piece :: read.1, read.2)) ∧
      ∀ pieces, joinPieces? (piece :: pieces) = (joinPieces? pieces).map (c :: ·) := by
  unfold escape
  split
  case h_8 notQuote notBackslash _ _ _ _ _ =>
    split
    next control =>
      refine ⟨.unit c.toNat, fun rest => ?_, joinPieces_control control⟩
      simp only [List.cons_append, List.nil_append, readPieces, unit_control control]
      cases readPieces rest <;> rfl
    next plain =>
      exact ⟨.char c, readPieces_plain notQuote notBackslash plain, fun _ => rfl⟩
  all_goals
    -- A backslash and a letter.
    refine ⟨.char _, fun rest => ?_, fun _ => rfl⟩
    simp only [List.cons_append, List.nil_append]
    rw [readPieces]
    · cases readPieces rest <;> rfl
    all_goals simp

/-- Up to the closing quote, the pieces are those of the text. -/
theorem readPieces_escaped (text rest : List Char) :
    ∃ pieces, readPieces (text.flatMap escape ++ '\x22' :: rest) = some (pieces, rest) ∧
      joinPieces? pieces = some text := by
  induction text with
  | nil => exact ⟨[], by simp [readPieces], rfl⟩
  | cons c text ih =>
      obtain ⟨pieces, read, joined⟩ := ih
      obtain ⟨piece, readPiece, joinPiece⟩ := escape_piece c
      refine ⟨piece :: pieces, ?_, ?_⟩
      · rw [List.flatMap_cons, List.append_assoc, readPiece, read]
        rfl
      · rw [joinPiece, joined]
        rfl

theorem readString_escaped (text : String) (rest : List Char) :
    readString (text.toList.flatMap escape ++ '\x22' :: rest) = some (some text, rest) := by
  obtain ⟨pieces, read, joined⟩ := readPieces_escaped text.toList rest
  simp [readString, read, joined]

/-- Nothing here can belong to a number before it. -/
def Ends (rest : List Char) : Prop :=
  ∀ c ∈ rest.head?, c.isDigit = false ∧ c ≠ '.' ∧ c ≠ 'e' ∧ c ≠ 'E'

theorem splitDigits_append {digits rest : List Char} (all : ∀ c ∈ digits, c.isDigit = true)
    (ends : Ends rest) : splitDigits (digits ++ rest) = (digits, rest) := by
  have none : rest.takeWhile Char.isDigit = [] ∧ rest.dropWhile Char.isDigit = rest := by
    cases rest with
    | nil => exact ⟨rfl, rfl⟩
    | cons c rest => simp [(ends c rfl).1]
  rw [splitDigits, List.takeWhile_append_of_pos all, List.dropWhile_append_of_pos all, none.1,
    none.2, List.append_nil]

/-- The digits before the point are all those of the number, since no zero leads them. -/
theorem readWhole_toDigits (n : Nat) {rest : List Char} (ends : Ends rest) :
    readWhole (Nat.toDigits 10 n ++ rest) = some (Nat.toDigits 10 n, rest) := by
  rw [readWhole, splitDigits_append (fun _ => Text.isDigit_of_mem_toDigits) ends]
  by_cases zero : n = 0
  · subst zero
    rfl
  · have lead := Text.toDigits_head (show 0 < n by omega)
    split
    next empty => exact absurd (congrArg Prod.fst empty) Nat.toDigits_ne_nil
    next zeroed => exact absurd (congrArg (List.head? ∘ Prod.fst) zeroed) lead
    next same =>
      cases same
      rfl

theorem readFraction_of_ends {rest : List Char} (ends : Ends rest) :
    readFraction rest = some (none, rest) := by
  unfold readFraction
  split
  next => exact absurd rfl (ends '.' rfl).2.1
  next => rfl

theorem readExponent_of_ends {rest : List Char} (ends : Ends rest) :
    readExponent rest = some (none, rest) := by
  cases rest with
  | nil => rfl
  | cons c rest =>
      obtain ⟨_, _, lower, upper⟩ := ends c rfl
      simp [readExponent, lower, upper]

/-- A whole number that 64 bits can hold, with a sign or without. -/
def IsWord (n : Int) : Prop :=
  Int64.minValue.toInt ≤ n ∧ n < UInt64.size

theorem ofNumber_whole {n : Int} (word : IsWord n) {negative : Bool}
    (sign : negative = decide (n < 0)) :
    ofNumber negative (Nat.toDigits 10 n.natAbs) none none = int n := by
  have value : (if negative = true then -(Text.decimalValue (Nat.toDigits 10 n.natAbs) : Int)
      else Text.decimalValue (Nat.toDigits 10 n.natAbs)) = n := by
    rw [Text.decimalValue_toDigits, sign]
    split
    next below => have := of_decide_eq_true below; omega
    next above => have := of_decide_eq_false (Bool.eq_false_iff.mpr above); omega
  have signed : (negative && n == 0) = false := by
    rw [sign, Bool.and_eq_false_iff, decide_eq_false_iff_not, beq_eq_false_iff_ne]
    omega
  have fits : (!(negative && n == 0) && decide (Int64.minValue.toInt ≤ n) &&
      decide (n < UInt64.size)) = true := by
    rw [signed, decide_eq_true word.1, decide_eq_true word.2]
    rfl
  rw [ofNumber, value]
  exact if_pos fits

theorem readNumber_negative {text digits rest : List Char}
    (whole : readWhole text = some (digits, rest)) (ends : Ends rest) :
    readNumber ('-' :: text) = some (ofNumber true digits none none, rest) := by
  unfold readNumber
  simp only [whole, readFraction_of_ends ends, readExponent_of_ends ends, bind, Option.bind]

theorem readNumber_unsigned {c : Char} {text digits rest : List Char} (notSign : c ≠ '-')
    (whole : readWhole (c :: text) = some (digits, rest)) (ends : Ends rest) :
    readNumber (c :: text) = some (ofNumber false digits none none, rest) := by
  unfold readNumber
  split
  next signed =>
  split at signed
  next same => exact absurd (List.cons.inj same).1 notSign
  next =>
    cases signed
    simp only [whole, readFraction_of_ends ends, readExponent_of_ends ends, bind, Option.bind]

theorem readNumber_intChars {n : Int} (word : IsWord n) {rest : List Char} (ends : Ends rest) :
    readNumber (intChars n ++ rest) = some (int n, rest) := by
  have whole := readWhole_toDigits n.natAbs ends
  unfold intChars
  split
  next below =>
    rw [List.cons_append, readNumber_negative whole ends,
      ofNumber_whole word (decide_eq_true below).symm]
  next above =>
    obtain ⟨c, more, digits, digit⟩ := Text.toDigits_eq_cons n.natAbs
    have notSign : c ≠ '-' := by
      intro same
      rw [same] at digit
      cases digit
    rw [digits, List.cons_append] at whole
    rw [digits, List.cons_append, readNumber_unsigned notSign whole ends, ← digits,
      ofNumber_whole word (decide_eq_false above).symm]

end Json

end TemporalMonitor
