import TemporalMonitor.Proofs.Json.Scalars

/-!
A document is read back from its text, with or without spacing.

The reader looks at one character at a time, so each part of a text is read on its own: what follows
it matters only to a number. The bounds of the reader are met, since every item takes a character.
-/

namespace TemporalMonitor.Json

/-- A document without doubles, in which at most `limit` containers stand inside each other. -/
inductive Legible : Nat → Json → Prop where
  | null {limit : Nat} : Legible limit null
  | bool {limit : Nat} (value : Bool) : Legible limit (bool value)
  | int {limit : Nat} {value : Int} (word : IsWord value) : Legible limit (int value)
  | string {limit : Nat} (value : String) : Legible limit (string value)
  | array {limit : Nat} {items : List Json} (all : ∀ item ∈ items, Legible limit item) :
      Legible (limit + 1) (array items)
  | object {limit : Nat} {members : List (String × Json)}
      (all : ∀ member ∈ members, Legible limit member.2) : Legible (limit + 1) (object members)

attribute [simp] Legible.null Legible.bool Legible.string

section Blank

variable {blanks : List Char} (blank : ∀ c ∈ blanks, isBlank c = true)

include blank

theorem skipBlank_append (text : List Char) : skipBlank (blanks ++ text) = skipBlank text :=
  List.dropWhile_append_of_pos blank

theorem readValue_blank (bound limit : Nat) (text : List Char) :
    readValue bound limit (blanks ++ text) = readValue bound limit text := by
  unfold readValue
  rw [skipBlank_append blank]

theorem readItems_blank (bound limit fuel : Nat) (text : List Char) :
    readItems (readValue bound limit) fuel (blanks ++ text) =
      readItems (readValue bound limit) fuel text := by
  cases fuel with
  | zero => rfl
  | succ fuel => simp only [readItems, readValue_blank blank]

theorem readMembers_blank (bound limit fuel : Nat) (text : List Char) :
    readMembers (readValue bound limit) fuel (blanks ++ text) =
      readMembers (readValue bound limit) fuel text := by
  cases fuel with
  | zero => rfl
  | succ fuel => simp only [readMembers, readName, skipBlank_append blank]

/-- No number goes on with a blank. -/
theorem ends_blank {rest : List Char} (ends : Ends rest) : Ends (blanks ++ rest) := by
  cases blanks with
  | nil => exact ends
  | cons c blanks =>
      intro first same
      cases same
      have isBlank := blank c List.mem_cons_self
      simp only [Json.isBlank, Bool.or_eq_true, beq_iff_eq] at isBlank
      rcases isBlank with ((rfl | rfl) | rfl) | rfl <;> decide

end Blank

theorem skipBlank_cons {c : Char} (visible : isBlank c = false) (text : List Char) :
    skipBlank (c :: text) = c :: text := by
  rw [skipBlank, List.dropWhile_cons, visible]
  rfl

namespace Spacing

variable (spacing : Spacing)

theorem blank_line (level : Nat) : ∀ c ∈ spacing.line level, isBlank c = true := by
  intro c mem
  cases spacing with
  | tight => cases mem
  | indented =>
      rcases List.mem_cons.mp mem with rfl | mem
      · decide
      · rw [List.eq_of_mem_replicate mem]
        decide

theorem blank_gap : ∀ c ∈ spacing.gap, isBlank c = true := by
  intro c mem
  cases spacing with
  | tight => cases mem
  | indented =>
      rw [List.mem_singleton.mp mem]
      decide

end Spacing

theorem ends_charsItems (spacing : Spacing) (level : Nat) (items : List Json) (rest : List Char) :
    Ends (charsItems spacing level items ++ rest) := by
  cases items with
  | nil =>
      rw [charsItems, List.append_assoc]
      exact ends_blank (spacing.blank_line level) (fun c same => by cases same; decide)
  | cons item items => exact fun c same => by cases same; decide

theorem ends_charsMembers (spacing : Spacing) (level : Nat) (members : List (String × Json))
    (rest : List Char) :
    Ends (charsMembers spacing level members ++ rest) := by
  cases members with
  | nil =>
      rw [charsMembers, List.append_assoc]
      exact ends_blank (spacing.blank_line level) (fun c same => by cases same; decide)
  | cons member members => exact fun c same => by cases same; decide

theorem length_charsItems (spacing : Spacing) (level : Nat) (items : List Json) :
    items.length < (charsItems spacing level items).length := by
  induction items with
  | nil => simp [charsItems]
  | cons item items ih =>
      simp only [charsItems, List.length_cons, List.length_append]
      omega

theorem length_charsMembers (spacing : Spacing) (level : Nat) (members : List (String × Json)) :
    members.length < (charsMembers spacing level members).length := by
  induction members with
  | nil => simp [charsMembers]
  | cons member members ih =>
      simp only [charsMembers, List.length_cons, List.length_append]
      omega

/-- The reader takes the text of the document, and nothing of what follows. -/
def ReadsBack (bound limit : Nat) (spacing : Spacing) (level : Nat) (document : Json) : Prop :=
  (document.chars spacing level).length ≤ bound → ∀ rest, Ends rest →
    readValue bound limit (document.chars spacing level ++ rest) = some (document, rest)

variable {spacing : Spacing} {bound limit level : Nat}

theorem readItems_chars {first : Json} {items : List Json} {fuel : Nat}
    (back : ∀ item ∈ first :: items, ReadsBack bound limit spacing (level + 1) item)
    (room : items.length < fuel)
    (short : (first.chars spacing (level + 1) ++ charsItems spacing level items).length ≤ bound)
    (rest : List Char) :
    readItems (readValue bound limit) fuel
        (first.chars spacing (level + 1) ++ (charsItems spacing level items ++ rest)) =
      some (first :: items, rest) := by
  -- Each item takes one unit of fuel and leaves a comma or the closing bracket ahead.
  induction items generalizing first fuel with
  | nil =>
      have fits : (first.chars spacing (level + 1)).length ≤ bound := by
        rw [List.length_append] at short
        omega
      have read := back first List.mem_cons_self fits _ (ends_charsItems spacing level [] rest)
      have closing : skipBlank (charsItems spacing level [] ++ rest) = ']' :: rest := by
        rw [charsItems, List.append_assoc, skipBlank_append (spacing.blank_line level)]
        rfl
      cases fuel with
      | zero => exact absurd room (Nat.not_lt_zero _)
      | succ fuel => simp only [readItems, read, closing, bind, Option.bind]
  | cons item items ih =>
      simp only [charsItems, List.length_append, List.length_cons] at short
      have fits : (first.chars spacing (level + 1)).length ≤ bound := by omega
      have read := back first List.mem_cons_self fits _
        (ends_charsItems spacing level (item :: items) rest)
      have comma : skipBlank (charsItems spacing level (item :: items) ++ rest) =
          ',' :: (spacing.line (level + 1) ++
            (item.chars spacing (level + 1) ++ (charsItems spacing level items ++ rest))) := by
        simp only [charsItems, List.cons_append, List.append_assoc]
        rfl
      cases fuel with
      | zero => exact absurd room (Nat.not_lt_zero _)
      | succ fuel =>
          have later := ih (fun item mem => back item (List.mem_cons_of_mem first mem))
            (Nat.lt_of_succ_lt_succ room) (by rw [List.length_append]; omega)
          rw [← readItems_blank (spacing.blank_line (level + 1))] at later
          simp only [readItems, read, comma, later, bind, Option.bind]

theorem readName_stringChars (name : String) (rest : List Char) :
    readName (stringChars name ++ ':' :: rest) = some (some name, rest) := by
  have opening : skipBlank (stringChars name ++ ':' :: rest) =
      '\x22' :: (name.toList.flatMap escape ++ '\x22' :: ':' :: rest) := by
    simp only [stringChars, List.cons_append, List.append_assoc]
    rfl
  have colon : skipBlank (':' :: rest) = ':' :: rest := rfl
  simp only [readName, opening, readString_escaped, colon, bind, Option.bind]

theorem readMembers_chars {name : String} {value : Json} {members : List (String × Json)}
    {fuel : Nat} (back : ∀ member ∈ (name, value) :: members,
      ReadsBack bound limit spacing (level + 1) member.2)
    (room : members.length < fuel)
    (short : (value.chars spacing (level + 1) ++ charsMembers spacing level members).length ≤ bound)
    (rest : List Char) :
    readMembers (readValue bound limit) fuel
        (stringChars name ++ ':' :: (spacing.gap ++
          (value.chars spacing (level + 1) ++ (charsMembers spacing level members ++ rest)))) =
      some (some ((name, value) :: members), rest) := by
  induction members generalizing name value fuel with
  | nil =>
      have fits : (value.chars spacing (level + 1)).length ≤ bound := by
        rw [List.length_append] at short
        omega
      have read := back (name, value) List.mem_cons_self fits _
        (ends_charsMembers spacing level [] rest)
      rw [← readValue_blank spacing.blank_gap] at read
      have closing : skipBlank (charsMembers spacing level [] ++ rest) = '\x7d' :: rest := by
        rw [charsMembers, List.append_assoc, skipBlank_append (spacing.blank_line level)]
        rfl
      cases fuel with
      | zero => exact absurd room (Nat.not_lt_zero _)
      | succ fuel =>
          simp only [readMembers, readName_stringChars, read, closing, bind, Option.bind,
            Option.map]
  | cons member members ih =>
      simp only [charsMembers, List.length_append, List.length_cons] at short
      have fits : (value.chars spacing (level + 1)).length ≤ bound := by omega
      have read := back (name, value) List.mem_cons_self fits _
        (ends_charsMembers spacing level (member :: members) rest)
      rw [← readValue_blank spacing.blank_gap] at read
      have comma : skipBlank (charsMembers spacing level (member :: members) ++ rest) =
          ',' :: (spacing.line (level + 1) ++ (stringChars member.1 ++ ':' :: (spacing.gap ++
            (member.2.chars spacing (level + 1) ++ (charsMembers spacing level members ++
              rest))))) := by
        simp only [charsMembers, List.cons_append, List.append_assoc]
        rfl
      cases fuel with
      | zero => exact absurd room (Nat.not_lt_zero _)
      | succ fuel =>
          have later := ih (fun member mem => back member (List.mem_cons_of_mem _ mem))
            (Nat.lt_of_succ_lt_succ room) (by rw [List.length_append]; omega)
          rw [← readMembers_blank (spacing.blank_line (level + 1))] at later
          simp only [readMembers, readName_stringChars, read, comma, later, bind, Option.bind,
            Option.map]

/-- Any other first character belongs to a scalar. -/
theorem readValue_scalar {c : Char} (visible : isBlank c = false) (notArray : c ≠ '[')
    (notObject : c ≠ '\x7b') (text : List Char) :
    readValue bound limit (c :: text) = readScalar (c :: text) := by
  unfold readValue
  rw [skipBlank_cons visible]
  split
  next same => exact absurd (List.cons.inj same).1 notArray
  next same => exact absurd (List.cons.inj same).1 notObject
  next => rfl

/-- A number starts with a sign or a digit. -/
theorem intChars_eq_cons (n : Int) :
    ∃ c more, intChars n = c :: more ∧ (c = '-' ∨ c.isDigit = true) := by
  unfold intChars
  split
  next => exact ⟨_, _, rfl, .inl rfl⟩
  next =>
    obtain ⟨c, more, digits, digit⟩ := Text.toDigits_eq_cons n.natAbs
    exact ⟨c, more, digits, .inr digit⟩

section Leads

variable {c : Char} (leads : c = '-' ∨ c.isDigit = true)

include leads

theorem ne_of_leads {other : Char} (differs : other ≠ '-' ∧ other.isDigit = false) :
    c ≠ other := by
  rintro rfl
  rcases leads with sign | digit
  · exact differs.1 sign
  · rw [differs.2] at digit
    cases digit

theorem isBlank_of_leads : isBlank c = false := by
  have space : c ≠ ' ' := ne_of_leads leads (by decide)
  have newline : c ≠ '\n' := ne_of_leads leads (by decide)
  have tab : c ≠ '\t' := ne_of_leads leads (by decide)
  have carriage : c ≠ '\r' := ne_of_leads leads (by decide)
  simp [isBlank, space, newline, tab, carriage]

theorem readScalar_of_leads (text : List Char) :
    readScalar (c :: text) = readNumber (c :: text) := by
  unfold readScalar
  split
  next same => exact absurd (List.cons.inj same).1 (ne_of_leads leads (by decide))
  next same => exact absurd (List.cons.inj same).1 (ne_of_leads leads (by decide))
  next same => exact absurd (List.cons.inj same).1 (ne_of_leads leads (by decide))
  next same => exact absurd (List.cons.inj same).1 (ne_of_leads leads (by decide))
  next => rfl

end Leads

theorem readValue_intChars {n : Int} (word : IsWord n) {rest : List Char} (ends : Ends rest) :
    readValue bound limit (intChars n ++ rest) = some (int n, rest) := by
  have read := readNumber_intChars word ends
  obtain ⟨c, more, text, leads⟩ := intChars_eq_cons n
  rw [text, List.cons_append] at read ⊢
  rw [readValue_scalar (isBlank_of_leads leads) (ne_of_leads leads (by decide))
    (ne_of_leads leads (by decide)), readScalar_of_leads leads, read]

theorem readValue_stringChars (text : String) (rest : List Char) :
    readValue bound limit (stringChars text ++ rest) = some (string text, rest) := by
  have opening : stringChars text ++ rest =
      '\x22' :: (text.toList.flatMap escape ++ '\x22' :: rest) := by
    simp [stringChars]
  rw [opening, readValue_scalar (by decide) (by decide) (by decide)]
  simp only [readScalar, readString_escaped, bind, Option.bind, Option.map, Option.getD]

/-- A text starts with a character that neither is blank nor ends an array. -/
theorem Legible.chars_eq_cons {document : Json} (legible : Legible limit document)
    (spacing : Spacing) (level : Nat) :
    ∃ c more, document.chars spacing level = c :: more ∧ isBlank c = false ∧ c ≠ ']' := by
  cases legible with
  | null => exact ⟨_, _, rfl, by decide, by decide⟩
  | bool value => cases value <;> exact ⟨_, _, rfl, by decide, by decide⟩
  | int word =>
      obtain ⟨c, more, text, leads⟩ := intChars_eq_cons _
      exact ⟨c, more, text, isBlank_of_leads leads, ne_of_leads leads (by decide)⟩
  | string value => exact ⟨_, _, rfl, by decide, by decide⟩
  | @array _ items all => cases items <;> exact ⟨_, _, rfl, by decide, by decide⟩
  | @object _ members all =>
      cases members <;> exact ⟨_, _, rfl, by decide, by decide⟩

theorem readValue_array {first : Json} {items : List Json} (legible : Legible limit first)
    (back : ∀ item ∈ first :: items, ReadsBack bound limit spacing (level + 1) item) :
    ReadsBack bound (limit + 1) spacing level (array (first :: items)) := by
  intro short rest _
  simp only [chars, List.length_cons, List.length_append] at short
  have room : items.length < bound := by
    have := length_charsItems spacing level items
    omega
  have read := readItems_chars back room (by rw [List.length_append]; omega) rest
  obtain ⟨c, more, text, visible, notClosing⟩ := legible.chars_eq_cons spacing (level + 1)
  have skipped : skipBlank (spacing.line (level + 1) ++ (first.chars spacing (level + 1) ++
      (charsItems spacing level items ++ rest))) =
        first.chars spacing (level + 1) ++ (charsItems spacing level items ++ rest) := by
    rw [skipBlank_append (spacing.blank_line _), text, List.cons_append, skipBlank_cons visible]
  rw [chars, List.cons_append, List.append_assoc, List.append_assoc, readValue,
    skipBlank_cons (by decide)]
  simp only [skipped]
  rw [text, List.cons_append] at read ⊢
  split
  next same => exact absurd (List.cons.inj same).1 notClosing
  next => rw [read]; rfl

theorem readValue_object {name : String} {value : Json} {members : List (String × Json)}
    (back : ∀ member ∈ (name, value) :: members,
      ReadsBack bound limit spacing (level + 1) member.2) :
    ReadsBack bound (limit + 1) spacing level (object ((name, value) :: members)) := by
  intro short rest _
  simp only [chars, List.length_cons, List.length_append] at short
  have room : members.length < bound := by
    have := length_charsMembers spacing level members
    omega
  have read := readMembers_chars back room (by rw [List.length_append]; omega) rest
  have skipped : skipBlank (spacing.line (level + 1) ++ (stringChars name ++ ':' :: (spacing.gap ++
      (value.chars spacing (level + 1) ++ (charsMembers spacing level members ++ rest))))) =
        stringChars name ++ ':' :: (spacing.gap ++
          (value.chars spacing (level + 1) ++ (charsMembers spacing level members ++ rest))) := by
    rw [skipBlank_append (spacing.blank_line _)]
    exact skipBlank_cons (by decide) _
  simp only [chars, List.cons_append, List.append_assoc]
  rw [readValue, skipBlank_cons (by decide)]
  simp only [skipped]
  split
  next same => cases same
  next => rw [read]; rfl

/-- A document is read back from its text, whatever follows. -/
theorem Legible.readsBack {document : Json} (legible : Legible limit document) (bound : Nat)
    (spacing : Spacing) (level : Nat) : ReadsBack bound limit spacing level document := by
  -- Items stand one level deeper than their container, so the level is generalised.
  induction legible generalizing level with
  | null => exact fun _ rest _ => readValue_scalar (by decide) (by decide) (by decide) _
  | bool value =>
      cases value <;> exact fun _ rest _ => readValue_scalar (by decide) (by decide) (by decide) _
  | int word => exact fun _ rest ends => readValue_intChars word ends
  | string value => exact fun _ rest _ => readValue_stringChars value rest
  | @array limit items all ih =>
      cases items with
      | nil => exact fun _ rest _ => rfl
      | cons first items =>
          exact readValue_array (all first List.mem_cons_self) fun item mem => ih item mem _
  | @object limit members all ih =>
      cases members with
      | nil => exact fun _ rest _ => rfl
      | cons member members => exact readValue_object fun member mem => ih member mem _

/-- Parsing undoes writing. -/
theorem Legible.parse_text {document : Json} (legible : Legible depthLimit document)
    (spacing : Spacing) : parse? (document.text spacing) = some document := by
  have read := legible.readsBack (document.text spacing).length spacing 0
    (Nat.le_of_eq String.length_ofList.symm) [] (by simp [Ends])
  rw [List.append_nil] at read
  simp only [parse?, read?, text, String.toList_ofList] at read ⊢
  rw [read]
  rfl

end TemporalMonitor.Json
