import Mathlib.Data.List.Nodup
import TemporalMonitor.Json.Fields
import TemporalMonitor.Proofs.Json.Reading

/-!
Records, choices and tagged alternatives hold the values they were made of.

A record is a table of its parts, some of which may be left out. As long as its names are distinct,
each part is found under its name.
-/

namespace TemporalMonitor.Json

/-- A document that can be read back from its text and holds the value. -/
structure Faithful {α : Type} (limit : Nat) (decode : Json → Option α) (document : Json)
    (value : α) : Prop where
  legible : Legible limit document
  decoded : decode document = some value

theorem areReadable_iff {items : List Json} :
    areReadable items = true ↔ ∀ item ∈ items, item.isReadable = true := by
  induction items with
  | nil => simp [areReadable]
  | cons item items ih => simp [areReadable, ih]

theorem haveReadable_iff {members : List (String × Json)} :
    haveReadable members = true ↔ ∀ member ∈ members, member.2.isReadable = true := by
  induction members with
  | nil => simp [haveReadable]
  | cons member members ih => simp [haveReadable, ih]

/-- Every part of a legible document has a value. -/
theorem Legible.isReadable {limit : Nat} {document : Json} (legible : Legible limit document) :
    document.isReadable = true := by
  induction legible with
  | null | bool | int | string => rfl
  | array _ ih => exact areReadable_iff.mpr ih
  | object _ ih => exact haveReadable_iff.mpr ih

theorem faithful_string (limit : Nat) (text : String) :
    Faithful limit string? (string text) text :=
  ⟨.string text, rfl⟩

theorem faithful_bool (limit : Nat) (value : Bool) : Faithful limit bool? (bool value) value :=
  ⟨.bool value, rfl⟩

theorem faithful_int64 (limit : Nat) (value : Int64) :
    Faithful limit int64? (int value.toInt) value := by
  have low := value.minValue_le_toInt
  have high := value.toInt_le
  refine ⟨.int ⟨low, Int.lt_of_le_of_lt high (by decide)⟩, ?_⟩
  simp only [int64?, intWithin?]
  rw [if_pos ⟨low, high⟩, Option.map_some, Int64.ofInt_toInt]

theorem nullable_string (text : String) : nullable? string? (string text) = some (some text) := rfl

theorem nullable_bool (value : Bool) : nullable? bool? (bool value) = some (some value) := rfl

/-- Every value is among the options, and their names tell them apart. -/
structure Names {α : Type} (options : List α) (name : α → String) : Prop where
  complete : ∀ value, value ∈ options
  distinct : ∀ first ∈ options, ∀ second ∈ options, name first = name second → first = second

theorem Names.faithful {α : Type} {options : List α} {name : α → String}
    (names : Names options name) (limit : Nat) (manner : Manner) (value : α) :
    Faithful limit (fun document => document.choice? options name manner)
      (string (name value)) value := by
  refine ⟨.string _, ?_⟩
  show options.find? (fun option => name option == name value) = some value
  cases found : options.find? fun option => name option == name value with
  | none =>
      have differs := List.find?_eq_none.mp found value (names.complete value)
      simp at differs
  | some other =>
      have same : name other = name value := by simpa using List.find?_some found
      exact congrArg some (names.distinct other (List.mem_of_find?_eq_some found) value
        (names.complete value) same)

/-- A list holds what its items hold. -/
theorem faithful_list {α : Type} {limit : Nat} {encode : α → Json} {decode : Json → Option α}
    {items : List α} (all : ∀ item ∈ items, Faithful limit decode (encode item) item) :
    Faithful (limit + 1) (list? decode) (array (items.map encode)) items := by
  constructor
  · refine .array fun document mem => ?_
    obtain ⟨item, inItems, rfl⟩ := List.mem_map.mp mem
    exact (all item inItems).legible
  · show (items.map encode).mapM decode = some items
    induction items with
    | nil => rfl
    | cons item items ih =>
        have first := (all item List.mem_cons_self).decoded
        have rest := ih fun item mem => all item (List.mem_cons_of_mem _ mem)
        simp [List.mapM_cons, first, rest]

/-- The members of a record, without the parts that are left out. -/
def given (parts : List (String × Option Json)) : List (String × Json) :=
  parts.filterMap fun part => part.2.map (Prod.mk part.1)

/-- A list that is left out when it is empty. -/
def unlessEmpty {α : Type} (encode : α → Json) (items : List α) : Option Json :=
  if items.isEmpty then none else some (array (items.map encode))

theorem legible_unlessEmpty {α : Type} {limit : Nat} {encode : α → Json} {items : List α}
    (all : ∀ item ∈ items, Legible limit (encode item)) :
    ∀ document ∈ unlessEmpty encode items, Legible (limit + 1) document := by
  cases items with
  | nil => simp [unlessEmpty]
  | cons item items =>
      rintro document ⟨⟩
      exact .array (List.forall_mem_map.mpr all)

/-- The names that are given are those of the parts, in order, with some left out. -/
theorem names_given (parts : List (String × Option Json)) :
    ((given parts).map Prod.fst).Sublist (parts.map Prod.fst) := by
  induction parts with
  | nil => exact .slnil
  | cons part parts ih =>
      obtain ⟨name, document?⟩ := part
      cases document? with
      | none => exact ih.cons name
      | some document => exact ih.cons_cons name

theorem occurrences_eq (name : String) (members : List (String × Json)) :
    occurrences name members = (members.map Prod.fst).count name := by
  rw [occurrences, List.count, List.countP_map]
  rfl

theorem lookup_eq_none_of_not_mem {name : String} {members : List (String × Json)}
    (absent : name ∉ members.map Prod.fst) : members.lookup name = none := by
  rw [List.lookup_eq_none_iff]
  intro member mem
  rw [bne_iff_ne]
  rintro rfl
  exact absent (List.mem_map_of_mem mem)

/-- Each part is found under its name. -/
theorem lookup_given {parts : List (String × Option Json)} (distinct : (parts.map Prod.fst).Nodup)
    (name : String) : (given parts).lookup name = (parts.lookup name).join := by
  induction parts with
  | nil => rfl
  | cons part parts ih =>
      obtain ⟨other, document?⟩ := part
      obtain ⟨absent, distinct⟩ := List.nodup_cons.mp distinct
      by_cases same : name = other
      · subst same
        rw [List.lookup_cons_self]
        cases document? with
        | some document => exact List.lookup_cons_self
        | none =>
            exact lookup_eq_none_of_not_mem fun mem => absent ((names_given parts).subset mem)
      · have differs : (name == other) = false := by simpa using same
        rw [List.lookup_cons, differs, ← ih distinct]
        cases document? with
        | some document => exact List.lookup_cons.trans (by rw [differs]; rfl)
        | none => rfl

/-- The parts of a record by name, of which some may be left out. -/
structure Table where
  parts : List (String × Option Json)
  distinct : (parts.map Prod.fst).Nodup

namespace Table

variable (table : Table)

def document : Json :=
  object (given table.parts)

/-- The parts together with a tag. -/
def tagged (tag kind : String) : Json :=
  object (given ((tag, some (string kind)) :: table.parts))

def fields : Fields :=
  .named (given table.parts)

theorem fields_document (names : List String) :
    table.document.fields? names = some table.fields := by
  refine if_pos (List.all_eq_true.mpr fun name _ => decide_eq_true ?_)
  rw [occurrences_eq]
  exact List.nodup_iff_count_le_one.mp ((names_given table.parts).nodup table.distinct) name

theorem find_fields (name : String) :
    table.fields.find? name = (table.parts.lookup name).join :=
  lookup_given table.distinct name

section Found

variable {α : Type} {decode : Json → Option α} {limit : Nat} (name : String)

theorem required_fields {document : Json} {value : α}
    (found : table.parts.lookup name = some (some document))
    (faithful : Faithful limit decode document value) :
    table.fields.required name decode = some value := by
  rw [Fields.required, find_fields, found]
  exact faithful.decoded

theorem optional_fields {encode : α → Json} {value? : Option α}
    (found : table.parts.lookup name = some (value?.map encode))
    (decoded : ∀ value, nullable? decode (encode value) = some (some value)) :
    table.fields.orDefault name none (nullable? decode) = some value? := by
  rw [Fields.orDefault, find_fields, found]
  cases value? with
  | none => rfl
  | some value => exact decoded value

theorem nullable_fields {document : Json} (found : table.parts.lookup name = some (some document)) :
    table.fields.orNull name decode = nullable? decode document := by
  unfold Fields.orNull
  rw [find_fields, found]
  rfl

theorem list_fields {encode : α → Json} {items : List α}
    (found : table.parts.lookup name = some (unlessEmpty encode items))
    (all : ∀ item ∈ items, Faithful limit decode (encode item) item) :
    table.fields.orDefault name [] (list? decode) = some items := by
  rw [Fields.orDefault, find_fields, found]
  cases items with
  | nil => rfl
  | cons item items => exact (faithful_list all).decoded

end Found

variable {table} {limit : Nat}

theorem legible (all : ∀ part ∈ table.parts, ∀ document ∈ part.2, Legible limit document) :
    Legible (limit + 1) table.document := by
  refine .object fun member mem => ?_
  obtain ⟨part, inParts, same⟩ := List.mem_filterMap.mp mem
  obtain ⟨document, inPart, rfl⟩ := Option.map_eq_some_iff.mp same
  exact all part inParts document inPart

theorem legible_tagged (legible : Legible (limit + 1) table.document) (tag kind : String) :
    Legible (limit + 1) (table.tagged tag kind) := by
  cases legible with
  | object all => exact .object (List.forall_mem_cons.mpr ⟨.string kind, all⟩)

theorem isReadable_filter (legible : Legible limit table.document)
    (keep : String × Json → Bool) :
    (object ((given table.parts).filter keep)).isReadable = true := by
  refine haveReadable_iff.mpr fun member mem => ?_
  exact haveReadable_iff.mp legible.isReadable member (List.mem_of_mem_filter mem)

/-- The parts of an alternative are found without the tag. -/
theorem tagged_tagged (legible : Legible limit table.document) {tag : String}
    (untagged : tag ∉ table.parts.map Prod.fst) (kind : String) (manner : Manner)
    (names : List String) :
    (table.tagged tag kind).tagged? manner tag names = some (kind, table.document) := by
  have absent : tag ∉ (given table.parts).map Prod.fst := fun mem =>
    untagged ((names_given table.parts).subset mem)
  have others : (given table.parts).filter (fun member => member.1 != tag) =
      given table.parts := by
    refine List.filter_eq_self.mpr fun member mem => ?_
    rw [bne_iff_ne]
    rintro rfl
    exact absent (List.mem_map_of_mem mem)
  have body : ((tag, string kind) :: given table.parts).filter (fun member => member.1 != tag) =
      given table.parts := by
    rw [List.filter_cons_of_neg (by simp), others]
  have once : occurrences tag ((tag, string kind) :: given table.parts) = 1 := by
    rw [occurrences_eq, List.map_cons, List.count_cons_self, List.count_eq_zero.mpr absent]
  have readable : (object (given table.parts)).isReadable = true := legible.isReadable
  show (object ((tag, string kind) :: given table.parts)).tagged? manner tag names = _
  simp only [tagged?, body, once, readable, and_self, if_true, List.lookup_cons_self]
  rfl

end Table

end TemporalMonitor.Json
