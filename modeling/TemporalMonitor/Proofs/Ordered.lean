import Mathlib.Data.List.Forall2
import Mathlib.Data.List.Induction
import Mathlib.Order.RelClasses
import TemporalMonitor.Ordered

/-!
Tables in ascending order of their keys.

What is found under a key does not depend on the order. But only in an ascending table there is one
value per key, so that a value can be replaced or taken out without another one coming to light.
-/

namespace TemporalMonitor.Ordered

section Lookup

variable {κ α β : Type} [DecidableEq κ]

/-- The first entry counts if it has the key. -/
theorem lookup_cons_eq (first : κ) (value : α) (rest : List (κ × α)) (key : κ) :
    ((first, value) :: rest).lookup key = if key = first then some value else rest.lookup key := by
  rw [List.lookup_cons]
  by_cases same : key = first
  · simp [same]
  · simp [same, beq_eq_false_iff_ne.mpr same]

theorem lookup_isSome_iff (table : List (κ × α)) (key : κ) :
    (table.lookup key).isSome = true ↔ key ∈ table.map Prod.fst := by
  rw [List.lookup_isSome_iff, List.mem_map]
  constructor
  · rintro ⟨entry, member, same⟩
    exact ⟨entry, member, (eq_of_beq same).symm⟩
  · rintro ⟨entry, member, rfl⟩
    exact ⟨entry, member, beq_self_eq_true _⟩

/-- What is found in a table is one of its entries. -/
theorem mem_of_lookup {table : List (κ × α)} {key : κ} {value : α}
    (found : table.lookup key = some value) : (key, value) ∈ table := by
  induction table with
  | nil => cases found
  | cons entry rest ih =>
      obtain ⟨first, present⟩ := entry
      rw [lookup_cons_eq] at found
      split at found
      · next same =>
          obtain rfl := Option.some.inj found
          rw [same]
          exact List.mem_cons_self
      · exact List.mem_cons_of_mem _ (ih found)

/-- If no key occurs twice, then every entry is found under its key. -/
theorem lookup_of_mem {table : List (κ × α)} (distinct : (table.map Prod.fst).Nodup) {key : κ}
    {value : α} (member : (key, value) ∈ table) : table.lookup key = some value := by
  induction table with
  | nil => cases member
  | cons entry rest ih =>
      obtain ⟨first, present⟩ := entry
      obtain ⟨fresh, others⟩ := List.nodup_cons.mp distinct
      rw [lookup_cons_eq]
      rcases List.mem_cons.mp member with here | later
      · obtain ⟨rfl, rfl⟩ := Prod.mk.inj here
        rw [if_pos rfl]
      · have different : key ≠ first := by
          rintro rfl
          exact fresh (List.mem_map.mpr ⟨_, later, rfl⟩)
        rw [if_neg different]
        exact ih others later

/-- Without the entries of a key nothing is found under it. -/
theorem lookup_filter_ne (key : κ) (table : List (κ × α)) (other : κ) :
    (table.filter fun entry => entry.1 != key).lookup other =
      if other = key then none else table.lookup other := by
  induction table with
  | nil => simp
  | cons entry rest ih =>
      obtain ⟨first, value⟩ := entry
      rw [List.filter_cons, lookup_cons_eq]
      by_cases removed : first = key
      · subst removed
        rw [if_neg (by simp), ih]
        split
        · rfl
        · rfl
      · rw [if_pos (by simpa using removed), lookup_cons_eq, ih]
        by_cases same : other = first
        · subst same
          rw [if_pos rfl, if_neg removed, if_pos rfl]
        · rw [if_neg same, if_neg same]

/-- Changing all values, and leaving some of them out, changes the one that is found likewise. -/
theorem lookup_filter_map (change : α → β) (keeps : β → Bool) {table : List (κ × α)}
    (distinct : (table.map Prod.fst).Nodup) (key : κ) :
    ((table.map fun entry => (entry.1, change entry.2)).filter fun entry => keeps entry.2).lookup
        key =
      ((table.lookup key).map change).filter keeps := by
  induction table with
  | nil => rfl
  | cons entry rest ih =>
      obtain ⟨first, value⟩ := entry
      obtain ⟨fresh, others⟩ := List.nodup_cons.mp distinct
      rw [List.map_cons, List.filter_cons, lookup_cons_eq]
      by_cases same : key = first
      · subst same
        have absent : rest.lookup key = none := by
          rw [← Option.not_isSome_iff_eq_none, lookup_isSome_iff]
          exact fresh
        rw [if_pos rfl, Option.map_some, Option.filter_some]
        split
        · rw [lookup_cons_eq, if_pos rfl]
        · rw [ih others, absent]
          rfl
      · rw [if_neg same, ← ih others]
        split
        · rw [lookup_cons_eq, if_neg same]
        · rfl

/-- Tables with the same keys, and related values under each of them, are related entry by entry. -/
theorem forall₂_of_lookup {related : α → β → Prop} {first : List (κ × α)} {second : List (κ × β)}
    (keys : second.map Prod.fst = first.map Prod.fst) (distinct : (first.map Prod.fst).Nodup)
    (each : ∀ key one other, first.lookup key = some one → second.lookup key = some other →
      related one other) :
    List.Forall₂ (fun one other => one.1 = other.1 ∧ related one.2 other.2) first second := by
  induction first generalizing second with
  | nil =>
      obtain rfl := List.map_eq_nil_iff.mp keys
      exact .nil
  | cons entry rest ih =>
      obtain ⟨key, one⟩ := entry
      obtain ⟨fresh, apart⟩ := List.nodup_cons.mp distinct
      cases second with
      | nil => cases keys
      | cons partner others =>
          obtain ⟨same, other⟩ := partner
          obtain ⟨equal, rests⟩ := List.cons.inj keys
          obtain rfl : same = key := equal
          have found : ((same, one) :: rest).lookup same = some one := by
            rw [lookup_cons_eq, if_pos rfl]
          have matched : ((same, other) :: others).lookup same = some other := by
            rw [lookup_cons_eq, if_pos rfl]
          refine .cons ⟨rfl, each same one other found matched⟩ (ih rests apart ?_)
          intro later value partner held kept
          have different : later ≠ same := by
            rintro rfl
            exact fresh ((lookup_isSome_iff rest later).mp (by rw [held]; rfl))
          refine each later value partner ?_ ?_
          · rw [lookup_cons_eq, if_neg different, held]
          · rw [lookup_cons_eq, if_neg different, kept]

end Lookup

variable {κ α : Type} [LT κ] [DecidableLT κ] [DecidableEq κ]

theorem mem_add {item other : κ} (items : List κ) :
    other ∈ add item items ↔ other = item ∨ other ∈ items := by
  induction items with
  | nil => simp [add]
  | cons first rest ih =>
      rw [add]
      split
      · rw [List.mem_cons]
      · split
        · next same =>
            subst same
            simp
        · rw [List.mem_cons, List.mem_cons, ih]
          exact or_left_comm

theorem mem_ofItems {item : κ} (items : List κ) : item ∈ ofItems items ↔ item ∈ items := by
  have collected (set : List κ) : item ∈ addAll items set ↔ item ∈ set ∨ item ∈ items := by
    induction items generalizing set with
    | nil => simp [addAll]
    | cons first rest ih =>
        change item ∈ addAll rest (add first set) ↔ _
        rw [ih, mem_add, List.mem_cons, or_right_comm, or_comm]
  rw [ofItems, collected]
  simp

/-- An insertion changes what is found under its key only. -/
theorem lookup_insert (key : κ) (value : α) (table : List (κ × α)) (other : κ) :
    (insert key value table).lookup other =
      if other = key then some value else table.lookup other := by
  induction table with
  | nil => rw [insert, lookup_cons_eq]
  | cons entry rest ih =>
      obtain ⟨first, present⟩ := entry
      rw [insert]
      split
      · rw [lookup_cons_eq]
      · split
        · next same =>
            obtain rfl : key = first := same
            rw [lookup_cons_eq, lookup_cons_eq]
            split
            · rfl
            · rfl
        · next different =>
            rw [lookup_cons_eq, lookup_cons_eq, ih]
            by_cases same : other = first
            · subst same
              rw [if_pos rfl, if_neg fun equal => different equal.symm, if_pos rfl]
            · rw [if_neg same, if_neg same]

/-- An entry after an insertion is the new one, or was there before. -/
theorem mem_insert {key : κ} {value : α} {table : List (κ × α)} {entry : κ × α}
    (member : entry ∈ insert key value table) : entry = (key, value) ∨ entry ∈ table := by
  induction table with
  | nil => exact .inl (List.mem_singleton.mp member)
  | cons first rest ih =>
      rw [insert] at member
      split at member
      · exact List.mem_cons.mp member
      · split at member
        · exact (List.mem_cons.mp member).imp_right (List.mem_cons_of_mem _)
        · rcases List.mem_cons.mp member with rfl | later
          · exact .inr List.mem_cons_self
          · exact (ih later).imp_right (List.mem_cons_of_mem _)

/-- An insertion adds its key to the keys. -/
theorem keys_insert (key : κ) (value : α) (table : List (κ × α)) :
    (insert key value table).map Prod.fst = add key (table.map Prod.fst) := by
  induction table with
  | nil => rfl
  | cons entry rest ih =>
      rw [insert, List.map_cons, add]
      split
      · rfl
      · split
        · next same => rw [List.map_cons, same]
        · rw [List.map_cons, ih]

/-- An update adds its key to the keys. -/
theorem keys_update (start : α) (key : κ) (change : α → α) (table : List (κ × α)) :
    (update start key change table).map Prod.fst = add key (table.map Prod.fst) := by
  induction table with
  | nil => rfl
  | cons entry rest ih =>
      rw [update, List.map_cons, add]
      split
      · rfl
      · split
        · next same => rw [List.map_cons, same]
        · rw [List.map_cons, ih]

/-- If a change adds one item to the value under its key, then an update adds one to all of them. -/
theorem length_update {β : Type*} (start : α) {change : α → α} (items : α → List β)
    (none_yet : items start = [])
    (grows : ∀ value, (items (change value)).length = (items value).length + 1) (key : κ)
    (table : List (κ × α)) :
    ((update start key change table).flatMap fun entry => items entry.2).length =
      (table.flatMap fun entry => items entry.2).length + 1 := by
  induction table with
  | nil => simp [update, grows, none_yet]
  | cons entry rest ih =>
      rw [update]
      split
      · simp only [List.flatMap_cons, List.length_append, grows, none_yet, List.length_nil]
        omega
      · split
        · simp only [List.flatMap_cons, List.length_append, grows]
          omega
        · simp only [List.flatMap_cons, List.length_append, ih]
          omega

/-- Each key is less than those that follow. -/
def Ascending (table : List (κ × α)) : Prop :=
  (table.map Prod.fst).Pairwise (· < ·)

instance (table : List (κ × α)) : Decidable (Ascending table) :=
  inferInstanceAs (Decidable ((table.map Prod.fst).Pairwise (· < ·)))

variable [IsStrictTotalOrder κ (· < ·)]

/-- Adding an item keeps the order. -/
theorem pairwise_add (item : κ) {items : List κ} (ascending : items.Pairwise (· < ·)) :
    (add item items).Pairwise (· < ·) := by
  induction items with
  | nil => exact List.pairwise_singleton _ _
  | cons first rest ih =>
      obtain ⟨least, ordered⟩ := List.pairwise_cons.mp ascending
      rw [add]
      split
      · next less =>
          refine List.pairwise_cons.mpr ⟨fun other member => ?_, ascending⟩
          rcases List.mem_cons.mp member with rfl | later
          · exact less
          · exact trans_of (· < ·) less (least other later)
      · split
        · exact ascending
        · next notLess different =>
            refine List.pairwise_cons.mpr ⟨fun other member => ?_, ih ordered⟩
            rcases (mem_add rest).mp member with rfl | later
            · rcases trichotomous_of (· < ·) first other with less | same | greater
              · exact less
              · exact absurd same.symm different
              · exact absurd greater notLess
            · exact least other later

/-- Adding an item that is there already changes nothing. -/
theorem add_of_mem {item : κ} {items : List κ} (ascending : items.Pairwise (· < ·))
    (member : item ∈ items) : add item items = items := by
  induction items with
  | nil => cases member
  | cons first rest ih =>
      obtain ⟨least, ordered⟩ := List.pairwise_cons.mp ascending
      rw [add]
      split
      · next less =>
          rcases List.mem_cons.mp member with rfl | later
          · exact absurd less (irrefl_of (· < ·) _)
          · exact absurd (trans_of (· < ·) less (least item later)) (irrefl_of (· < ·) _)
      · split
        · rfl
        · next different =>
            rw [ih ordered ((List.mem_cons.mp member).resolve_left different)]

theorem pairwise_ofItems (items : List κ) : (ofItems items).Pairwise (· < ·) := by
  have collected (set : List κ) (ascending : set.Pairwise (· < ·)) :
      (addAll items set).Pairwise (· < ·) := by
    induction items generalizing set with
    | nil => exact ascending
    | cons first rest ih => exact ih _ (pairwise_add first ascending)
  exact collected [] List.Pairwise.nil

theorem nodup_ofItems (items : List κ) : (ofItems items).Nodup :=
  (pairwise_ofItems items).imp fun less => ne_of_irrefl less

/-- What has the greatest key comes last. -/
theorem insert_last {key : κ} {table : List (κ × α)} (last : ∀ entry ∈ table, entry.1 < key)
    (value : α) : insert key value table = table ++ [(key, value)] := by
  induction table with
  | nil => rfl
  | cons entry rest ih =>
      have less : entry.1 < key := last entry List.mem_cons_self
      have notLess : ¬ key < entry.1 := asymm_of (· < ·) less
      have different : key ≠ entry.1 := (ne_of_irrefl less).symm
      have later := ih fun other member => last other (List.mem_cons_of_mem _ member)
      rw [insert, if_neg notLess, if_neg different, later, List.cons_append]

/-- In an ascending table a value is replaced where it stands. -/
theorem insert_between {before after : List (κ × α)} {key : κ} {old : α}
    (ascending : Ascending (before ++ (key, old) :: after)) (value : α) :
    insert key value (before ++ (key, old) :: after) = before ++ (key, value) :: after := by
  induction before with
  | nil => rw [List.nil_append, insert, if_neg (irrefl_of (· < ·) key), if_pos rfl, List.nil_append]
  | cons entry rest ih =>
      obtain ⟨least, ordered⟩ := List.pairwise_cons.mp ascending
      have less : entry.1 < key := least key (by simp)
      have notLess : ¬ key < entry.1 := asymm_of (· < ·) less
      have different : key ≠ entry.1 := (ne_of_irrefl less).symm
      rw [List.cons_append, insert, if_neg notLess, if_neg different, ih ordered, List.cons_append]

namespace Ascending

variable {table : List (κ × α)} (ascending : Ascending table)

include ascending

omit [DecidableLT κ] [DecidableEq κ] in
theorem nodup : (table.map Prod.fst).Nodup :=
  List.Pairwise.imp (fun less => ne_of_irrefl less) ascending

/-- An insertion keeps the order of the table. -/
theorem insert (key : κ) (value : α) : Ascending (Ordered.insert key value table) := by
  rw [Ascending, keys_insert]
  exact pairwise_add key ascending

/-- Replacing a value keeps the keys. -/
theorem keys_insert_of_mem {key : κ} (known : key ∈ table.map Prod.fst) (value : α) :
    (Ordered.insert key value table).map Prod.fst = table.map Prod.fst := by
  rw [keys_insert, add_of_mem ascending known]

/-- In an ascending table an update puts the changed value in place of the old one. -/
theorem update_eq (start : α) (key : κ) (change : α → α) :
    update start key change table =
      Ordered.insert key (change ((table.lookup key).getD start)) table := by
  induction table with
  | nil => rfl
  | cons entry rest ih =>
      obtain ⟨first, value⟩ := entry
      obtain ⟨least, ordered⟩ := List.pairwise_cons.mp ascending
      rw [update, Ordered.insert, lookup_cons_eq]
      split
      · next less =>
          -- All keys are greater, so there is no value yet.
          have absent : rest.lookup key = none := by
            rw [← Option.not_isSome_iff_eq_none, lookup_isSome_iff]
            exact fun later => asymm_of (· < ·) less (least key later)
          rw [if_neg (ne_of_irrefl less), absent, Option.getD_none]
      · split
        · rfl
        · rw [ih ordered]

/-- A table in order is the table of its entries. -/
theorem ofPairs_eq : ofPairs table = table := by
  -- The entries are inserted one after the other, each behind those before it.
  have collected (done rest : List (κ × α)) (ascending : Ascending (done ++ rest)) :
      rest.foldl (fun table pair => Ordered.insert pair.1 pair.2 table) done = done ++ rest := by
    induction rest generalizing done with
    | nil => exact (List.append_nil done).symm
    | cons entry rest ih =>
        have last : ∀ other ∈ done, other.1 < entry.1 := by
          rw [Ascending, List.map_append, List.pairwise_append] at ascending
          intro other member
          exact ascending.2.2 _ (List.mem_map_of_mem member) _
            (List.mem_map_of_mem List.mem_cons_self)
        rw [List.append_cons done entry rest] at ascending ⊢
        rw [List.foldl_cons, insert_last last]
        exact ih _ ascending
  exact collected [] table ascending

omit [DecidableLT κ] in
/-- A table lists what is found under its keys. -/
theorem eq_map_keys (absent : α) :
    table = (table.map Prod.fst).map fun key => (key, (table.lookup key).getD absent) := by
  have found (entry : κ × α) (member : entry ∈ table) :
      (entry.1, (table.lookup entry.1).getD absent) = id entry := by
    rw [lookup_of_mem ascending.nodup member, Option.getD_some, id_eq]
  rw [List.map_map]
  exact ((List.map_congr_left found).trans (List.map_id table)).symm

end Ascending

section Grouped

variable {β : Type} (start : α) (key : β → κ) (change : β → α → α)

/-- The table in which the value under a key has gone through the changes of all items with it. -/
def grouped (items : List β) : List (κ × α) :=
  items.foldl (fun table item => update start (key item) (change item) table) []

omit [IsStrictTotalOrder κ (· < ·)] in
theorem grouped_append (items : List β) (item : β) :
    grouped start key change (items ++ [item]) =
      update start (key item) (change item) (grouped start key change items) := by
  rw [grouped, List.foldl_append]
  rfl

omit [IsStrictTotalOrder κ (· < ·)] in
theorem keys_grouped (items : List β) :
    (grouped start key change items).map Prod.fst = ofItems (items.map key) := by
  rw [ofItems, addAll, List.foldl_map]
  exact (List.foldl_hom (List.map Prod.fst) fun table item =>
    (keys_update start (key item) (change item) table).symm).symm

theorem ascending_grouped (items : List β) : Ascending (grouped start key change items) := by
  rw [Ascending, keys_grouped]
  exact pairwise_ofItems _

/-- Under a key only the items with that key count. -/
theorem lookup_grouped (items : List β) (wanted : κ) :
    ((grouped start key change items).lookup wanted).getD start =
      (items.filter fun item => key item == wanted).foldl (fun value item => change item value)
        start := by
  induction items using List.reverseRecOn with
  | nil => rfl
  | append_singleton items item ih =>
      rw [grouped_append, (ascending_grouped start key change items).update_eq, lookup_insert,
        List.filter_append, List.foldl_append, ← ih]
      by_cases same : wanted = key item
      · subst same
        simp
      · simp [same, Ne.symm same]

end Grouped

end TemporalMonitor.Ordered
