import TemporalMonitor.Proofs.Ordered
import TemporalMonitor.Value.Basic

/-!
Dotted paths into messages.

A path is cut at each of its dots, also where nothing stands between two of them, so a path that is
made of two paths and a dot has the parts of both. The parts are followed one after another, each
of them from a record to one of its fields. A field that is set is the first part of some paths, and
only what is found along these changes.
-/

namespace TemporalMonitor

namespace Value

/-- Follows names from a value, each of them through a record. -/
def follow? : List String → Value → Option Value
  | [], value => some value
  | name :: rest, value =>
      (value.message?.bind fun inner => inner.fields.lookup name).bind (follow? rest)

theorem follow_append (first second : List String) (value : Value) :
    value.follow? (first ++ second) = (value.follow? first).bind (follow? second) := by
  induction first generalizing value with
  | nil => rfl
  | cons name rest ih =>
      rw [List.cons_append, follow?, follow?, Option.bind_assoc _ (follow? rest)]
      exact congrArg _ (funext ih)

end Value

namespace Message

/-- The search in a message follows the names from its record. -/
theorem find_cons (name : String) (rest : List String) (fields : List (String × Value)) :
    find? (name :: rest) fields = (fields.lookup name).bind (Value.follow? rest) := by
  induction rest generalizing name fields with
  | nil => exact (Option.bind_fun_some _).symm
  | cons next rest ih =>
      rw [find?]
      · cases fields.lookup name with
        | none => rfl
        | some value =>
            cases value with
            | record inner => exact ih next inner
            | _ => rfl
      · exact List.cons_ne_nil next rest

section Parts

theorem splitPath_ne_nil (path : List Char) : splitPath path ≠ [] := by
  cases path with
  | nil => exact List.cons_ne_nil _ _
  | cons c rest =>
      rw [splitPath]
      split
      · exact List.cons_ne_nil _ _
      · split
        · exact List.cons_ne_nil _ _
        · exact List.cons_ne_nil _ _

/-- A character that is no dot belongs to the first part. -/
theorem splitPath_cons_of_ne {c : Char} (other : c ≠ '.') {rest part : List Char}
    {parts : List (List Char)} (split : splitPath rest = part :: parts) :
    splitPath (c :: rest) = (c :: part) :: parts := by
  rw [splitPath, if_neg other, split]

/-- A dot between two paths divides their parts. -/
theorem splitPath_append (first second : List Char) :
    splitPath (first ++ '.' :: second) = splitPath first ++ splitPath second := by
  induction first with
  | nil => rfl
  | cons c rest ih =>
      by_cases dot : c = '.'
      · rw [List.cons_append, splitPath, if_pos dot, ih, splitPath, if_pos dot]
        rfl
      · obtain ⟨part, parts, split⟩ := List.exists_cons_of_ne_nil (splitPath_ne_nil rest)
        rw [split] at ih
        rw [List.cons_append, splitPath_cons_of_ne dot ih, splitPath_cons_of_ne dot split]
        rfl

/-- A name without a dot is one part. -/
theorem splitPath_of_undotted {name : List Char} (undotted : '.' ∉ name) :
    splitPath name = [name] := by
  induction name with
  | nil => rfl
  | cons c rest ih =>
      have other : c ≠ '.' := fun dot => undotted (dot ▸ List.mem_cons_self)
      exact splitPath_cons_of_ne other (ih fun inside => undotted (List.mem_cons_of_mem _ inside))

/-- A path is its first part, or this part and more after a dot. -/
theorem eq_of_splitPath {path part : List Char} {parts : List (List Char)}
    (split : splitPath path = part :: parts) : path = part ∨ ∃ rest, path = part ++ '.' :: rest := by
  induction path generalizing part parts with
  | nil => exact .inl (List.cons.inj split).1
  | cons c rest ih =>
      by_cases dot : c = '.'
      · rw [splitPath, if_pos dot] at split
        obtain ⟨rfl, _⟩ := List.cons.inj split
        exact .inr ⟨rest, by rw [dot, List.nil_append]⟩
      · obtain ⟨first, others, later⟩ := List.exists_cons_of_ne_nil (splitPath_ne_nil rest)
        rw [splitPath_cons_of_ne dot later] at split
        obtain ⟨rfl, _⟩ := List.cons.inj split
        rcases ih later with same | ⟨more, longer⟩
        · exact .inl (congrArg (c :: ·) same)
        · exact .inr ⟨more, congrArg (c :: ·) longer⟩

end Parts

/-- The names that a path leads along. -/
def namesOf (path : String) : List String :=
  (splitPath path.toList).map String.ofList

theorem exists_namesOf (path : String) : ∃ name rest, namesOf path = name :: rest := by
  obtain ⟨part, parts, split⟩ := List.exists_cons_of_ne_nil (splitPath_ne_nil path.toList)
  exact ⟨_, _, by rw [namesOf, split, List.map_cons]⟩

theorem toList_joined (first second : String) :
    (first ++ "." ++ second).toList = first.toList ++ '.' :: second.toList := by
  rw [String.toList_append, String.toList_append, List.append_assoc]
  rfl

theorem namesOf_append (first second : String) :
    namesOf (first ++ "." ++ second) = namesOf first ++ namesOf second := by
  rw [namesOf, toList_joined, splitPath_append, List.map_append]
  rfl

theorem namesOf_of_undotted {name : String} (undotted : '.' ∉ name.toList) :
    namesOf name = [name] := by
  rw [namesOf, splitPath_of_undotted undotted, List.map_singleton, String.ofList_toList]

/-- Only the name itself, and paths that lead on from it, have it as their first part. -/
theorem eq_of_namesOf {path name : String} {names : List String}
    (leads : namesOf path = name :: names) :
    path = name ∨ ∃ rest, path = name ++ "." ++ rest := by
  obtain ⟨part, parts, split⟩ := List.exists_cons_of_ne_nil (splitPath_ne_nil path.toList)
  rw [namesOf, split, List.map_cons] at leads
  obtain ⟨rfl, _⟩ := List.cons.inj leads
  rcases eq_of_splitPath split with same | ⟨rest, longer⟩
  · left
    rw [← same, String.ofList_toList]
  · right
    refine ⟨String.ofList rest, String.toList_inj.mp ?_⟩
    rw [longer, toList_joined, String.toList_ofList, String.toList_ofList]

theorem get_eq (message : Message) {path name : String} {names : List String}
    (leads : namesOf path = name :: names) :
    message.get? path = (message.fields.lookup name).bind (Value.follow? names) := by
  rw [get?, ← find_cons, ← leads]
  rfl

/-- A path is followed from a value by reading it as a record. -/
theorem follow_namesOf (value : Value) (path : String) :
    value.follow? (namesOf path) = value.message?.bind fun inner => inner.get? path := by
  obtain ⟨name, names, leads⟩ := exists_namesOf path
  rw [leads, Value.follow?, Option.bind_assoc]
  exact congrArg _ (funext fun inner => (inner.get_eq leads).symm)

/-- A path that starts with a name is followed from the field of that name. -/
theorem get_set_eq (message : Message) (changed : String) (value : Value) {path name : String}
    {names : List String} (leads : namesOf path = name :: names) :
    (message.set changed value).get? path =
      if name = changed then value.follow? names else message.get? path := by
  rw [get_eq _ leads, get_eq _ leads, set, Ordered.lookup_insert]
  split
  · rfl
  · rfl

/-- What is found along a path made of two paths is found by the second one in what is found along
the first one. A field that is set is found under its name, and what it holds along the paths that
lead on from there. Nothing else changes. -/
theorem get_along_paths (message : Message) :
    (∀ first second : String, message.get? (first ++ "." ++ second) =
        ((message.get? first).bind Value.message?).bind fun inner => inner.get? second) ∧
      ∀ (name : String) (value : Value), '.' ∉ name.toList →
        (message.set name value).get? name = some value ∧
        (∀ rest : String, (message.set name value).get? (name ++ "." ++ rest) =
          value.message?.bind fun inner => inner.get? rest) ∧
        ∀ path : String, path ≠ name → (∀ rest : String, path ≠ name ++ "." ++ rest) →
          (message.set name value).get? path = message.get? path := by
  constructor
  · intro first second
    obtain ⟨name, names, leads⟩ := exists_namesOf first
    have longer : namesOf (first ++ "." ++ second) = name :: (names ++ namesOf second) := by
      rw [namesOf_append, leads, List.cons_append]
    rw [message.get_eq longer, message.get_eq leads, Option.bind_assoc, Option.bind_assoc]
    refine congrArg _ (funext fun value => ?_)
    rw [Value.follow_append]
    exact congrArg _ (funext fun value => follow_namesOf value second)
  · intro name value undotted
    have single := namesOf_of_undotted undotted
    refine ⟨?_, fun rest => ?_, fun path different apart => ?_⟩
    · rw [get_set_eq message name value single, if_pos rfl]
      rfl
    · have longer : namesOf (name ++ "." ++ rest) = name :: namesOf rest := by
        rw [namesOf_append, single, List.singleton_append]
      rw [get_set_eq message name value longer, if_pos rfl, follow_namesOf]
    · obtain ⟨first, names, leads⟩ := exists_namesOf path
      have other : first ≠ name := by
        rintro rfl
        rcases eq_of_namesOf leads with same | ⟨rest, longer⟩
        · exact different same
        · exact apart rest longer
      rw [get_set_eq message name value leads, if_neg other]

/-- A record without a name in a record without a name. -/
def unnamed : Message := ⟨[("", .record [("", .record [("é", .int 1)])])]⟩

/-- Two dots lead into the inner record. A field of another name changes nothing there, and a field
without a name hides it. -/
theorem get_along_paths_unnamed :
    unnamed.get? ("." ++ "." ++ "é") = some (.int 1) ∧
      ('.' ∉ "x".toList ∧ "..é" ≠ "x" ∧ (∀ rest : String, "..é" ≠ "x" ++ "." ++ rest) ∧
        (unnamed.set "x" .null).get? "..é" = unnamed.get? "..é") ∧
      '.' ∉ "".toList ∧ (unnamed.set "" .null).get? "" = some .null ∧
        (unnamed.set "" .null).get? ("" ++ "." ++ ".é") = none := by
  obtain ⟨compose, update⟩ := get_along_paths unnamed
  have apart (rest : String) : "..é" ≠ "x" ++ "." ++ rest := by
    intro same
    have first := congrArg (fun path => path.toList.head?) same
    rw [toList_joined] at first
    exact absurd first (show some '.' ≠ some 'x' by decide)
  obtain ⟨_, _, other⟩ := update "x" .null (by decide)
  obtain ⟨self, beyond, _⟩ := update "" .null (by decide)
  exact ⟨compose "." "é", ⟨by decide, by decide, apart, other "..é" (by decide) apart⟩, by decide,
    self, beyond ".é"⟩

end Message

end TemporalMonitor
