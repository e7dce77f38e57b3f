import Mathlib.Data.List.Pairwise
import TemporalMonitor.Proofs.Machine.Duties
import TemporalMonitor.Proofs.Property.Scoped

/-!
Which properties have a machine.

A property is well formed if each of its events can occur, its topics and aliases name something, and
every test reads only what is bound where it takes place. These are conditions on the roles of a
property, and they do not depend on the order in which a property is checked.
-/

namespace TemporalMonitor

theorem Role.mem_all (role : Role) : role ∈ Role.all := by
  cases role <;> decide

/-- The event can occur, and its topics and its alias name something. -/
@[mk_iff]
structure Event.Sound (event : Event) : Prop where
  branches : event.branches ≠ []
  topics : ∀ branch ∈ event.branches, Text.isBlank branch.topic = false
  named : ∀ name ∈ event.alias?, Text.isBlank name = false

namespace Property

/-- The alias of the event that plays a role, if there are both. -/
def alias? (property : Property) (role : Role) : Option String :=
  (property.event? role).bind Event.alias?

/-- A test of the role may read the name: the alias of the activator inside the scope, and that of the
trigger in the behavior of a requirement or a response. -/
inductive Binds (property : Property) : Role → String → Prop where
  | scope {role : Role} {name : String} (inside : role ≠ .activator)
      (named : property.alias? .activator = some name) : Binds property role name
  | trigger {name : String}
      (related : property.pattern.kind = .requirement ∨ property.pattern.kind = .response)
      (named : property.alias? .trigger = some name) : Binds property .behavior name

/-- Every event is sound, no two of them have one alias, and every name that is read is bound. -/
structure WellFormed (property : Property) : Prop where
  sound : ∀ {role event}, property.event? role = some event → event.Sound
  distinct : ∀ {role other name}, property.alias? role = some name →
    property.alias? other = some name → role = other
  bound : ∀ {role event}, property.event? role = some event →
    ∀ branch ∈ event.branches, ∀ name ∈ branch.references, property.Binds role name

/-- Checks that follow each other pass if and only if each of them does. -/
theorem checks_ok_iff {first second : Except ValidationError Unit} :
    (first >>= fun _ => second) = .ok () ↔ first = .ok () ∧ second = .ok () := by
  constructor
  · exact checks_ok
  · intro passed
    rw [passed.1]
    exact passed.2

theorem checkBranches_ok_iff {role : String} {event : Event} :
    checkBranches role event = .ok () ↔
      event.branches ≠ [] ∧ ∀ branch ∈ event.branches, Text.isBlank branch.topic = false := by
  unfold checkBranches
  split
  · next empty => simp [List.isEmpty_iff.mp empty]
  · next given =>
      split
      · next blank =>
          obtain ⟨topic, listed, blank⟩ := List.any_eq_true.mp blank
          obtain ⟨branch, member, rfl⟩ := List.mem_map.mp listed
          constructor
          · intro passed
            cases passed
          · intro sound
            exact absurd blank (by simp [sound.2 branch member])
      · next named =>
          refine ⟨fun _ => ⟨fun empty => given (List.isEmpty_iff.mpr empty), ?_⟩, fun _ => rfl⟩
          intro branch member
          rw [← Bool.not_eq_true]
          exact fun blank => named (List.any_eq_true.mpr ⟨_, List.mem_map_of_mem member, blank⟩)

theorem checkAlias_ok_iff {seen : List String} {role name : String} :
    checkAlias seen role name = .ok () ↔ Text.isBlank name = false ∧ name ∉ seen := by
  unfold checkAlias
  split
  · next blank => simp [blank]
  · next given =>
      split
      · next known => simp [List.contains_iff_mem.mp known]
      · next new =>
          have first : Text.isBlank name = false := Bool.not_eq_true _ ▸ given
          have second : name ∉ seen := fun known => new (List.contains_iff_mem.mpr known)
          exact iff_of_true rfl ⟨first, second⟩

/-- Events pass the check if each of them is sound, and their aliases are new and given once. -/
theorem checkEvents_ok_iff {seen : List String} {events : List (String × Event)} :
    checkEvents seen events = .ok () ↔
      (∀ entry ∈ events, entry.2.Sound) ∧
        (events.filterMap fun entry => entry.2.alias?).Nodup ∧
        ∀ name ∈ events.filterMap fun entry => entry.2.alias?, name ∉ seen := by
  induction events generalizing seen with
  | nil => simp [checkEvents]
  | cons entry rest ih =>
      obtain ⟨role, event⟩ := entry
      rw [checkEvents, checks_ok_iff, checkBranches_ok_iff, List.forall_mem_cons, event.sound_iff]
      cases named : event.alias? with
      | none =>
          rw [List.filterMap_cons_none (by exact named)]
          dsimp only
          rw [ih]
          simp [and_assoc]
      | some name =>
          rw [List.filterMap_cons_some (by exact named), List.nodup_cons, List.forall_mem_cons]
          dsimp only
          have unseen : (∀ other ∈ rest.filterMap fun entry => entry.2.alias?,
              other ∉ name :: seen) ↔
                name ∉ (rest.filterMap fun entry => entry.2.alias?) ∧
                  ∀ other ∈ rest.filterMap fun entry => entry.2.alias?, other ∉ seen := by
            simp only [List.mem_cons, not_or, forall_and]
            refine and_congr_left fun _ => ⟨fun all again => all name again rfl, ?_⟩
            rintro new other member rfl
            exact new member
          rw [checks_ok_iff, checkAlias_ok_iff, ih, unseen]
          simp only [Option.mem_some_iff, forall_eq']
          tauto

theorem checkBound_ok_iff {names : List String} {event : Event} :
    checkBound names event = .ok () ↔ event.ReadsFrom names := by
  refine ⟨checkBound_ok, fun reads => ?_⟩
  have bound : unbound? names event = none := by
    refine List.findSome?_eq_none_iff.mpr fun branch member => ?_
    rw [Option.map_eq_none_iff, List.find?_eq_none]
    intro name read
    simpa using reads branch member name read
  rw [checkBound, bound]

theorem checkOptional_ok_iff {names : List String} {event? : Option Event} :
    checkOptional names event? = .ok () ↔ ∀ event ∈ event?, event.ReadsFrom names := by
  cases event? with
  | none => simp [checkOptional]
  | some event =>
      rw [checkOptional, checkBound_ok_iff]
      simp

/-- The events that are checked are those that play a role. -/
theorem events_eq (property : Property) :
    property.events =
      Role.all.filterMap fun role => (property.event? role).map (role.name, ·) := by
  obtain ⟨summary, scope, pattern⟩ := property
  cases scope <;> cases pattern <;> rfl

theorem mem_events {property : Property} {event : Event} :
    (∃ entry ∈ property.events, entry.2 = event) ↔ ∃ role, property.event? role = some event := by
  rw [events_eq]
  simp only [List.mem_filterMap, Option.map_eq_some_iff]
  constructor
  · rintro ⟨entry, ⟨role, _, found, plays, rfl⟩, rfl⟩
    exact ⟨role, plays⟩
  · rintro ⟨role, plays⟩
    exact ⟨_, ⟨role, role.mem_all, event, plays, rfl⟩, rfl⟩

/-- An alias is given once if no two roles share it. -/
theorem nodup_aliases_iff (property : Property) :
    (property.events.filterMap fun entry => entry.2.alias?).Nodup ↔
      ∀ {role other name}, property.alias? role = some name → property.alias? other = some name →
        role = other := by
  have given : property.events.filterMap (fun entry => entry.2.alias?) =
      Role.all.filterMap property.alias? := by
    rw [events_eq, List.filterMap_filterMap]
    refine List.filterMap_congr fun role _ => ?_
    rw [Option.bind_map]
    rfl
  rw [given, List.Nodup, List.pairwise_filterMap]
  constructor
  · intro apart role other name named otherNamed
    by_contra differ
    have symmetric : Std.Symm fun role other => ∀ name, property.alias? role = some name →
        ∀ otherName, property.alias? other = some otherName → name ≠ otherName :=
      ⟨fun role other apart name named otherName otherNamed =>
        (apart otherName otherNamed name named).symm⟩
    exact apart.forall role.mem_all other.mem_all differ name named name otherNamed rfl
  · intro shared
    have roles : Role.all.Nodup := by decide
    refine roles.pairwise_of_forall_ne fun role _ other _ differ name named otherName otherNamed => ?_
    rintro rfl
    exact differ (shared named otherNamed)

theorem mem_scopeNames_iff {property : Property} {name : String} :
    name ∈ property.scopeNames ↔ property.alias? .activator = some name :=
  Option.mem_toList

theorem mem_behaviorNames_iff {property : Property} {name : String} :
    name ∈ property.behaviorNames ↔ property.alias? .activator = some name ∨
      (property.pattern.kind = .requirement ∨ property.pattern.kind = .response) ∧
        property.alias? .trigger = some name := by
  obtain ⟨summary, scope, pattern⟩ := property
  rw [← mem_scopeNames_iff]
  cases pattern with
  | requirement behavior trigger bound =>
      exact List.mem_append.trans (or_congr_right (by simp [Pattern.kind, alias?, event?,
        Pattern.trigger?]))
  | response trigger behavior bound =>
      exact List.mem_append.trans (or_congr_right (by simp [Pattern.kind, alias?, event?,
        Pattern.trigger?]))
  | _ => simp [behaviorNames, Pattern.kind]

/-- The names that are bound where the event of a role is tested. -/
def namesFor (property : Property) : Role → List String
  | .activator => []
  | .terminator | .trigger => property.scopeNames
  | .behavior => property.behaviorNames

theorem mem_namesFor {property : Property} {role : Role} {name : String} :
    name ∈ property.namesFor role ↔ property.Binds role name := by
  have inside (other : role ≠ .activator) (plain : role ≠ .behavior) :
      property.alias? .activator = some name ↔ property.Binds role name := by
    refine ⟨.scope other, fun binds => ?_⟩
    cases binds with
    | scope _ named => exact named
    | trigger => exact absurd rfl plain
  cases role with
  | activator =>
      refine iff_of_false List.not_mem_nil fun binds => ?_
      cases binds with
      | scope inside => exact inside rfl
  | terminator => exact mem_scopeNames_iff.trans (inside (by decide) (by decide))
  | trigger => exact mem_scopeNames_iff.trans (inside (by decide) (by decide))
  | behavior =>
      rw [namesFor, mem_behaviorNames_iff]
      constructor
      · rintro (named | ⟨related, named⟩)
        · exact .scope (by decide) named
        · exact .trigger related named
      · intro binds
        cases binds with
        | scope _ named => exact .inl named
        | trigger related named => exact .inr ⟨related, named⟩

/-- The checks of the names that are read are one check for each role. -/
theorem checkNames_ok_iff {property : Property} :
    (checkOptional [] property.scope.activator? = .ok () ∧
      checkOptional property.scopeNames property.scope.terminator? = .ok () ∧
      checkOptional property.scopeNames property.pattern.trigger? = .ok () ∧
      checkBound property.behaviorNames property.pattern.behavior = .ok ()) ↔
        ∀ {role event}, property.event? role = some event →
          event.ReadsFrom (property.namesFor role) := by
  constructor
  · rintro ⟨activator, terminator, trigger, behavior⟩ role event plays
    cases role with
    | activator => exact checkOptional_ok activator plays
    | terminator => exact checkOptional_ok terminator plays
    | trigger => exact checkOptional_ok trigger plays
    | behavior =>
        obtain rfl := Option.some.inj plays
        exact checkBound_ok behavior
  · intro reads
    refine ⟨checkOptional_ok_iff.mpr fun event plays => ?_,
      checkOptional_ok_iff.mpr fun event plays => ?_,
      checkOptional_ok_iff.mpr fun event plays => ?_, checkBound_ok_iff.mpr ?_⟩
    · exact reads (show property.event? .activator = some event from plays)
    · exact reads (show property.event? .terminator = some event from plays)
    · exact reads (show property.event? .trigger = some event from plays)
    · exact reads (show property.event? .behavior = some property.pattern.behavior from rfl)

/-- The checks of a property pass if and only if it is well formed. -/
theorem validate_ok_iff {property : Property} :
    property.validate = .ok () ↔ property.WellFormed := by
  rw [validate, checks_ok_iff, checks_ok_iff, checks_ok_iff, checks_ok_iff, checkNames_ok_iff,
    checkEvents_ok_iff, nodup_aliases_iff]
  constructor
  · rintro ⟨⟨sound, distinct, _⟩, reads⟩
    refine ⟨fun plays => ?_, distinct, fun plays branch member name read => ?_⟩
    · obtain ⟨entry, member, rfl⟩ := mem_events.mpr ⟨_, plays⟩
      exact sound entry member
    · exact mem_namesFor.mp (reads plays branch member name read)
  · intro wellFormed
    refine ⟨⟨fun entry member => ?_, wellFormed.distinct, by simp⟩,
      fun plays branch member name read => ?_⟩
    · obtain ⟨role, plays⟩ := mem_events.mp ⟨entry, member, rfl⟩
      exact wellFormed.sound plays
    · exact mem_namesFor.mpr (wellFormed.bound plays branch member name read)

/-- A fault of two checks that follow each other is a fault of one of them. -/
theorem checks_error {first second : Except ValidationError Unit} {fault : ValidationError}
    (failed : (first >>= fun _ => second) = .error fault) :
    first = .error fault ∨ second = .error fault := by
  cases first with
  | error other => exact .inl failed
  | ok _ => exact .inr failed

theorem checkBranches_supported (role : String) (event : Event) (name : String) :
    checkBranches role event ≠ .error (.unsupportedPattern name) := by
  unfold checkBranches
  split_ifs <;> simp

theorem checkAlias_supported (seen : List String) (role given name : String) :
    checkAlias seen role given ≠ .error (.unsupportedPattern name) := by
  unfold checkAlias
  split_ifs <;> simp

theorem checkEvents_supported (seen : List String) (events : List (String × Event)) (name : String) :
    checkEvents seen events ≠ .error (.unsupportedPattern name) := by
  induction events generalizing seen with
  | nil => simp [checkEvents]
  | cons entry rest ih =>
      obtain ⟨role, event⟩ := entry
      rw [checkEvents]
      intro failed
      rcases checks_error failed with branches | others
      · exact checkBranches_supported role event name branches
      · cases named : event.alias? with
        | none =>
            rw [named] at others
            exact ih seen others
        | some given =>
            rw [named] at others
            rcases checks_error others with aliased | later
            · exact checkAlias_supported seen role given name aliased
            · exact ih (given :: seen) later

theorem checkBound_supported (names : List String) (event : Event) (name : String) :
    checkBound names event ≠ .error (.unsupportedPattern name) := by
  unfold checkBound
  split <;> simp

theorem checkOptional_supported (names : List String) (event? : Option Event) (name : String) :
    checkOptional names event? ≠ .error (.unsupportedPattern name) := by
  cases event? with
  | none => simp [checkOptional]
  | some event => exact checkBound_supported names event name

/-- The checks find no fault with the pattern itself. -/
theorem validate_supported (property : Property) (name : String) :
    property.validate ≠ .error (.unsupportedPattern name) := by
  intro failed
  rw [validate] at failed
  rcases checks_error failed with events | others
  · exact checkEvents_supported _ _ name events
  rcases checks_error others with activator | others
  · exact checkOptional_supported _ _ name activator
  rcases checks_error others with terminator | others
  · exact checkOptional_supported _ _ name terminator
  rcases checks_error others with trigger | behavior
  · exact checkOptional_supported _ _ name trigger
  · exact checkBound_supported _ _ name behavior

/-- A property that is well formed has a machine, unless it is a prevention. -/
theorem compile_of_wellFormed {property : Property} (wellFormed : property.WellFormed)
    (supported : property.pattern.kind ≠ .prevention) :
    ∃ machine, property.compile = .ok machine := by
  have made : ∃ core, property.pattern.core property.scope.kind.isReentrant = .ok core := by
    cases pattern : property.pattern with
    | prevention => exact absurd (congrArg Pattern.kind pattern) supported
    | _ => exact ⟨_, rfl⟩
  obtain ⟨core, made⟩ := made
  refine ⟨property.assemble core, ?_⟩
  rw [compile, validate_ok_iff.mpr wellFormed, made]
  rfl

theorem compile_of_prevention {property : Property} (wellFormed : property.WellFormed)
    (prevention : property.pattern.kind = .prevention) :
    property.compile = .error (.unsupportedPattern "prevention") := by
  have missing : property.pattern.core property.scope.kind.isReentrant =
      .error (.unsupportedPattern "prevention") := by
    cases pattern : property.pattern with
    | prevention => rfl
    | _ =>
        rw [pattern] at prevention
        cases prevention
  rw [compile, validate_ok_iff.mpr wellFormed, missing]
  rfl

theorem compile_of_fault {property : Property} (faulty : ¬ property.WellFormed) :
    ∃ fault, property.compile = .error fault ∧ ∀ name, fault ≠ .unsupportedPattern name := by
  cases validated : property.validate with
  | ok _ => exact absurd (validate_ok_iff.mp validated) faulty
  | error fault =>
      refine ⟨fault, by rw [compile, validated]; rfl, ?_⟩
      rintro name rfl
      exact property.validate_supported name validated

/-- A property has a machine if and only if it is well formed and no prevention. Otherwise it has a
fault, and the pattern is the fault only of a prevention that is well formed. -/
theorem compile_ok_iff_wellFormed (property : Property) :
    ((∃ machine, property.compile = .ok machine) ↔
      property.pattern.kind ≠ .prevention ∧ property.WellFormed) ∧
    ((∃ fault, property.compile = .error fault) ↔
      property.pattern.kind = .prevention ∨ ¬ property.WellFormed) ∧
    ∀ name, property.compile = .error (.unsupportedPattern name) ↔
      name = "prevention" ∧ property.pattern.kind = .prevention ∧ property.WellFormed := by
  by_cases wellFormed : property.WellFormed
  · by_cases prevention : property.pattern.kind = .prevention
    · rw [compile_of_prevention wellFormed prevention]
      simp [wellFormed, prevention, eq_comm]
    · obtain ⟨machine, compiled⟩ := compile_of_wellFormed wellFormed prevention
      rw [compiled]
      simp [wellFormed, prevention]
  · obtain ⟨fault, failed, other⟩ := compile_of_fault wellFormed
    rw [failed]
    simp [wellFormed, other]

end Property

end TemporalMonitor
