import TemporalMonitor.Property.WellFormed
import TemporalMonitor.Proofs.Ordered
import TemporalMonitor.Proofs.Trace.Episode

/-!
What validation guarantees about the names that tests read.

No alias is given twice, and every test reads only names that are bound where it is tested. So it does
not matter for a test what else is bound.
-/

namespace TemporalMonitor

/-- A record changes only what is bound to its alias. -/
theorem Bindings.agreeOn_withRecord {names : List String} {record : Record} (bindings : Bindings)
    (different : ∀ name ∈ names, record.alias? ≠ some name) :
    Bindings.AgreeOn names (bindings.withRecord record) bindings := by
  intro name member
  rw [withRecord]
  cases given : record.alias? with
  | none => rfl
  | some bound =>
      have other : name ≠ bound := by
        rintro rfl
        exact different name member given
      simp only [get?, bind]
      rw [List.lookup_cons, beq_eq_false_iff_ne.mpr other]

namespace Event

/-- The branches read only these names. -/
def ReadsFrom (event : Event) (names : List String) : Prop :=
  ∀ branch ∈ event.branches, ∀ name ∈ branch.references, name ∈ names

theorem readsFrom_references (event : Event) : event.ReadsFrom event.references := by
  intro branch member name read
  exact (Ordered.mem_ofItems _).mpr (List.mem_flatMap.mpr ⟨branch, member, read⟩)

/-- Bindings that agree on the names that an event reads give the same occurrences. -/
theorem occurs_congr {event : Event} {names : List String} {first second : Bindings}
    (faithful : ∀ branch ∈ event.branches, branch.predicate.Faithful)
    (reads : event.ReadsFrom names) (agree : Bindings.AgreeOn names first second) (call : Call) :
    event.occurs first call = event.occurs second call := by
  cases call with
  | timer time => rfl
  | message topic content time =>
      refine passes_congr fun branch member => ?_
      exact (faithful branch member).holds_congr content fun name read =>
        agree name (reads branch member name read)

theorem alias_ne_of_unread {event other : Event} {name : String}
    (unread : event.readsAliasOf other = false) (read : name ∈ event.references) :
    other.alias? ≠ some name := by
  intro given
  rw [readsAliasOf, given, Option.any_some, Bool.eq_false_iff] at unread
  exact unread (List.contains_iff_mem.mpr read)

/-- What an event reads, apart from an alias that it does not read. -/
theorem ReadsFrom.of_unread {event other : Event} {names : List String}
    (reads : event.ReadsFrom (names ++ other.alias?.toList))
    (unread : event.readsAliasOf other = false) : event.ReadsFrom names := by
  intro branch member name read
  rcases List.mem_append.mp (reads branch member name read) with known | named
  · exact known
  · rw [Option.mem_toList] at named
    have listed := event.readsFrom_references branch member name read
    exact absurd named (alias_ne_of_unread unread listed)

/-- An event that does not read the alias of another one ignores what is bound to it. -/
theorem occurs_withRecord {event other : Event} {record : Record} {bindings : Bindings}
    (faithful : ∀ branch ∈ event.branches, branch.predicate.Faithful)
    (unread : event.readsAliasOf other = false) (named : record.alias? = other.alias?)
    (call : Call) : event.occurs (bindings.withRecord record) call = event.occurs bindings call := by
  refine occurs_congr faithful event.readsFrom_references
    (bindings.agreeOn_withRecord fun name read => ?_) call
  rw [named]
  exact alias_ne_of_unread unread read

/-- Of two records of another event that it reads only if they are one, an event makes the same. -/
theorem occurs_withRecord_congr {event other : Event} {first second : Record}
    (faithful : ∀ branch ∈ event.branches, branch.predicate.Faithful)
    (same : event.readsAliasOf other = true → first = second)
    (firstNamed : first.alias? = other.alias?) (secondNamed : second.alias? = other.alias?)
    (bindings : Bindings) (call : Call) :
    event.occurs (bindings.withRecord first) call =
      event.occurs (bindings.withRecord second) call := by
  cases reads : event.readsAliasOf other with
  | true => rw [same reads]
  | false =>
      rw [occurs_withRecord faithful reads firstNamed, occurs_withRecord faithful reads secondNamed]

/-- Where all names that are read are bound, nothing but an occurrence is left open. -/
theorem mayOccur_of_bound {event : Event} {names : List String} {bindings : Bindings}
    (total : ∀ branch ∈ event.branches, branch.predicate.Total) (reads : event.ReadsFrom names)
    (bound : ∀ name ∈ names, bindings.contains name = true) (call : Call) :
    event.mayOccur bindings call = event.occurs bindings call := by
  cases call with
  | timer time => rfl
  | message topic content time =>
      refine passes_congr fun branch member => ?_
      exact (total branch member).mayHold_of_bound content bindings fun name read =>
        bound name (reads branch member name read)

end Event

namespace Property

/-- Checks that follow each other pass together. -/
theorem checks_ok {first second : Except ValidationError Unit}
    (passed : (first >>= fun _ => second) = .ok ()) : first = .ok () ∧ second = .ok () := by
  cases first with
  | error fault => simp [bind, Except.bind] at passed
  | ok _ => exact ⟨rfl, passed⟩

theorem checkBound_ok {names : List String} {event : Event}
    (checked : checkBound names event = .ok ()) : event.ReadsFrom names := by
  unfold checkBound at checked
  cases found : unbound? names event with
  | some fault => simp [found] at checked
  | none =>
      intro branch member name read
      have none_unbound := List.findSome?_eq_none_iff.mp found branch member
      rw [Option.map_eq_none_iff, List.find?_eq_none] at none_unbound
      simpa using none_unbound name read

theorem checkOptional_ok {names : List String} {event? : Option Event}
    (checked : checkOptional names event? = .ok ()) {event : Event} (given : event? = some event) :
    event.ReadsFrom names := by
  subst given
  exact checkBound_ok checked

/-- The aliases of events that pass the check are new and given once. -/
theorem checkEvents_ok {seen : List String} {events : List (String × Event)}
    (checked : checkEvents seen events = .ok ()) :
    (events.filterMap fun entry => entry.2.alias?).Nodup ∧
      ∀ name ∈ events.filterMap fun entry => entry.2.alias?, name ∉ seen := by
  induction events generalizing seen with
  | nil => exact ⟨List.nodup_nil, fun _ member => absurd member List.not_mem_nil⟩
  | cons entry rest ih =>
      obtain ⟨role, event⟩ := entry
      rw [checkEvents] at checked
      obtain ⟨_, checked⟩ := checks_ok checked
      cases named : event.alias? with
      | none =>
          rw [named] at checked
          rw [List.filterMap_cons_none (by exact named)]
          exact ih checked
      | some name =>
          rw [named] at checked
          obtain ⟨aliased, checked⟩ := checks_ok checked
          obtain ⟨distinct, fresh⟩ := ih checked
          have new : name ∉ seen := by
            intro known
            unfold checkAlias at aliased
            split at aliased
            · simp at aliased
            · simp [known] at aliased
          rw [List.filterMap_cons_some (by exact named)]
          refine ⟨List.nodup_cons.mpr ⟨fun again => ?_, distinct⟩, fun other member => ?_⟩
          · exact fresh name again List.mem_cons_self
          · rcases List.mem_cons.mp member with rfl | later
            · exact new
            · exact fun known => fresh other later (List.mem_cons_of_mem _ known)

/-- No alias is given twice, and tests read only what is bound. -/
structure Scoped (property : Property) : Prop where
  distinct : (property.events.filterMap fun entry => entry.2.alias?).Nodup
  terminator : ∀ {event}, property.scope.terminator? = some event →
    event.ReadsFrom property.scopeNames
  trigger : ∀ {event}, property.pattern.trigger? = some event →
    event.ReadsFrom property.scopeNames
  behavior : property.pattern.behavior.ReadsFrom property.behaviorNames

/-- The alias of the trigger is none of the names that are bound inside the scope. -/
theorem Scoped.trigger_alias_ne {property : Property} (reading : property.Scoped) {trigger : Event}
    (given : property.pattern.trigger? = some trigger) {name : String}
    (bound : name ∈ property.scopeNames) : trigger.alias? ≠ some name := by
  intro named
  cases opens : property.scope.activator? with
  | none => simp [scopeNames, opens] at bound
  | some activator =>
      have aliased : activator.alias? = some name := by
        simpa [scopeNames, opens] using bound
      have distinct := reading.distinct
      simp [events, opens, given, aliased, named, List.filterMap_append] at distinct

/-- Nor is the alias of the behavior. -/
theorem Scoped.behavior_alias_ne {property : Property} (reading : property.Scoped) {name : String}
    (bound : name ∈ property.scopeNames) : property.pattern.behavior.alias? ≠ some name := by
  intro named
  cases opens : property.scope.activator? with
  | none => simp [scopeNames, opens] at bound
  | some activator =>
      have aliased : activator.alias? = some name := by
        simpa [scopeNames, opens] using bound
      have distinct := reading.distinct
      simp [events, opens, aliased, named, List.filterMap_append] at distinct

/-- Nor is the alias of the terminator. -/
theorem Scoped.terminator_alias_ne {property : Property} (reading : property.Scoped)
    {terminator : Event} (given : property.scope.terminator? = some terminator) {name : String}
    (bound : name ∈ property.scopeNames) : terminator.alias? ≠ some name := by
  intro named
  cases opens : property.scope.activator? with
  | none => simp [scopeNames, opens] at bound
  | some activator =>
      have aliased : activator.alias? = some name := by
        simpa [scopeNames, opens] using bound
      have distinct := reading.distinct
      simp [events, opens, given, aliased, named, List.filterMap_append] at distinct

/-- The activator of a valid property reads no names at all. -/
theorem validate_activator {property : Property} (valid : property.validate = .ok ())
    {activator : Event} (given : property.scope.activator? = some activator) :
    activator.ReadsFrom [] := by
  obtain ⟨_, others⟩ := checks_ok valid
  exact checkOptional_ok (checks_ok others).1 given

/-- A valid property is scoped. -/
theorem validate_scoped {property : Property} (valid : property.validate = .ok ()) :
    property.Scoped := by
  obtain ⟨events, others⟩ := checks_ok valid
  obtain ⟨_, others⟩ := checks_ok others
  obtain ⟨terminator, others⟩ := checks_ok others
  obtain ⟨trigger, behavior⟩ := checks_ok others
  exact {
    distinct := (checkEvents_ok events).1
    terminator := checkOptional_ok terminator
    trigger := checkOptional_ok trigger
    behavior := checkBound_ok behavior }

end Property

end TemporalMonitor
