import TemporalMonitor.Predicate.Basic

/-!
What tests read, and when they answer.

A test answers whenever the tests that the user supplied do. If these also read the names that they
declare and no others, then so does the test as a whole.
-/

namespace TemporalMonitor

/-- Two bindings give the same message, or none, to each of the names. -/
def Bindings.AgreeOn (names : List String) (first second : Bindings) : Prop :=
  ∀ name ∈ names, first.get? name = second.get? name

namespace Predicate

/-- Every test that the user supplied meets the condition. -/
inductive Supplied (condition : List String → (Message → Bindings → Except Crash Bool) → Prop) :
    Predicate → Prop where
  | always : Supplied condition always
  | compare (path : String) (op : Comparison) (operand : Operand) :
      Supplied condition (compare path op operand)
  | matching (path : String) (regex : Regex) : Supplied condition (matching path regex)
  | all {tests : List Predicate} (each : ∀ test ∈ tests, Supplied condition test) :
      Supplied condition (all tests)
  | any {tests : List Predicate} (each : ∀ test ∈ tests, Supplied condition test) :
      Supplied condition (any tests)
  | not {test : Predicate} (inner : Supplied condition test) : Supplied condition (not test)
  | custom {reads : List String} {run : Message → Bindings → Except Crash Bool}
      (meets : condition reads run) : Supplied condition (custom reads run)

/-- A supplied test answers on every message and under all bindings. -/
def Answers (run : Message → Bindings → Except Crash Bool) : Prop :=
  ∀ message bindings, ∃ answer, run message bindings = .ok answer

/-- A supplied test does not notice a change of the names that it does not declare. -/
def ReadsOnly (reads : List String) (run : Message → Bindings → Except Crash Bool) : Prop :=
  ∀ message first second, Bindings.AgreeOn reads first second →
    run message first = run message second

/-- No supplied test crashes. -/
def Total (predicate : Predicate) : Prop :=
  predicate.Supplied fun _ run => Answers run

/-- Each supplied test reads only the names that it declares. -/
def Declared (predicate : Predicate) : Prop :=
  predicate.Supplied ReadsOnly

/-- No supplied test crashes, and each reads only the names that it declares. -/
def Faithful (predicate : Predicate) : Prop :=
  predicate.Supplied fun reads run => Answers run ∧ ReadsOnly reads run

/-- A weaker condition holds of the supplied tests as well. -/
theorem Supplied.mono {strong weak : List String → (Message → Bindings → Except Crash Bool) → Prop}
    (weaker : ∀ reads run, strong reads run → weak reads run) {predicate : Predicate}
    (supplied : predicate.Supplied strong) : predicate.Supplied weak := by
  induction supplied with
  | always => exact .always
  | compare path op operand => exact .compare path op operand
  | matching path regex => exact .matching path regex
  | all _ each => exact .all each
  | any _ each => exact .any each
  | not _ inner => exact .not inner
  | custom meets => exact .custom (weaker _ _ meets)

theorem Faithful.total {predicate : Predicate} (faithful : predicate.Faithful) :
    predicate.Total :=
  faithful.mono fun _ _ both => both.1

theorem Faithful.declared {predicate : Predicate} (faithful : predicate.Faithful) :
    predicate.Declared :=
  faithful.mono fun _ _ both => both.2

/-- A test that has no parts and was not supplied. -/
def isAtomic : Predicate → Bool
  | always | compare _ _ _ | matching _ _ => true
  | all _ | any _ | not _ | custom _ _ => false

theorem faithful_of_isAtomic {predicate : Predicate} (atomic : predicate.isAtomic = true) :
    predicate.Faithful := by
  cases predicate with
  | always => exact .always
  | compare path op operand => exact .compare path op operand
  | matching path regex => exact .matching path regex
  | all _ | any _ | not _ | custom _ _ => cases atomic

/-- The answer of a test, where a crash counts as a failure. -/
def holds (message : Message) (bindings : Bindings) (predicate : Predicate) : Bool :=
  match predicate.test message bindings with
  | .ok answer => answer
  | .error _ => false

/-- Partial evaluation does not rule out that the test succeeds. -/
def mayHold (message : Message) (bindings : Bindings) (predicate : Predicate) : Bool :=
  match predicate.testPartial message bindings with
  | .ok answer => answer != some false
  | .error _ => false

section Answers

variable (message : Message) (bindings : Bindings)

theorem testAll_answers (tests : List Predicate)
    (each : ∀ test ∈ tests, ∃ answer, test.test message bindings = .ok answer) :
    ∃ answer, testAll message bindings tests = .ok answer := by
  induction tests with
  | nil => exact ⟨true, by rw [testAll]⟩
  | cons first rest ih =>
      obtain ⟨answer, answered⟩ := each first List.mem_cons_self
      obtain ⟨others, remaining⟩ := ih fun test member => each test (List.mem_cons_of_mem _ member)
      cases answer with
      | true => exact ⟨others, by rw [testAll, answered]; exact remaining⟩
      | false => exact ⟨false, by rw [testAll, answered]⟩

theorem testAny_answers (tests : List Predicate)
    (each : ∀ test ∈ tests, ∃ answer, test.test message bindings = .ok answer) :
    ∃ answer, testAny message bindings tests = .ok answer := by
  induction tests with
  | nil => exact ⟨false, by rw [testAny]⟩
  | cons first rest ih =>
      obtain ⟨answer, answered⟩ := each first List.mem_cons_self
      obtain ⟨others, remaining⟩ := ih fun test member => each test (List.mem_cons_of_mem _ member)
      cases answer with
      | true => exact ⟨true, by rw [testAny, answered]⟩
      | false => exact ⟨others, by rw [testAny, answered]; exact remaining⟩

/-- A test without crashing parts answers. -/
theorem Total.answers {predicate : Predicate} (total : predicate.Total) :
    ∃ answer, predicate.test message bindings = .ok answer := by
  induction total with
  | always => exact ⟨true, by rw [test]⟩
  | compare path op operand => exact ⟨_, by rw [test]⟩
  | matching path regex => exact ⟨_, by rw [test]⟩
  | all _ each => rw [test]; exact testAll_answers message bindings _ each
  | any _ each => rw [test]; exact testAny_answers message bindings _ each
  | not _ inner =>
      obtain ⟨answer, answered⟩ := inner
      exact ⟨!answer, by rw [test, answered]⟩
  | custom meets => rw [test]; exact meets message bindings

/-- The answer of a test without crashing parts is its result. -/
theorem Total.test_eq {predicate : Predicate} (total : predicate.Total) :
    predicate.test message bindings = .ok (predicate.holds message bindings) := by
  obtain ⟨answer, answered⟩ := total.answers message bindings
  rw [holds, answered]

theorem testPartialAll_answers (tests : List Predicate) (isUnknown : Bool)
    (each : ∀ test ∈ tests, ∃ answer, test.testPartial message bindings = .ok answer) :
    ∃ answer, testPartialAll message bindings isUnknown tests = .ok answer := by
  induction tests generalizing isUnknown with
  | nil => exact ⟨_, by rw [testPartialAll]⟩
  | cons first rest ih =>
      obtain ⟨answer, answered⟩ := each first List.mem_cons_self
      have remaining (isUnknown : Bool) :=
        ih isUnknown fun test member => each test (List.mem_cons_of_mem _ member)
      rw [testPartialAll, answered]
      match answer with
      | some false => exact ⟨_, rfl⟩
      | some true => exact remaining isUnknown
      | none => exact remaining true

theorem testPartialAny_answers (tests : List Predicate) (isUnknown : Bool)
    (each : ∀ test ∈ tests, ∃ answer, test.testPartial message bindings = .ok answer) :
    ∃ answer, testPartialAny message bindings isUnknown tests = .ok answer := by
  induction tests generalizing isUnknown with
  | nil => exact ⟨_, by rw [testPartialAny]⟩
  | cons first rest ih =>
      obtain ⟨answer, answered⟩ := each first List.mem_cons_self
      have remaining (isUnknown : Bool) :=
        ih isUnknown fun test member => each test (List.mem_cons_of_mem _ member)
      rw [testPartialAny, answered]
      match answer with
      | some true => exact ⟨_, rfl⟩
      | some false => exact remaining isUnknown
      | none => exact remaining true

/-- Partial evaluation answers as well, though the answer may be that it does not know. -/
theorem Total.answersPartially {predicate : Predicate} (total : predicate.Total) :
    ∃ answer, predicate.testPartial message bindings = .ok answer := by
  induction total with
  | always => exact ⟨some true, by rw [testPartial]⟩
  | compare path op operand =>
      cases operand with
      | const value => exact ⟨_, by rw [testPartial]⟩
      | field name field =>
          rw [testPartial]
          split
          · exact ⟨_, rfl⟩
          · split <;> exact ⟨_, rfl⟩
  | matching path regex => exact ⟨_, by rw [testPartial]⟩
  | all _ each => rw [testPartial]; exact testPartialAll_answers message bindings _ _ each
  | any _ each => rw [testPartial]; exact testPartialAny_answers message bindings _ _ each
  | not _ inner =>
      obtain ⟨answer, answered⟩ := inner
      exact ⟨answer.map Bool.not, by rw [testPartial, answered]⟩
  | custom meets =>
      obtain ⟨answer, answered⟩ := meets message bindings
      rw [testPartial, whenBound, answered]
      split <;> exact ⟨_, rfl⟩

/-- What partial evaluation does not rule out is what its result says. -/
theorem Total.testPartial_map {predicate : Predicate} (total : predicate.Total) :
    (predicate.testPartial message bindings).map (· != some false) =
      .ok (predicate.mayHold message bindings) := by
  obtain ⟨answer, answered⟩ := total.answersPartially message bindings
  rw [mayHold, answered]
  rfl

end Answers

section References

theorem mem_merge {name : String} (names more : List String) :
    name ∈ merge names more ↔ name ∈ names ∨ name ∈ more := by
  unfold merge
  induction more generalizing names with
  | nil => simp
  | cons first rest ih =>
      rw [List.foldl_cons, ih, List.mem_cons]
      by_cases known : names.contains first = true
      · have present : first ∈ names := List.contains_iff_mem.mp known
        rw [if_pos known]
        constructor
        · rintro (old | new)
          · exact .inl old
          · exact .inr (.inr new)
        · rintro (old | rfl | new)
          · exact .inl old
          · exact .inl present
          · exact .inr new
      · rw [if_neg known, List.mem_append, List.mem_singleton, or_assoc]

theorem mem_referencesOf {name : String} (seen : List String) (tests : List Predicate) :
    name ∈ referencesOf seen tests ↔ name ∈ seen ∨ ∃ test ∈ tests, name ∈ test.references := by
  induction tests generalizing seen with
  | nil => simp [referencesOf]
  | cons first rest ih =>
      rw [referencesOf, ih, mem_merge, or_assoc]
      simp only [List.mem_cons, exists_eq_or_imp]

/-- A list of tests reads what its members read. -/
theorem mem_references_of_member {name : String} {tests : List Predicate} {test : Predicate}
    (member : test ∈ tests) (read : name ∈ test.references) : name ∈ referencesOf [] tests :=
  (mem_referencesOf [] tests).mpr (.inr ⟨test, member, read⟩)

end References

section Agreement

variable (message : Message) {first second : Bindings}

theorem testAll_congr {tests : List Predicate}
    (each : ∀ test ∈ tests, test.test message first = test.test message second) :
    testAll message first tests = testAll message second tests := by
  induction tests with
  | nil => rw [testAll, testAll]
  | cons test rest ih =>
      rw [testAll, testAll, each test List.mem_cons_self,
        ih fun test member => each test (List.mem_cons_of_mem _ member)]

theorem testAny_congr {tests : List Predicate}
    (each : ∀ test ∈ tests, test.test message first = test.test message second) :
    testAny message first tests = testAny message second tests := by
  induction tests with
  | nil => rw [testAny, testAny]
  | cons test rest ih =>
      rw [testAny, testAny, each test List.mem_cons_self,
        ih fun test member => each test (List.mem_cons_of_mem _ member)]

/-- Bindings that agree on what a test reads give the same result. -/
theorem Declared.test_congr {predicate : Predicate} (declared : predicate.Declared)
    (agree : Bindings.AgreeOn predicate.references first second) :
    predicate.test message first = predicate.test message second := by
  induction declared with
  | always => rw [test, test]
  | compare path op operand =>
      cases operand with
      | const value => rfl
      | field name field =>
          have same : first.get? name = second.get? name := agree name (by simp [references])
          simp only [test, comparisonHolds, operandValue?, same]
  | matching path regex => rw [test, test]
  | all _ each =>
      rw [test, test]
      refine testAll_congr message fun test member => each test member fun name read => ?_
      exact agree name (by rw [references]; exact mem_references_of_member member read)
  | any _ each =>
      rw [test, test]
      refine testAny_congr message fun test member => each test member fun name read => ?_
      exact agree name (by rw [references]; exact mem_references_of_member member read)
  | not _ inner =>
      rw [test, test, inner fun name read => agree name (by rw [references]; exact read)]
  | custom meets =>
      rw [test, test]
      exact meets message first second fun name read => agree name (by rw [references]; exact read)

theorem Faithful.holds_congr {predicate : Predicate} (faithful : predicate.Faithful)
    (agree : Bindings.AgreeOn predicate.references first second) :
    predicate.holds message first = predicate.holds message second := by
  rw [holds, holds, faithful.declared.test_congr message agree]

end Agreement

section Bound

variable (message : Message) (bindings : Bindings)

theorem testPartialAll_of_bound {tests : List Predicate}
    (each : ∀ test ∈ tests,
      test.testPartial message bindings = (test.test message bindings).map some) :
    testPartialAll message bindings false tests = (testAll message bindings tests).map some := by
  induction tests with
  | nil => rw [testPartialAll, testAll]; rfl
  | cons test rest ih =>
      have remaining := ih fun test member => each test (List.mem_cons_of_mem _ member)
      rw [testPartialAll, testAll, each test List.mem_cons_self]
      match test.test message bindings with
      | .ok true => exact remaining
      | .ok false => rfl
      | .error crash => rfl

theorem testPartialAny_of_bound {tests : List Predicate}
    (each : ∀ test ∈ tests,
      test.testPartial message bindings = (test.test message bindings).map some) :
    testPartialAny message bindings false tests = (testAny message bindings tests).map some := by
  induction tests with
  | nil => rw [testPartialAny, testAny]; rfl
  | cons test rest ih =>
      have remaining := ih fun test member => each test (List.mem_cons_of_mem _ member)
      rw [testPartialAny, testAny, each test List.mem_cons_self]
      match test.test message bindings with
      | .ok true => rfl
      | .ok false => exact remaining
      | .error crash => rfl

/-- Partial evaluation is evaluation where all names that are read are bound. -/
theorem Supplied.testPartial_of_bound
    {condition : List String → (Message → Bindings → Except Crash Bool) → Prop}
    {predicate : Predicate} (supplied : predicate.Supplied condition)
    (bound : ∀ name ∈ predicate.references, bindings.contains name = true) :
    predicate.testPartial message bindings = (predicate.test message bindings).map some := by
  induction supplied with
  | always => rw [testPartial, test]; rfl
  | compare path op operand =>
      cases operand with
      | const value => rw [testPartial, test]; rfl
      | field name field =>
          have present : bindings.contains name = true := bound name (by simp [references])
          rw [testPartial, test, if_pos present]
          rfl
  | matching path regex => rw [testPartial, test]; rfl
  | all _ each =>
      rw [testPartial, test]
      refine testPartialAll_of_bound message bindings fun test member =>
        each test member fun name read => ?_
      exact bound name (by rw [references]; exact mem_references_of_member member read)
  | any _ each =>
      rw [testPartial, test]
      refine testPartialAny_of_bound message bindings fun test member =>
        each test member fun name read => ?_
      exact bound name (by rw [references]; exact mem_references_of_member member read)
  | @not inner _ ih =>
      rw [testPartial, test, ih fun name read => bound name (by rw [references]; exact read)]
      cases inner.test message bindings <;> rfl
  | @custom reads run _ =>
      -- A supplied test is run as soon as nothing that it declares is missing.
      have none_unbound : (reads.any fun name => !bindings.contains name) = false := by
        rw [List.any_eq_false]
        intro name read
        rw [bound name (by rw [references]; exact read)]
        decide
      rw [testPartial, test, whenBound, none_unbound]
      rfl

/-- Where all names that are read are bound, nothing but success is left open. -/
theorem Total.mayHold_of_bound {predicate : Predicate} (total : predicate.Total)
    (bound : ∀ name ∈ predicate.references, bindings.contains name = true) :
    predicate.mayHold message bindings = predicate.holds message bindings := by
  rw [mayHold, total.testPartial_of_bound message bindings bound, total.test_eq]
  cases predicate.holds message bindings <;> rfl

end Bound

end Predicate

end TemporalMonitor
