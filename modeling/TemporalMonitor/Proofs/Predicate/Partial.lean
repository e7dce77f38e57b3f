import TemporalMonitor.Proofs.Predicate.Reading

/-!
What partial evaluation knows.

A result that is known while some names are not bound stays right whatever these names are bound to
later. Neither evaluation notices a change of names that the test does not read, provided that the
tests supplied by the user read only the names that they declare.
-/

namespace TemporalMonitor

namespace Bindings

/-- Whatever is bound stays bound to its message, and more names may be bound. -/
def Within (bindings wider : Bindings) : Prop :=
  ∀ name message, bindings.get? name = some message → wider.get? name = some message

theorem Within.refl (bindings : Bindings) : bindings.Within bindings :=
  fun _ _ bound => bound

/-- Binding a name that was not bound before hides nothing. -/
theorem Within.bind {bindings wider : Bindings} (within : bindings.Within wider) {name : String}
    (unbound : bindings.contains name = false) (message : Message) :
    bindings.Within (wider.bind name message) := by
  intro other content bound
  have different : (other == name) = false := by
    rw [beq_eq_false_iff_ne]
    rintro rfl
    rw [contains, bound] at unbound
    cases unbound
  rw [Bindings.bind, get?, List.lookup_cons, different]
  exact within other content bound

/-- Names that are bound already stand for the same messages. -/
theorem Within.agreeOn {bindings wider : Bindings} (within : bindings.Within wider)
    {names : List String} (bound : ∀ name ∈ names, bindings.contains name = true) :
    AgreeOn names wider bindings := by
  intro name member
  obtain ⟨message, found⟩ := Option.isSome_iff_exists.mp (bound name member)
  rw [within name message found, found]

theorem AgreeOn.contains_eq {names : List String} {first second : Bindings}
    (agree : AgreeOn names first second) {name : String} (member : name ∈ names) :
    first.contains name = second.contains name := by
  rw [contains, contains, agree name member]

end Bindings

namespace Predicate

section Negation

variable (message : Message) (bindings : Bindings)

theorem test_not (inner : Predicate) :
    (not inner).test message bindings = (inner.test message bindings).map Bool.not := by
  rw [test]
  cases inner.test message bindings <;> rfl

theorem testPartial_not (inner : Predicate) :
    (not inner).testPartial message bindings =
      (inner.testPartial message bindings).map (Option.map Bool.not) := by
  rw [testPartial]
  cases inner.testPartial message bindings <;> rfl

/-- A disjunction fails if all the negations succeed, and so do both of its evaluations. -/
theorem test_any (tests : List Predicate) :
    (any tests).test message bindings = (not (all (tests.map not))).test message bindings := by
  rw [test_not, test, test]
  induction tests with
  | nil => rw [testAny, List.map_nil, testAll]; rfl
  | cons first rest ih =>
      rw [testAny, ih, List.map_cons, testAll, test_not]
      cases first.test message bindings with
      | error crash => rfl
      | ok answer => cases answer <;> rfl

theorem testPartial_any (tests : List Predicate) :
    (any tests).testPartial message bindings =
      (not (all (tests.map not))).testPartial message bindings := by
  rw [testPartial_not, testPartial, testPartial]
  generalize false = isUnknown
  induction tests generalizing isUnknown with
  | nil => rw [testPartialAny, List.map_nil, testPartialAll]; cases isUnknown <;> rfl
  | cons first rest ih =>
      rw [testPartialAny, ih, ih, List.map_cons, testPartialAll, testPartial_not]
      cases first.testPartial message bindings with
      | error crash => rfl
      | ok known? =>
          cases known? with
          | none => rfl
          | some answer => cases answer <;> rfl

end Negation

section Agreement

variable (message : Message) {first second : Bindings}

theorem testPartialAll_congr {tests : List Predicate} (isUnknown : Bool)
    (each : ∀ test ∈ tests, test.testPartial message first = test.testPartial message second) :
    testPartialAll message first isUnknown tests =
      testPartialAll message second isUnknown tests := by
  induction tests generalizing isUnknown with
  | nil => rw [testPartialAll, testPartialAll]
  | cons test rest ih =>
      have remaining (isUnknown : Bool) :=
        ih isUnknown fun test member => each test (List.mem_cons_of_mem _ member)
      rw [testPartialAll, testPartialAll, each test List.mem_cons_self, remaining, remaining]

/-- Bindings that agree on some names leave the same of them unbound. -/
theorem whenBound_congr {names : List String} (agree : Bindings.AgreeOn names first second)
    (result : Except Crash Bool) :
    whenBound names first result = whenBound names second result := by
  have unbound : (names.any fun name => !first.contains name) =
      names.any fun name => !second.contains name := by
    rw [Bool.eq_iff_iff, List.any_eq_true, List.any_eq_true]
    refine exists_congr fun name => and_congr_right fun member => ?_
    rw [agree.contains_eq member]
  rw [whenBound, whenBound, unbound]

/-- Bindings that agree on what a test reads leave the same unknown. -/
theorem Declared.testPartial_congr {predicate : Predicate} (declared : predicate.Declared)
    (agree : Bindings.AgreeOn predicate.references first second) :
    predicate.testPartial message first = predicate.testPartial message second := by
  induction declared with
  | always => rw [testPartial, testPartial]
  | compare path op operand =>
      cases operand with
      | const value => rfl
      | field name field =>
          have read : name ∈ (compare path op (.field name field)).references := by
            simp [references]
          rw [testPartial, testPartial, agree.contains_eq read, comparisonHolds, comparisonHolds,
            operandValue?, operandValue?, agree name read]
  | matching path regex => rw [testPartial, testPartial]
  | all _ each =>
      rw [testPartial, testPartial]
      refine testPartialAll_congr message false fun test member =>
        each test member fun name read => ?_
      exact agree name (by rw [references]; exact mem_references_of_member member read)
  | any _ each =>
      rw [testPartial_any, testPartial_any, testPartial_not, testPartial_not, testPartial,
        testPartial]
      refine congrArg _ (testPartialAll_congr message false (List.forall_mem_map.mpr ?_))
      intro test member
      have same := each test member fun name read =>
        agree name (by rw [references]; exact mem_references_of_member member read)
      rw [testPartial_not, testPartial_not, same]
  | not _ inner =>
      rw [testPartial_not, testPartial_not,
        inner fun name read => agree name (by rw [references]; exact read)]
  | @custom reads run meets =>
      have sameReads : Bindings.AgreeOn reads first second :=
        fun name read => agree name (by rw [references]; exact read)
      rw [testPartial, testPartial, meets message first second sameReads,
        whenBound_congr sameReads]

/-- All that a test can tell apart is what the names that it reads are bound to. -/
theorem Declared.references_suffice {predicate : Predicate} (declared : predicate.Declared)
    (agree : Bindings.AgreeOn predicate.references first second) :
    predicate.test message first = predicate.test message second ∧
      predicate.testPartial message first = predicate.testPartial message second :=
  ⟨declared.test_congr message agree, declared.testPartial_congr message agree⟩

end Agreement

/-- A payment for an order or for a reminder that is no higher than the order and was received. A
reminder must have been sent. -/
def settles : Predicate :=
  .all [
    .any [.compare "id" .eq (.field "order" "id"), .compare "id" .eq (.field "reminder" "id")],
    .not (.compare "sum" .gt (.field "order" "sum")),
    .custom ["reminder"] fun _ bindings => .ok (bindings.contains "reminder"),
    .compare "received" .eq (.const (.bool true))]

theorem settles_faithful : settles.Faithful := by
  have each : ∀ test ∈ ([.compare "id" .eq (.field "order" "id"),
      .compare "id" .eq (.field "reminder" "id")] : List Predicate), test.Faithful := by
    intro test member
    simp only [List.mem_cons, List.not_mem_nil, or_false] at member
    rcases member with rfl | rfl
    · exact .compare _ _ _
    · exact .compare _ _ _
  refine .all fun test member => ?_
  simp only [List.mem_cons, List.not_mem_nil, or_false] at member
  rcases member with rfl | rfl | rfl | rfl
  · exact .any each
  · exact .not (.compare _ _ _)
  · refine .custom ⟨fun message bindings => ⟨_, rfl⟩, fun message first second agree => ?_⟩
    exact congrArg Except.ok (agree.contains_eq List.mem_cons_self)
  · exact .compare _ _ _

/-- Another order of the bindings, a hidden one and a name that is not read make no difference. -/
theorem references_suffice_settles :
    let order : Message := ⟨[("id", .int 7), ("sum", .int 40)]⟩
    let reminder : Message := ⟨[("id", .int 9)]⟩
    let first := (Bindings.empty.bind "order" order).bind "reminder" reminder
    let second := (((Bindings.empty.bind "reminder" reminder).bind "order" reminder).bind "order"
      order).bind "shop" order
    let payment : Message := ⟨[("id", .int 9), ("received", .bool true), ("sum", .int 40)]⟩
    Bindings.AgreeOn settles.references first second ∧
      settles.test payment first = settles.test payment second ∧
        settles.testPartial payment first = settles.testPartial payment second := by
  intro order reminder first second payment
  have agree : Bindings.AgreeOn settles.references first second := by
    have names : settles.references = ["order", "reminder"] := by decide
    rw [names]
    intro name member
    simp only [List.mem_cons, List.not_mem_nil, or_false] at member
    rcases member with rfl | rfl
    · rfl
    · rfl
  exact ⟨agree, settles_faithful.declared.references_suffice payment agree⟩

section Conjunction

variable {message : Message} {bindings : Bindings}

theorem testAll_true {tests : List Predicate} (passed : testAll message bindings tests = .ok true) :
    ∀ test ∈ tests, test.test message bindings = .ok true := by
  induction tests with
  | nil => exact fun test member => absurd member List.not_mem_nil
  | cons first rest ih =>
      rw [testAll] at passed
      cases answered : first.test message bindings with
      | error crash => simp [answered] at passed
      | ok answer =>
          cases answer with
          | false => simp [answered] at passed
          | true =>
              simp only [answered] at passed
              exact List.forall_mem_cons.mpr ⟨answered, ih passed⟩

theorem testAll_false {tests : List Predicate}
    (failed : testAll message bindings tests = .ok false) :
    ∃ test ∈ tests, test.test message bindings = .ok false := by
  induction tests with
  | nil => simp [testAll] at failed
  | cons first rest ih =>
      rw [testAll] at failed
      cases answered : first.test message bindings with
      | error crash => simp [answered] at failed
      | ok answer =>
          cases answer with
          | false => exact ⟨first, List.mem_cons_self, answered⟩
          | true =>
              simp only [answered] at failed
              obtain ⟨test, member, fails⟩ := ih failed
              exact ⟨test, List.mem_cons_of_mem _ member, fails⟩

/-- A conjunction is known to succeed only if every part of it is. -/
theorem testPartialAll_true {tests : List Predicate} {isUnknown : Bool}
    (known : testPartialAll message bindings isUnknown tests = .ok (some true)) :
    isUnknown = false ∧ ∀ test ∈ tests, test.testPartial message bindings = .ok (some true) := by
  induction tests generalizing isUnknown with
  | nil =>
      cases isUnknown with
      | true => simp [testPartialAll] at known
      | false => exact ⟨rfl, fun test member => absurd member List.not_mem_nil⟩
  | cons first rest ih =>
      rw [testPartialAll] at known
      cases answered : first.testPartial message bindings with
      | error crash => simp [answered] at known
      | ok known? =>
          cases known? with
          | none =>
              simp only [answered] at known
              exact absurd (ih known).1 (by decide)
          | some answer =>
              cases answer with
              | false => simp [answered] at known
              | true =>
                  simp only [answered] at known
                  obtain ⟨unknown, others⟩ := ih known
                  exact ⟨unknown, List.forall_mem_cons.mpr ⟨answered, others⟩⟩

/-- A conjunction is known to fail only if some part of it is. -/
theorem testPartialAll_false {tests : List Predicate} {isUnknown : Bool}
    (known : testPartialAll message bindings isUnknown tests = .ok (some false)) :
    ∃ test ∈ tests, test.testPartial message bindings = .ok (some false) := by
  induction tests generalizing isUnknown with
  | nil => cases isUnknown <;> simp [testPartialAll] at known
  | cons first rest ih =>
      have later {isUnknown : Bool}
          (known : testPartialAll message bindings isUnknown rest = .ok (some false)) :
          ∃ test ∈ first :: rest, test.testPartial message bindings = .ok (some false) := by
        obtain ⟨test, member, fails⟩ := ih known
        exact ⟨test, List.mem_cons_of_mem _ member, fails⟩
      rw [testPartialAll] at known
      cases answered : first.testPartial message bindings with
      | error crash => simp [answered] at known
      | ok known? =>
          cases known? with
          | none =>
              simp only [answered] at known
              exact later known
          | some answer =>
              cases answer with
              | false => exact ⟨first, List.mem_cons_self, answered⟩
              | true =>
                  simp only [answered] at known
                  exact later known

end Conjunction

section Soundness

/-- Wider bindings do not contradict what partial evaluation has found out. The test may still crash
under them, since it may come to parts that partial evaluation has left out. -/
def Upholds (message : Message) (bindings wider : Bindings) (predicate : Predicate) : Prop :=
  ∀ answer result, predicate.testPartial message bindings = .ok (some answer) →
    predicate.test message wider = .ok result → result = answer

variable {message : Message} {bindings wider : Bindings}

theorem upholds_not {inner : Predicate} (upholds : inner.Upholds message bindings wider) :
    (not inner).Upholds message bindings wider := by
  intro answer result known tested
  rw [testPartial_not] at known
  rw [test_not] at tested
  cases answered : inner.test message wider with
  | error crash => simp [answered, Except.map] at tested
  | ok passes =>
      cases found : inner.testPartial message bindings with
      | error crash => simp [found, Except.map] at known
      | ok known? =>
          cases known? with
          | none => simp [found, Except.map] at known
          | some holds =>
              have same := upholds holds passes found answered
              simp only [found, answered, Except.map, Except.ok.injEq, Option.map_some,
                Option.some.injEq] at known tested
              rw [← known, ← tested, same]

theorem upholds_all {tests : List Predicate}
    (each : ∀ test ∈ tests, test.Upholds message bindings wider) :
    (all tests).Upholds message bindings wider := by
  intro answer result known tested
  rw [testPartial] at known
  rw [test] at tested
  -- One part decides against the whole, on whichever side the failure is.
  cases answer with
  | true =>
      cases result with
      | true => rfl
      | false =>
          obtain ⟨test, member, fails⟩ := testAll_false tested
          exact each test member true false ((testPartialAll_true known).2 test member) fails
  | false =>
      cases result with
      | false => rfl
      | true =>
          obtain ⟨test, member, fails⟩ := testPartialAll_false known
          exact each test member false true fails (testAll_true tested test member)

theorem upholds_any {tests : List Predicate}
    (each : ∀ test ∈ tests, test.Upholds message bindings wider) :
    (any tests).Upholds message bindings wider := by
  intro answer result known tested
  rw [testPartial_any] at known
  rw [test_any] at tested
  refine upholds_not (upholds_all ?_) answer result known tested
  exact List.forall_mem_map.mpr fun test member => upholds_not (each test member)

section Leaves

variable (within : bindings.Within wider)

include within

/-- A comparison with a name that is not bound is known only where the field itself is missing. -/
theorem upholds_compare (path : String) (op : Comparison) (operand : Operand) :
    (compare path op operand).Upholds message bindings wider := by
  intro answer result known tested
  rw [test] at tested
  obtain rfl := Except.ok.inj tested
  cases operand with
  | const value =>
      rw [testPartial] at known
      exact Option.some.inj (Except.ok.inj known)
  | field name field =>
      rw [testPartial] at known
      split at known
      · next bound =>
          have agree : Bindings.AgreeOn [name] wider bindings :=
            within.agreeOn (by simpa using bound)
          rw [comparisonHolds, operandValue?, agree name List.mem_cons_self]
          exact Option.some.inj (Except.ok.inj known)
      · split at known
        · cases known
        · next absent =>
            obtain rfl := Option.some.inj (Except.ok.inj known)
            rw [comparisonHolds, Option.not_isSome_iff_eq_none.mp absent]

/-- A supplied test is run only once everything that it reads is bound. -/
theorem upholds_custom {reads : List String} {run : Message → Bindings → Except Crash Bool}
    (reading : ReadsOnly reads run) : (custom reads run).Upholds message bindings wider := by
  intro answer result known tested
  rw [test] at tested
  rw [testPartial, whenBound] at known
  split at known
  · cases known
  · next bound =>
      have all : ∀ name ∈ reads, bindings.contains name = true := by simpa using bound
      rw [← reading message wider bindings (within.agreeOn all), tested] at known
      exact Option.some.inj (Except.ok.inj known)

end Leaves

/-- The same result of both evaluations is no contradiction. -/
theorem upholds_of_known {predicate : Predicate} {value : Bool}
    (known : predicate.testPartial message bindings = .ok (some value))
    (tested : predicate.test message wider = .ok value) :
    predicate.Upholds message bindings wider := by
  intro answer result same passed
  rw [known] at same
  rw [tested] at passed
  exact (Except.ok.inj passed).symm.trans (Option.some.inj (Except.ok.inj same))

theorem Declared.upholds {predicate : Predicate} (declared : predicate.Declared)
    (within : bindings.Within wider) : predicate.Upholds message bindings wider := by
  induction declared with
  | always => exact upholds_of_known (by rw [testPartial]) (by rw [test])
  | compare path op operand => exact upholds_compare within path op operand
  | matching path regex => exact upholds_of_known (by rw [testPartial]) (by rw [test])
  | all _ each => exact upholds_all each
  | any _ each => exact upholds_any each
  | not _ inner => exact upholds_not inner
  | custom meets => exact upholds_custom within meets

/-- What partial evaluation knows is the result under all wider bindings, and where everything that
the test reads is bound, it knows the result. -/
theorem Declared.testPartial_sound {predicate : Predicate} (declared : predicate.Declared)
    (message : Message) (bindings : Bindings) :
    (∀ answer wider, predicate.testPartial message bindings = .ok (some answer) →
      bindings.Within wider →
        (∀ result, predicate.test message wider = .ok result → result = answer) ∧
          (predicate.Total → predicate.test message wider = .ok answer)) ∧
      ((∀ name ∈ predicate.references, bindings.contains name = true) →
        predicate.testPartial message bindings =
          (predicate.test message bindings).map some) := by
  refine ⟨fun answer wider known within => ?_, declared.testPartial_of_bound message bindings⟩
  have upholds : predicate.Upholds message bindings wider := declared.upholds within
  refine ⟨fun result tested => upholds answer result known tested, fun total => ?_⟩
  obtain ⟨result, tested⟩ := total.answers message wider
  rw [tested, upholds answer result known tested]

end Soundness

/-- A payment that was not received is no settlement, whatever the order is, and nothing is left open
once the order is known as well. -/
theorem testPartial_sound_settles :
    let reminded := Bindings.empty.bind "reminder" ⟨[("id", .int 9)]⟩
    let ordered := reminded.bind "order" ⟨[("id", .int 7), ("sum", .int 40)]⟩
    let payment : Message := ⟨[("id", .int 9), ("received", .bool false), ("sum", .int 41)]⟩
    settles.testPartial payment reminded = .ok (some false) ∧ reminded.Within ordered ∧
      settles.test payment ordered = .ok false ∧
        settles.testPartial payment ordered = (settles.test payment ordered).map some := by
  intro reminded ordered payment
  have known : settles.testPartial payment reminded = .ok (some false) := rfl
  have within : reminded.Within ordered := (Bindings.Within.refl reminded).bind (by decide) _
  have sound := settles_faithful.declared.testPartial_sound payment
  refine ⟨known, within, ((sound reminded).1 false ordered known within).2 settles_faithful.total,
    (sound ordered).2 ?_⟩
  decide

end Predicate

end TemporalMonitor
