import TemporalMonitor.Proofs.Machine.Manifest
import TemporalMonitor.Proofs.Time.Elapse

/-!
Time bounds are stored in whole microseconds.

A bound may be any positive number of nanoseconds, but what goes beyond its last whole microsecond is
dropped when it is written, and nobody is told. The bound that is read is therefore the one that was
written exactly if nothing was dropped. A bound of less than a microsecond is even read as no time at
all, which no bound is allowed to be.
-/

namespace TemporalMonitor

namespace Duration

/-- What is left of a span when only whole microseconds count. -/
def wholeMicros (span : Duration) : Duration :=
  ofMicros (span.nanos.tdiv 1000)

theorem wholeMicros_eq_iff (span : Duration) : span.wholeMicros = span ↔ 1000 ∣ span.nanos := by
  constructor
  · intro same
    exact ⟨span.nanos.tdiv 1000, by rw [Int.mul_comm]; exact (congrArg nanos same).symm⟩
  · intro whole
    exact congrArg Duration.mk (Int.tdiv_mul_cancel whole)

/-- The number of microseconds that is stored is the one that is left. -/
theorem wholeMicros_of_micros {span : Duration} {micros : Int64}
    (stored : span.micros? = some micros) : span.wholeMicros = ofMicros micros.toInt := by
  rw [micros?] at stored
  split at stored
  · next fits =>
      have below := Int64.toInt_ofInt_of_le fits.1 (Int.lt_of_le_of_lt fits.2 (by decide))
      rw [← Option.some.inj stored, below]
      rfl
  · cases stored

section Positive

variable {span : Duration} (positive : zero < span)

include positive

theorem tdiv_eq_ediv : span.nanos.tdiv 1000 = span.nanos / 1000 :=
  Int.tdiv_eq_ediv_of_nonneg (Int.le_of_lt positive)

/-- Something is left of a microsecond and more. -/
theorem zero_lt_wholeMicros_iff : zero < span.wholeMicros ↔ 1000 ≤ span.nanos := by
  change 0 < span.nanos.tdiv 1000 * 1000 ↔ _
  rw [tdiv_eq_ediv positive]
  omega

/-- Only a span of too many microseconds cannot be stored. -/
theorem micros_eq_none_iff :
    span.micros? = none ↔ Int64.maxValue.toInt < span.nanos.tdiv 1000 := by
  have above : 0 < span.nanos := positive
  have low : Int64.minValue.toInt ≤ 0 := by decide
  rw [micros?, tdiv_eq_ediv positive]
  split
  · next fits => exact iff_of_false (by simp) (Int.not_lt.mpr fits.2)
  · next tooLong => exact iff_of_true rfl (by omega)

end Positive

end Duration

namespace Bound

/-- Every positive span is accepted as a bound. -/
theorem ofDuration_ok_iff {span : Duration} {bound : Bound} :
    ofDuration span = .ok bound ↔ Duration.zero < span ∧ bound = within span := by
  have order : span ≤ Duration.zero ↔ ¬ Duration.zero < span := Int.not_lt.symm
  rw [ofDuration]
  split
  · next refused => exact iff_of_false (by simp) fun accepted => order.mp refused accepted.1
  · next passed =>
      have positive : Duration.zero < span := not_not.mp (mt order.mpr passed)
      simp [positive, eq_comm]

/-- Bounds that always elapse together are equal. -/
theorem hasElapsed_eq_iff {first second : Duration} :
    (∀ reference now, (within first).hasElapsed reference now =
      (within second).hasElapsed reference now) ↔ first = second := by
  constructor
  · intro together
    have start := together (.ofNanos 0) (.ofNanos first.nanos)
    have finish := together (.ofNanos 0) (.ofNanos second.nanos)
    rw [Bool.eq_iff_iff, hasElapsed_within, hasElapsed_within, Timestamp.since_ofNanos] at start finish
    have same : first.nanos = second.nanos := by
      dsimp only at start finish
      omega
    exact congrArg Duration.mk same
  · rintro rfl _ _
    rfl

/-- A bound that can be written is read without what goes beyond its last whole microsecond. -/
theorem parse_text {span : Duration} {document : Json}
    (written : (within span).toJson? = some document) (spacing : Json.Spacing) :
    (Json.parse? (document.text spacing)).bind ofJson? = some (within span.wholeMicros) := by
  obtain ⟨micros, stored, _⟩ := Option.map_eq_some_iff.mp written
  have left := Duration.wholeMicros_of_micros stored
  have whole : ∀ rest, within span.wholeMicros = within rest →
      ∃ micros : Int64, rest = .ofMicros micros.toInt := by
    rintro _ ⟨⟩
    exact ⟨micros, left⟩
  -- What is left of the bound has the same document.
  have same : (within span.wholeMicros).toJson? = some document := by
    rw [← written, toJson?, toJson?, left, Duration.micros_ofMicros, stored]
  obtain ⟨other, rewritten, held⟩ := Bound.faithful 126 whole
  obtain rfl := Option.some.inj (same.symm.trans rewritten)
  rw [held.legible.parse_text spacing, Option.bind_some, held.decoded]

/-- A bound of too many microseconds cannot be written. Any other one is read, and it is the same bound,
which elapses at the same times, exactly if it is a whole number of microseconds. It is a bound at all
if it is not less than one. -/
theorem restored_iff_whole {span : Duration} {bound : Bound}
    (accepted : ofDuration span = .ok bound) :
    (bound.toJson? = none ↔ Int64.maxValue.toInt < span.nanos.tdiv 1000) ∧
      ∀ document, bound.toJson? = some document → ∀ spacing,
        ∃ restored, (Json.parse? (document.text spacing)).bind ofJson? = some restored ∧
          (restored = bound ↔ 1000 ∣ span.nanos) ∧
          ((∀ reference now, restored.hasElapsed reference now = bound.hasElapsed reference now) ↔
            1000 ∣ span.nanos) ∧
          ((∃ rest, restored.duration? = some rest ∧ Duration.zero < rest) ↔
            1000 ≤ span.nanos) := by
  obtain ⟨positive, rfl⟩ := ofDuration_ok_iff.mp accepted
  constructor
  · rw [toJson?, Option.map_eq_none_iff]
    exact Duration.micros_eq_none_iff positive
  · intro document written spacing
    refine ⟨within span.wholeMicros, parse_text written spacing, ?_, ?_, ?_⟩
    · rw [within.injEq]
      exact span.wholeMicros_eq_iff
    · exact hasElapsed_eq_iff.trans span.wholeMicros_eq_iff
    · rw [← Duration.zero_lt_wholeMicros_iff positive]
      simp [duration?]

/-- Half a microsecond beyond one is lost. -/
theorem restored_iff_whole_fraction :
    ofDuration ⟨1500⟩ = .ok (within ⟨1500⟩) ∧
      ∃ restored, (Json.parse? ((Json.object [("type", .string "within"), ("micros", .int 1)]).text
          .tight)).bind ofJson? = some restored ∧
        (restored = within ⟨1500⟩ ↔ 1000 ∣ (1500 : Int)) := by
  have accepted : ofDuration ⟨1500⟩ = .ok (within ⟨1500⟩) := rfl
  obtain ⟨restored, read, same, _⟩ := (restored_iff_whole accepted).2 _ rfl .tight
  exact ⟨accepted, restored, read, same⟩

/-- A nanosecond is accepted as a bound and can be written, but it is read as no time at all, which is
not accepted and has always elapsed. -/
theorem nanosecond_restored_as_zero :
    ∃ document, ofDuration ⟨1⟩ = .ok (within ⟨1⟩) ∧ (within ⟨1⟩).toJson? = some document ∧
      (Json.parse? document.compact).bind ofJson? = some (within .zero) ∧
      within .zero ≠ within ⟨1⟩ ∧ ¬ Duration.zero < .zero ∧
      (within .zero).hasElapsed (.ofNanos 0) (.ofNanos 0) = true ∧
      (within ⟨1⟩).hasElapsed (.ofNanos 0) (.ofNanos 0) = false :=
  ⟨_, rfl, rfl, parse_text (show (within ⟨1⟩).toJson? = _ from rfl) .tight, by decide, by decide, rfl,
    rfl⟩

end Bound

end TemporalMonitor
