import TemporalMonitor.Time.Bound

/-!
The order of timestamps, and when a bound has elapsed.

A leap second lies between two numbered seconds, but the time since a point counts it only if the
point is on the same day. So the later of two points can be longer ago than the earlier one, and a
bound that has elapsed can turn out not to have elapsed later on. What relies on neither happening
says so for the timestamps at hand. Without leap seconds among them both are safe.
-/

namespace TemporalMonitor

namespace Timestamp

variable {a b c : Timestamp}

theorem le_iff : a ≤ b ↔ a.seconds < b.seconds ∨ a.seconds = b.seconds ∧ a.nanos ≤ b.nanos := Iff.rfl

theorem lt_iff : a < b ↔ a.seconds < b.seconds ∨ a.seconds = b.seconds ∧ a.nanos < b.nanos := Iff.rfl

theorem ext_parts (seconds : a.seconds = b.seconds) (nanos : a.nanos = b.nanos) : a = b := by
  cases a
  cases b
  cases seconds
  cases nanos
  rfl

instance : Std.IsLinearOrder Timestamp where
  le_refl a := .inr ⟨rfl, Nat.le_refl _⟩
  le_trans a b c first second := by
    rw [le_iff] at first second ⊢
    omega
  le_antisymm a b first second := by
    rw [le_iff] at first second
    exact ext_parts (by omega) (by omega)
  le_total a b := by
    rw [le_iff, le_iff]
    omega

instance : Std.LawfulOrderLT Timestamp where
  lt_iff a b := by
    rw [lt_iff, le_iff, le_iff]
    omega

/-- Between points that are in no leap second, the time is the difference of their numbers. -/
theorem since_of_ordinary {now reference : Timestamp} (later : now.isLeap = false)
    (earlier : reference.isLeap = false) :
    (now.since reference).nanos =
      (now.seconds - reference.seconds) * 1000000000 + (now.nanos - reference.nanos) := by
  have counted : uncounted now reference = 0 := by
    rw [uncounted, earlier, later, if_neg (by simp), if_neg (by simp)]
  rw [since, counted, Int.add_zero]

theorem isLeap_ofNanos (nanos : Int) : (ofNanos nanos).isLeap = false := by
  refine decide_eq_false ?_
  dsimp only [ofNanos]
  omega

theorem since_ofNanos (now reference : Int) :
    (ofNanos now).since (ofNanos reference) = ⟨now - reference⟩ := by
  have difference := since_of_ordinary (isLeap_ofNanos now) (isLeap_ofNanos reference)
  simp only [ofNanos] at difference
  refine congrArg Duration.mk (difference.trans ?_)
  omega

theorem nanos_lt_of_ordinary (ordinary : a.isLeap = false) : a.nanos < 1000000000 :=
  Nat.not_le.mp (of_decide_eq_false ordinary)

end Timestamp

namespace Bound

variable {bound : Bound} {times : List Timestamp}

theorem hasElapsed_within {span : Duration} {reference now : Timestamp} :
    (within span).hasElapsed reference now = true ↔ span.nanos ≤ (now.since reference).nanos :=
  decide_eq_true_iff

/-- When the time of one of these points is over, then so is the time of every earlier one. -/
def ElapsesInOrder (bound : Bound) (times : List Timestamp) : Prop :=
  ∀ now ∈ times, ∀ earlier ∈ times, ∀ later ∈ times, earlier ≤ later →
    bound.hasElapsed later now = true → bound.hasElapsed earlier now = true

/-- When the time of one of these points is over, then it stays over. -/
def StaysElapsed (bound : Bound) (times : List Timestamp) : Prop :=
  ∀ reference ∈ times, ∀ now ∈ times, ∀ later ∈ times, now ≤ later →
    bound.hasElapsed reference now = true → bound.hasElapsed reference later = true

instance : Decidable (bound.ElapsesInOrder times) := by
  unfold ElapsesInOrder
  infer_instance

instance : Decidable (bound.StaysElapsed times) := by
  unfold StaysElapsed
  infer_instance

theorem elapsesInOrder_unbounded (times : List Timestamp) : unbounded.ElapsesInOrder times := by
  intro now here earlier first later second order elapsed
  cases elapsed

theorem ElapsesInOrder.mono {fewer : List Timestamp} (inOrder : bound.ElapsesInOrder times)
    (subset : ∀ time ∈ fewer, time ∈ times) : bound.ElapsesInOrder fewer :=
  fun now here earlier first later second =>
    inOrder now (subset now here) earlier (subset earlier first) later (subset later second)

/-- Without leap seconds the earlier point is longer ago. -/
theorem elapsesInOrder_of_ordinary (ordinary : ∀ time ∈ times, time.isLeap = false) :
    bound.ElapsesInOrder times := by
  intro now here earlier first later second order elapsed
  cases bound with
  | unbounded => cases elapsed
  | within span =>
      have below := Timestamp.nanos_lt_of_ordinary (ordinary earlier first)
      rw [hasElapsed_within, Timestamp.since_of_ordinary (ordinary now here)
        (ordinary later second)] at elapsed
      rw [hasElapsed_within, Timestamp.since_of_ordinary (ordinary now here)
        (ordinary earlier first)]
      rw [Timestamp.le_iff] at order
      omega

/-- Without leap seconds more time has passed at the later point. -/
theorem staysElapsed_of_ordinary (ordinary : ∀ time ∈ times, time.isLeap = false) :
    bound.StaysElapsed times := by
  intro reference known now here later there order elapsed
  cases bound with
  | unbounded => cases elapsed
  | within span =>
      have below := Timestamp.nanos_lt_of_ordinary (ordinary now here)
      rw [hasElapsed_within, Timestamp.since_of_ordinary (ordinary now here)
        (ordinary reference known)] at elapsed
      rw [hasElapsed_within, Timestamp.since_of_ordinary (ordinary later there)
        (ordinary reference known)]
      rw [Timestamp.le_iff] at order
      omega

end Bound

end TemporalMonitor
