/-!
Spans of time, exact to the nanosecond.
-/

namespace TemporalMonitor

structure Duration where
  nanos : Int
  deriving DecidableEq, Repr

namespace Duration

instance : LE Duration := ⟨fun a b => a.nanos ≤ b.nanos⟩

instance : LT Duration := ⟨fun a b => a.nanos < b.nanos⟩

instance (a b : Duration) : Decidable (a ≤ b) := inferInstanceAs (Decidable (a.nanos ≤ b.nanos))

instance (a b : Duration) : Decidable (a < b) := inferInstanceAs (Decidable (a.nanos < b.nanos))

def zero : Duration := ⟨0⟩

def ofMicros (micros : Int) : Duration := ⟨micros * 1000⟩

def ofParts (seconds nanos : Int) : Duration := ⟨seconds * 1000000000 + nanos⟩

/-- Whole seconds; a part of a second is dropped. -/
def seconds (span : Duration) : Int :=
  span.nanos.tdiv 1000000000

/-- The nanoseconds that `seconds` drops, with the sign of the span. -/
def subsecondNanos (span : Duration) : Int :=
  span.nanos.tmod 1000000000

/-- Whole milliseconds; a part of a millisecond is dropped. -/
def millis (span : Duration) : Int :=
  span.nanos.tdiv 1000000

/-- Whole microseconds, if 64 bits can hold them. -/
def micros? (span : Duration) : Option Int64 :=
  let micros := span.nanos.tdiv 1000
  if Int64.minValue.toInt ≤ micros ∧ micros ≤ Int64.maxValue.toInt then some (Int64.ofInt micros)
  else none

/-- The digits of a fraction of a second, without trailing zeros. -/
def fractionText (nanos : Nat) : String :=
  let digits := Nat.toDigits 10 nanos
  let padded := List.replicate (9 - digits.length) '0' ++ digits
  String.ofList (padded.reverse.dropWhile (· == '0')).reverse

/-- Seconds between `PT` and `S`; no time at all is no days. -/
def text (span : Duration) : String :=
  if span.nanos = 0 then "P0D"
  else
    let sign := if span.nanos < 0 then "-" else ""
    let seconds := span.nanos.natAbs / 1000000000
    let nanos := span.nanos.natAbs % 1000000000
    let fraction := if nanos = 0 then "" else "." ++ fractionText nanos
    sign ++ "PT" ++ toString seconds ++ fraction ++ "S"

end Duration

end TemporalMonitor
