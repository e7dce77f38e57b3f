import TemporalMonitor.Decimal.Layout
import TemporalMonitor.Error
import TemporalMonitor.Json.Fields
import TemporalMonitor.Time.Timestamp

/-!
Time bounds of patterns.
-/

namespace TemporalMonitor

/-- How long an obligation or an episode may last. -/
inductive Bound where
  | unbounded
  | within (span : Duration)
  deriving DecidableEq, Repr

namespace Bound

/-- A number of seconds, rounded to the nearest microsecond, halves away from zero. Infinitely many
seconds are no bound. -/
def ofSeconds (seconds : Float) : Except ValidationError Bound :=
  if seconds.isNaN then
    .error (.invalidTimeBound "bound is NaN")
  else if seconds == 1.0 / 0.0 then
    .ok unbounded
  else if seconds ≤ 0.0 then
    .error (.invalidTimeBound ("bound must be positive, got " ++ Decimal.plain.text seconds))
  else
    let micros := (seconds * 1000000.0).round
    if micros < 1.0 || micros > 9223372036854775808.0 then
      .error (.invalidTimeBound
        ("bound " ++ Decimal.plain.text seconds ++ "s is outside the representable range"))
    else .ok (within (Duration.ofMicros micros.toInt64.toInt))

/-- A bound is longer than no time at all. -/
def ofDuration (span : Duration) : Except ValidationError Bound :=
  if span ≤ Duration.zero then
    .error (.invalidTimeBound ("bound must be positive, got " ++ span.text))
  else .ok (within span)

def isBounded : Bound → Bool
  | within _ => true
  | unbounded => false

def duration? : Bound → Option Duration
  | within span => some span
  | unbounded => none

/-- A bound has elapsed as soon as it is reached. -/
def hasElapsed (bound : Bound) (reference now : Timestamp) : Bool :=
  match bound with
  | within span => decide (span ≤ now.since reference)
  | unbounded => false

def text : Bound → String
  | unbounded => "unbounded"
  | within span => "within " ++ toString span.millis ++ "ms"

/-- A bound is stored in whole microseconds, so one that is too long for 64 bits has no document. -/
def toJson? : Bound → Option Json
  | unbounded => some (.object [("type", .string "unbounded")])
  | within span => span.micros?.map fun micros =>
      .object [("type", .string "within"), ("micros", .int micros.toInt)]

def ofJson? (document : Json) : Option Bound := do
  let (kind, body) ← document.beside? "type" "micros"
  match kind, body with
  | "unbounded", body => if Json.isVoid body then some unbounded else none
  | "within", some body => body.int64?.map fun micros => within (Duration.ofMicros micros.toInt)
  | _, _ => none

end Bound

namespace Timestamp

def toJson (stamp : Timestamp) : Json :=
  .string stamp.text

def ofJson? (document : Json) : Option Timestamp :=
  document.string?.bind ofText?

end Timestamp

end TemporalMonitor
