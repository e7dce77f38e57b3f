import TemporalMonitor.Text.Blank
import TemporalMonitor.Text.Digits
import TemporalMonitor.Time.Calendar
import TemporalMonitor.Time.Duration

/-!
Points in time, and their text in the format of RFC 3339.
-/

namespace TemporalMonitor

/-- Seconds since 1970-01-01T00:00:00Z and nanoseconds into the second. A leap second has no number of
its own: in it the nanoseconds of the second before go on. -/
structure Timestamp where
  seconds : Int
  nanos : Nat
  nanos_lt : nanos < 2000000000
  deriving DecidableEq, Repr

namespace Timestamp

/-- The seconds come first, so a leap second lies between the second before and the one after. -/
instance : LE Timestamp :=
  ⟨fun a b => a.seconds < b.seconds ∨ a.seconds = b.seconds ∧ a.nanos ≤ b.nanos⟩

instance : LT Timestamp :=
  ⟨fun a b => a.seconds < b.seconds ∨ a.seconds = b.seconds ∧ a.nanos < b.nanos⟩

instance (a b : Timestamp) : Decidable (a ≤ b) :=
  inferInstanceAs (Decidable (a.seconds < b.seconds ∨ a.seconds = b.seconds ∧ a.nanos ≤ b.nanos))

instance (a b : Timestamp) : Decidable (a < b) :=
  inferInstanceAs (Decidable (a.seconds < b.seconds ∨ a.seconds = b.seconds ∧ a.nanos < b.nanos))

/-- The point so many nanoseconds after the start of 1970, in no leap second. -/
def ofNanos (nanos : Int) : Timestamp :=
  ⟨nanos / 1000000000, (nanos % 1000000000).toNat, by omega⟩

def ofMicros (micros : Int) : Timestamp := ofNanos (micros * 1000)

/-- Nanoseconds beyond the last second of a minute are in a leap second, and others are carried over
to the next second. -/
def ofParts (seconds nanos : Int) : Timestamp :=
  if leap : seconds % 60 = 59 ∧ 1000000000 ≤ nanos ∧ nanos < 2000000000 then
    ⟨seconds, nanos.toNat, by omega⟩
  else ofNanos (seconds * 1000000000 + nanos)

def isLeap (stamp : Timestamp) : Bool :=
  decide (1000000000 ≤ stamp.nanos)

def secondOfDay (stamp : Timestamp) : Int :=
  stamp.seconds % 86400

/-- A leap second has no number, so a later time of day counts as one second more after it. -/
def uncounted (now reference : Timestamp) : Int :=
  if reference.secondOfDay < now.secondOfDay ∧ reference.isLeap then 1
  else if now.secondOfDay < reference.secondOfDay ∧ now.isLeap then -1
  else 0

/-- The time that has passed since an earlier point; negative if that point is later. Only the times
of day decide on a leap second, even if the points lie on different days. -/
def since (now reference : Timestamp) : Duration :=
  ⟨(now.seconds - reference.seconds + uncounted now reference) * 1000000000 +
    (now.nanos - reference.nanos)⟩

/-- Decimal digits, with zeros in front up to the given width. -/
def padded (width n : Nat) : String :=
  let digits := Nat.toDigits 10 n
  String.ofList (List.replicate (width - digits.length) '0' ++ digits)

/-- A year outside of 0 to 9999 carries a sign. -/
def yearText (year : Int) : String :=
  let sign := if year < 0 then "-" else if 9999 < year then "+" else ""
  sign ++ padded 4 year.natAbs

/-- Three, six or nine digits, the fewest that are exact, and none for a whole second. -/
def fractionText (nanos : Nat) : String :=
  if nanos = 0 then ""
  else if nanos % 1000000 = 0 then "." ++ padded 3 (nanos / 1000000)
  else if nanos % 1000 = 0 then "." ++ padded 6 (nanos / 1000)
  else "." ++ padded 9 nanos

/-- The date and the time of day. -/
def parts (stamp : Timestamp) : String × String :=
  let date := Time.Date.ofDays (stamp.seconds / 86400)
  let ofDay := stamp.secondOfDay.toNat
  let second := if stamp.isLeap then ofDay % 60 + 1 else ofDay % 60
  (yearText date.year ++ "-" ++ padded 2 date.month ++ "-" ++ padded 2 date.day,
    padded 2 (ofDay / 3600) ++ ":" ++ padded 2 (ofDay / 60 % 60) ++ ":" ++ padded 2 second ++
      fractionText (stamp.nanos % 1000000000))

def text (stamp : Timestamp) : String :=
  stamp.parts.1 ++ "T" ++ stamp.parts.2 ++ "Z"

/-- The form that stands in log lines. -/
def logText (stamp : Timestamp) : String :=
  stamp.parts.1 ++ " " ++ stamp.parts.2 ++ " UTC"

/-- A number of one digit or more, and at most `width` if that is given. -/
def readDigits (width : Option Nat) (text : List Char) : Option (Nat × List Char) :=
  let run := text.takeWhile Char.isDigit
  let digits := match width with
    | some width => run.take width
    | none => run
  if digits.isEmpty then none
  else some (Text.decimalValue digits, text.drop digits.length)

/-- A part of a date or of a time of day, of one or two digits. -/
def readPart (text : List Char) : Option (Nat × List Char) :=
  readDigits (some 2) (Text.skipWhiteSpace text)

def readYear (text : List Char) : Option (Int × List Char) :=
  match Text.skipWhiteSpace text with
  | '-' :: rest => (readDigits none rest).map fun (value, rest) => (-(value : Int), rest)
  | '+' :: rest => (readDigits none rest).map fun (value, rest) => ((value : Int), rest)
  | rest => (readDigits (some 4) rest).map fun (value, rest) => ((value : Int), rest)

def expect (c : Char) (text : List Char) : Option (List Char) :=
  match Text.skipWhiteSpace text with
  | first :: rest => if first = c then some rest else none
  | [] => none

/-- The nanoseconds after a point; what goes beyond nine digits is dropped. -/
def readNanos (text : List Char) : Option (Nat × List Char) :=
  match text with
  | '.' :: rest => do
      let (value, after) ← readDigits (some 9) rest
      let width := rest.length - after.length
      some (value * Nat.pow 10 (9 - width), after.dropWhile Char.isDigit)
  | _ => some (0, text)

def isSign (c : Char) : Bool :=
  c == '+' || c == '-' || c == '−'

/-- Hours and minutes of two digits each, in seconds. -/
def readOffset (text : List Char) : Option (Int × List Char) :=
  match text with
  | sign :: a :: b :: rest =>
    if isSign sign && a.isDigit && b.isDigit then
      match rest.dropWhile (fun c => c == ':' || Text.isWhiteSpace c) with
      | c :: d :: rest =>
        if c.isDigit && d.isDigit && c < '6' then
          let digit := fun (c : Char) => ((c.toNat - '0'.toNat : Nat) : Int)
          let value := (digit a * 10 + digit b) * 3600 + (digit c * 10 + digit d) * 60
          some (if sign == '+' then value else -value, rest)
        else none
      | _ => none
    else none
  | _ => none

/-- The distance from the zero meridian, in seconds. -/
def readZone (text : List Char) : Option (Int × List Char) :=
  match Text.skipWhiteSpace text with
  | c :: rest =>
    if c == 'Z' || c == 'z' then some (0, rest)
    else match c :: rest with
      | a :: b :: c :: rest =>
        if [a.toLower, b.toLower, c.toLower] = ['u', 't', 'c'] then some (0, rest)
        else readOffset (a :: b :: c :: rest)
      | _ => none
  | [] => none

/-- The point in time given by a date, a time of day and an offset, if there is such a point. Every
minute may have a leap second. -/
def ofParts? (date : Time.Date) (hour minute second nanos : Nat) (offset : Int) :
    Option Timestamp :=
  let isLeap := second = 60
  let counted := if isLeap then 59 else second
  let seconds := date.toDays * 86400 + hour * 3600 + minute * 60 + counted - offset
  if date.isValid && hour < 24 && minute < 60 && second ≤ 60 && offset.natAbs < 86400 &&
      Time.isYear (Time.Date.ofDays (seconds / 86400)).year then
    some (ofParts seconds (if isLeap then nanos + 1000000000 else nanos))
  else none

/-- Reads what `text` writes, and also other separators, offsets and widths. -/
def ofText? (text : String) : Option Timestamp := do
  let (year, rest) ← readYear text.toList
  let (month, rest) ← readPart (← expect '-' rest)
  let (day, rest) ← readPart (← expect '-' rest)
  let rest ← match rest with
    | c :: rest => if c == 'T' || c == 't' || c == ' ' then some rest else none
    | [] => none
  let (hour, rest) ← readPart rest
  let (minute, rest) ← readPart (← expect ':' rest)
  let (second, rest) ← readPart (← expect ':' rest)
  let (nanos, rest) ← readNanos rest
  let (offset, rest) ← readZone rest
  if (Text.skipWhiteSpace rest).isEmpty then
    ofParts? ⟨year, month, day⟩ hour minute second nanos offset
  else none

end Timestamp

end TemporalMonitor
