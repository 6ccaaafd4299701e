import ControlPlane.Text.Digits
import ControlPlane.Time.Calendar

/-!
# Instants and their written form

An instant counts seconds from 1970-01-01 in universal time and the nanoseconds
within the second; a count of nanoseconds from 10⁹ on marks a leap second, which
is written as second 60 of its minute.  A `DateTime` is an instant seen with an
offset from universal time.

The written form is `YYYY-MM-DDTHH:MM:SS`, then the fraction with as few of 0, 3,
6 or 9 digits as are exact, then `Z` or the offset as `+HH:MM`.
-/

namespace ControlPlane

/-- A point in time. -/
structure Instant where
  /-- Whole seconds since 1970-01-01, without leap seconds. -/
  seconds : Int
  /-- Nanoseconds within the second; from 10⁹ on in a leap second. -/
  nanos : Nat
  deriving DecidableEq, Repr

/-- An instant and the offset, in seconds east, of the clock that it is written for. -/
structure DateTime where
  instant : Instant
  offset : Int
  deriving DecidableEq, Repr

/-- The number of nanoseconds in a second. -/
def nanosPerSecond : Nat := 1000000000

/-- The number of seconds in a day. -/
def secondsPerDay : Nat := 86400

/-- The years that dates may lie in. -/
def firstYear : Int := -262143

/-- The last year that a date may lie in. -/
def lastYear : Int := 262142

namespace Instant

/-- The date in universal time. -/
def date (instant : Instant) : Date :=
  .ofDays (instant.seconds / secondsPerDay)

/-- Whether the date of the instant lies in the range of years. -/
def InRange (instant : Instant) : Prop :=
  firstYear ≤ instant.date.year ∧ instant.date.year ≤ lastYear

instance (instant : Instant) : Decidable instant.InRange := by
  unfold InRange; infer_instance

/-- The instant of the given seconds and nanoseconds.  A leap second can only be
the last second of a minute. -/
def ofParts? (seconds : Int) (nanos : Nat) : Option Instant :=
  let instant : Instant := ⟨seconds, nanos⟩
  if instant.InRange ∧
      (nanos < nanosPerSecond ∨ (nanos < 2 * nanosPerSecond ∧ seconds % 60 = 59)) then
    some instant
  else none

/-- Nanoseconds since 1970-01-01; a leap second counts as the second after it. -/
def toNanos (instant : Instant) : Int :=
  instant.seconds * nanosPerSecond + instant.nanos

/-- The instant a number of nanoseconds after 1970-01-01. -/
def ofNanos (nanos : Int) : Instant :=
  ⟨nanos / nanosPerSecond, (nanos % nanosPerSecond).toNat⟩

theorem toNanos_ofNanos (nanos : Int) : (ofNanos nanos).toNanos = nanos := by
  simp only [toNanos, ofNanos, nanosPerSecond]
  omega

end Instant

/-! ## Written form -/

/-- A year: four digits, with a sign before or after the first ten thousand. -/
def yearText (year : Int) : String :=
  if 0 ≤ year ∧ year ≤ 9999 then Text.padded 4 year.toNat
  else (if year < 0 then "-" else "+") ++ Text.padded 4 year.natAbs

/-- A date as `YYYY-MM-DD`. -/
def Date.text (date : Date) : String :=
  yearText date.year ++ "-" ++ Text.padded 2 date.month ++ "-" ++ Text.padded 2 date.day

/-- A fraction of a second, with as few of 0, 3, 6 or 9 digits as are exact. -/
def fractionText (nanos : Nat) : String :=
  if nanos = 0 then ""
  else if nanos % 1000000 = 0 then "." ++ Text.padded 3 (nanos / 1000000)
  else if nanos % 1000 = 0 then "." ++ Text.padded 6 (nanos / 1000)
  else "." ++ Text.padded 9 nanos

/-- A time of day as `HH:MM:SS` and the fraction; nanoseconds from 10⁹ on make
second 60 out of second 59. -/
def clockText (secondOfDay nanos : Nat) : String :=
  let leap := nanosPerSecond ≤ nanos
  let second := secondOfDay % 60 + (if leap then 1 else 0)
  let fraction := if leap then nanos - nanosPerSecond else nanos
  Text.padded 2 (secondOfDay / 3600) ++ ":" ++ Text.padded 2 (secondOfDay / 60 % 60) ++ ":" ++
    Text.padded 2 second ++ fractionText fraction

/-- An offset: `Z`, or the sign, hours and minutes. -/
def offsetText (offset : Int) : String :=
  if offset = 0 then "Z"
  else
    (if offset < 0 then "-" else "+") ++ Text.padded 2 (offset.natAbs / 3600) ++ ":" ++
      Text.padded 2 (offset.natAbs / 60 % 60)

/-- The date and the time of day, in seconds, that a clock with an offset shows. -/
def DateTime.shown (time : DateTime) : Date × Nat :=
  let seconds := time.instant.seconds + time.offset
  (.ofDays (seconds / secondsPerDay), (seconds % secondsPerDay).toNat)

/-- The written form of a date and time. -/
def DateTime.text (time : DateTime) : String :=
  let (date, secondOfDay) := time.shown
  date.text ++ "T" ++ clockText secondOfDay time.instant.nanos ++ offsetText time.offset

/-- The instant in universal time. -/
def Instant.text (instant : Instant) : String :=
  DateTime.text ⟨instant, 0⟩

/-- The instant in universal time, in the wording of messages. -/
def Instant.label (instant : Instant) : String :=
  let (date, secondOfDay) := DateTime.shown ⟨instant, 0⟩
  date.text ++ " " ++ clockText secondOfDay instant.nanos ++ " UTC"

end ControlPlane
