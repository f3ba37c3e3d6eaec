import QuoteKeeper.Time
/-
  QuoteKeeper.Time.Calendar — instants as dates and times of day in UTC.

  Days since the epoch become proleptic Gregorian dates by counting 400-year eras of 146097
  days from 0000-03-01, so that the leap day ends each counted year; the time of day is the rest
  of the instant after whole days, rounded down. Written forms pad each part with zeros:
  `2025-06-15 15:06:40`, and ISO 8601 with milliseconds and a `Z` zone.
-/

namespace QuoteKeeper

/-- A date and a time of day. -/
structure CivilTime where
  year : Int
  month : Nat
  day : Nat
  hour : Nat
  minute : Nat
  second : Nat
  /-- Nanoseconds into the second. -/
  nanos : Nat
  deriving DecidableEq, Repr

namespace Instant

/-- The date of a day counted from 1970-01-01. -/
def dateOfDays (z : Int) : Int × Nat × Nat :=
  let z := z + 719468
  let era := z / 146097
  let doe := (z - era * 146097).toNat
  let yoe := (doe - doe / 1460 + doe / 36524 - doe / 146096) / 365
  let doy := doe - (365 * yoe + yoe / 4 - yoe / 100)
  let mp := (5 * doy + 2) / 153
  let d := doy - (153 * mp + 2) / 5 + 1
  let mo := if mp < 10 then mp + 3 else mp - 9
  let y := (yoe : Int) + era * 400 + (if mo ≤ 2 then 1 else 0)
  (y, mo, d)

/-- The UTC date and time of an instant in nanoseconds since the epoch. -/
def civil (t : Int) : CivilTime :=
  let days := t / Duration.day
  let rest := (t - days * Duration.day).toNat
  let (y, mo, d) := dateOfDays days
  let secs := rest / 1000000000
  ⟨y, mo, d, secs / 3600, secs / 60 % 60, secs % 60, rest % 1000000000⟩

end Instant

namespace CivilTime

/-- `n` in at least `width` digits. -/
def padded (width : Nat) (n : Nat) : String :=
  let s := natText n
  String.ofList (List.replicate (width - s.length) '0') ++ s

def yearText (y : Int) : String :=
  if y < 0 then "-" ++ padded 4 y.natAbs else padded 4 y.toNat

/-- `2006-01-02 15:04:05`. -/
def plainText (c : CivilTime) : String :=
  yearText c.year ++ "-" ++ padded 2 c.month ++ "-" ++ padded 2 c.day ++ " " ++
    padded 2 c.hour ++ ":" ++ padded 2 c.minute ++ ":" ++ padded 2 c.second

/-- `2006-01-02T15:04:05.000Z`. -/
def isoText (c : CivilTime) : String :=
  yearText c.year ++ "-" ++ padded 2 c.month ++ "-" ++ padded 2 c.day ++ "T" ++
    padded 2 c.hour ++ ":" ++ padded 2 c.minute ++ ":" ++ padded 2 c.second ++ "." ++
    padded 3 (c.nanos / 1000000) ++ "Z"

end CivilTime

end QuoteKeeper
