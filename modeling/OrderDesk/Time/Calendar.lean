/-
Dates and times as text.

Days are counted in the Gregorian calendar, extended to all years.  The calendar
repeats every 400 years; within such an era the year is taken to begin with March,
so that the leap day is the last day of a year.
-/
import OrderDesk.Text.Numeral
import OrderDesk.Time.Instant

namespace OrderDesk.Calendar

open OrderDesk.Text

/-- A day of the calendar. -/
structure Date where
  year : Int
  month : Nat
  day : Nat
  deriving DecidableEq, Repr

/-- The date that lies `days` days after 1970-01-01. -/
def Date.ofDays (days : Int) : Date :=
  let days := days + 719468
  let era := days / 146097
  let dayOfEra := (days % 146097).toNat
  let yearOfEra := (dayOfEra - dayOfEra / 1460 + dayOfEra / 36524 - dayOfEra / 146096) / 365
  let dayOfYear := dayOfEra - (365 * yearOfEra + yearOfEra / 4 - yearOfEra / 100)
  let monthFromMarch := (5 * dayOfYear + 2) / 153
  let day := dayOfYear - (153 * monthFromMarch + 2) / 5 + 1
  let month := if monthFromMarch < 10 then monthFromMarch + 3 else monthFromMarch - 9
  let year := era * 400 + yearOfEra + (if month ≤ 2 then 1 else 0)
  ⟨year, month, day⟩

/-- A year: four digits, or a sign and at least four digits outside 0 to 9999. -/
def yearText (year : Int) : List Char :=
  if year < 0 then '-' :: paddedDigits 4 year.natAbs
  else if year ≤ 9999 then paddedDigits 4 year.natAbs
  else '+' :: paddedDigits 4 year.natAbs

/-- The part of a second, with as few digits as are exact, in steps of three. -/
def fractionText (nanos : Nat) : List Char :=
  if nanos = 0 then []
  else if nanos % 1000000 = 0 then '.' :: paddedDigits 3 (nanos / 1000000)
  else if nanos % 1000 = 0 then '.' :: paddedDigits 6 (nanos / 1000)
  else '.' :: paddedDigits 9 nanos

/-- An instant as date and time, followed by `zone`.  A leap second is second 60. -/
def text (zone : String) (t : Instant) : String :=
  let date := Date.ofDays (t.seconds / 86400)
  let second := (t.seconds % 86400).toNat
  let (extra, nanos) := if t.isLeap then (1, t.nanos - Instant.nanosPerSecond) else (0, t.nanos)
  String.ofList
    (yearText date.year ++ '-' :: paddedDigits 2 date.month ++ '-' :: paddedDigits 2 date.day ++
      'T' :: paddedDigits 2 (second / 3600) ++ ':' :: paddedDigits 2 (second / 60 % 60) ++
      ':' :: paddedDigits 2 (second % 60 + extra) ++ fractionText nanos ++ zone.toList)

/-- An instant as date and time in UTC, marked by a `Z`. -/
def utcText (t : Instant) : String := text "Z" t

/-- An instant as date and time in UTC, marked by its offset. -/
def offsetText (t : Instant) : String := text "+00:00" t

end OrderDesk.Calendar
