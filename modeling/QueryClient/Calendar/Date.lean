import QueryClient.Text.Numeral

/-!
# Dates

A `Date` is a count of days since 1 January 1970 in the proleptic Gregorian calendar, which has a
year 0. `Civil` is the view of it as year, month and day. Dates run from the first day of the
year -262143 to the last day of the year 262142.
-/

namespace QueryClient

/-- A year, a month from 1 and a day of the month from 1. -/
structure Civil where
  year : Int
  month : Nat
  day : Nat
  deriving DecidableEq

/-- A day, counted from 1 January 1970. -/
structure Date where
  /-- Days since 1 January 1970, negative before it. -/
  days : Int
  first_le : -96465292 ≤ days
  le_last : days ≤ 95026236
  deriving DecidableEq

namespace Civil

/-- Days from 1 March of the year 0 to the given day. Years are taken to start in March, so that
a leap day is the last day of its year. -/
def daysFromMarch (c : Civil) : Int :=
  let year := if c.month ≤ 2 then c.year - 1 else c.year
  let era := year / 400
  let yearOfEra := year % 400
  let monthFromMarch : Int := if 2 < c.month then c.month - 3 else c.month + 9
  let dayOfYear := (153 * monthFromMarch + 2) / 5 + c.day - 1
  era * 146097 + (yearOfEra * 365 + yearOfEra / 4 - yearOfEra / 100 + dayOfYear)

/-- Days since 1 January 1970. -/
def toDays (c : Civil) : Int := c.daysFromMarch - 719468

/-- The civil view of a day count. -/
def ofDays (days : Int) : Civil :=
  let shifted := days + 719468
  let era := shifted / 146097
  let dayOfEra := (shifted % 146097).toNat
  let yearOfEra :=
    (dayOfEra - dayOfEra / 1460 + dayOfEra / 36524 - dayOfEra / 146096) / 365
  let dayOfYear := dayOfEra - (365 * yearOfEra + yearOfEra / 4 - yearOfEra / 100)
  let monthFromMarch := (5 * dayOfYear + 2) / 153
  let day := dayOfYear - (153 * monthFromMarch + 2) / 5 + 1
  let month := if monthFromMarch < 10 then monthFromMarch + 3 else monthFromMarch - 9
  let year := era * 400 + yearOfEra
  ⟨if month ≤ 2 then year + 1 else year, month, day⟩

/-- A year of up to four digits has exactly four and no sign; any other year has a sign and at
least four digits. -/
def yearText (year : Int) : List Char :=
  if 0 ≤ year ∧ year ≤ 9999 then Text.padded 4 year.toNat
  else (if year < 0 then '-' else '+') :: Text.padded 4 year.natAbs

/-- Year, month and day, joined by hyphens. -/
def text (c : Civil) : List Char :=
  yearText c.year ++ '-' :: Text.padded 2 c.month ++ '-' :: Text.padded 2 c.day

end Civil

namespace Date

/-- The date that lies `days` after 1 January 1970, if it is in range. -/
def ofDays? (days : Int) : Option Date :=
  if h : -96465292 ≤ days ∧ days ≤ 95026236 then some ⟨days, h.1, h.2⟩ else none

/-- Year, month and day of a date. -/
def civil (d : Date) : Civil := Civil.ofDays d.days

/-- The date with the given civil view, if it is in range. -/
def ofCivil? (c : Civil) : Option Date := ofDays? c.toDays

/-- Year, month and day, joined by hyphens. -/
def text (d : Date) : List Char := d.civil.text

end Date

end QueryClient
