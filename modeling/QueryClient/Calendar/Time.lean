import QueryClient.Calendar.Date

/-!
# Times of day and date-times

A `Time` is a second of the day with its nanoseconds; a second that runs beyond a thousand million
nanoseconds stands for a leap second. A `Datetime` joins a date and a
time, without a zone. On the wire a time is a count of milliseconds since midnight and a
date-time one since the epoch: `ofMillis` and `millis` convert.
-/

namespace QueryClient

/-- Milliseconds in a day. -/
def millisPerDay : Int := 86400000

/-- A time of day. -/
structure Time where
  /-- Whole seconds since midnight. -/
  seconds : Nat
  /-- Nanoseconds within the second; a leap second counts on beyond `10 ^ 9`. -/
  nanos : Nat
  seconds_lt : seconds < 86400
  nanos_lt : nanos < 2000000000
  deriving DecidableEq

/-- A date and a time of day, without a zone. -/
structure Datetime where
  date : Date
  time : Time
  deriving DecidableEq

namespace Time

/-- The first moment of a day. -/
def midnight : Time := ⟨0, 0, by decide, by decide⟩

/-- The time with the given parts, if they are in range. A leap second is the last of its minute. -/
def ofParts? (seconds nanos : Nat) : Option Time :=
  if h : seconds < 86400 ∧ nanos < 2000000000 ∧ (1000000000 ≤ nanos → seconds % 60 = 59) then
    some ⟨seconds, nanos, h.1, h.2.1⟩
  else none

/-- Milliseconds since midnight, without what is left below a millisecond. -/
def millis (t : Time) : Int := ((t.seconds * 1000 + t.nanos / 1000000 : Nat) : Int)

/-- The time `millis` after a midnight, whatever the day. -/
def ofMillis (millis : Int) : Time :=
  let ofDay := (millis % millisPerDay).toNat
  ⟨ofDay / 1000, ofDay % 1000 * 1000000,
    by have := Int.emod_lt_of_pos millis (show (0 : Int) < millisPerDay by decide)
       have := Int.emod_nonneg millis (show millisPerDay ≠ 0 by decide)
       simp only [ofDay, millisPerDay] at *
       omega,
    by omega⟩

/-- Hours, minutes, seconds and milliseconds; a leap second shows as second 60. -/
def text (t : Time) : List Char :=
  let second := t.seconds % 60 + t.nanos / 1000000000
  Text.padded 2 (t.seconds / 3600) ++ ':' :: Text.padded 2 (t.seconds / 60 % 60) ++
    ':' :: Text.padded 2 second ++ '.' :: Text.padded 3 (t.nanos % 1000000000 / 1000000)

end Time

namespace Datetime

/-- The date-time `seconds` and `nanos` after the epoch, if its date is in range. -/
def ofTimestamp? (seconds : Int) (nanos : Nat) : Option Datetime :=
  match Date.ofDays? (seconds / 86400), Time.ofParts? (seconds % 86400).toNat nanos with
  | some date, some time => some ⟨date, time⟩
  | _, _ => none

/-- The date-time `millis` after the epoch, if its date is in range. -/
def ofMillis? (millis : Int) : Option Datetime :=
  ofTimestamp? (millis / 1000) ((millis % 1000).toNat * 1000000)

/-- Milliseconds since the epoch, without what is left below a millisecond. -/
def millis (d : Datetime) : Int :=
  (d.date.days * 86400 + d.time.seconds) * 1000 + ((d.time.nanos / 1000000 : Nat) : Int)

/-- The date and the time, joined by the letter `T`. -/
def text (d : Datetime) : List Char := d.date.text ++ 'T' :: d.time.text

end Datetime

/-- An instant seen at an offset from Universal Time. -/
structure ZonedInstant where
  /-- Whole seconds since the epoch. -/
  seconds : Int
  /-- Nanoseconds after that second. -/
  nanos : Nat
  /-- Seconds that the wall clock is ahead of Universal Time. -/
  offset : Int
  deriving DecidableEq

/-- The reading of the wall clock, as milliseconds since the epoch of a clock without a zone. -/
def ZonedInstant.wallMillis (i : ZonedInstant) : Int :=
  i.seconds * 1000 + ((i.nanos / 1000000 : Nat) : Int) + i.offset * 1000

/-- Whole days in a count of milliseconds, truncated toward zero. -/
def truncateToDays (millis : Int) : Int := millis.tdiv millisPerDay

/-- What is left of a count of milliseconds after its whole days; negative before the epoch. -/
def millisAfterDays (millis : Int) : Int := millis - truncateToDays millis * millisPerDay

end QueryClient
