import QueryClient.Proofs.Tagged.RoundTrip

/-!
# Instants sent as a wall clock shows them

An instant with a zone is sent by what a wall clock of the zone shows then (`ZonedInstant.Shows`).
The date-time and the time of day are read back as shown, without what is below a millisecond, and
with a leap second counted into the second after it (`zoned_readsBack`). The date is not: its days
are counted toward zero, so that before the epoch the day after is sent unless the clock shows
midnight (`encode_zonedDate`).
-/

namespace QueryClient

/-! ## What a wall clock shows -/

/-- The wall clock shows this date and time at the instant. It is less than a day ahead of Universal
Time or behind it. -/
structure ZonedInstant.Shows (i : ZonedInstant) (w : Datetime) : Prop where
  lt_offset : -86400 < i.offset
  offset_lt : i.offset < 86400
  seconds : w.date.days * 86400 + w.time.seconds = i.seconds + i.offset
  nanos : w.time.nanos = i.nanos

theorem Time.wholeMillis_lt (t : Time) : t.nanos / 1000000 * 1000000 < 2000000000 :=
  Nat.lt_of_le_of_lt (Nat.div_mul_le_self _ _) t.nanos_lt

/-- The time without what is below a millisecond. -/
def Time.inMillis (t : Time) : Time :=
  ⟨t.seconds, t.nanos / 1000000 * 1000000, t.seconds_lt, t.wholeMillis_lt⟩

/-- The date-time without what is below a millisecond. -/
def Datetime.inMillis (d : Datetime) : Datetime := ⟨d.date, d.time.inMillis⟩

/-- A clock shows a date-time whenever the day is one of the calendar. -/
theorem ZonedInstant.exists_shows_iff (i : ZonedInstant) :
    (∃ w, i.Shows w) ↔ (-86400 < i.offset ∧ i.offset < 86400) ∧ i.nanos < 2000000000 ∧
      ∃ d : Date, d.days = (i.seconds + i.offset) / 86400 := by
  constructor
  · rintro ⟨w, lt_offset, offset_lt, seconds, nanos⟩
    have hs := w.time.seconds_lt
    have hn := w.time.nanos_lt
    exact ⟨⟨lt_offset, offset_lt⟩, by omega, w.date, by omega⟩
  · rintro ⟨⟨lt_offset, offset_lt⟩, hn, d, hd⟩
    refine ⟨⟨d, ⟨((i.seconds + i.offset) % 86400).toNat, i.nanos, by omega, hn⟩⟩, lt_offset,
      offset_lt, ?_, rfl⟩
    dsimp only
    omega

theorem Time.onClock_of_not_isLeap {t : Time} (h : ¬t.isLeap) : t.onClock = t.inMillis := by
  rw [onClock, if_neg h]
  rfl

theorem Datetime.onClock_of_not_isLeap {d : Datetime} (h : ¬d.time.isLeap) :
    d.onClock = d.inMillis := by
  rw [onClock, if_neg fun hr => h hr.1, Time.onClock_of_not_isLeap h]
  rfl

theorem Datetime.ofMillis_millis (d : Datetime) : Time.ofMillis d.millis = d.time.onClock := by
  rw [millis_eq, Time.ofMillis_add_days, Time.ofMillis_millis]

theorem ZonedInstant.Shows.wallMillis_eq {i : ZonedInstant} {w : Datetime} (h : i.Shows w) :
    i.wallMillis = w.millis := by
  have hseconds := h.seconds
  have hnanos := h.nanos
  rw [wallMillis, Datetime.millis, hnanos]
  omega

/-! ## Whole days -/

/-- Days are counted toward zero: before the epoch an unfinished day is left out. -/
theorem truncateToDays_eq (millis : Int) :
    truncateToDays millis =
      if 0 ≤ millis ∨ millis % millisPerDay = 0 then millis / millisPerDay
      else millis / millisPerDay + 1 := by
  rw [truncateToDays, Int.tdiv_eq_ediv]
  simp only [Int.dvd_iff_emod_eq_zero]
  split
  · rw [Int.add_zero]
  · rfl

/-- What is left after the whole days is less than a day, before the epoch with a minus. -/
theorem natAbs_millisAfterDays_lt (millis : Int) : (millisAfterDays millis).natAbs < 86400000 := by
  rw [millisAfterDays, truncateToDays_eq, millisPerDay]
  split <;> omega

theorem truncateToDays_mul_add (millis : Int) :
    truncateToDays millis * millisPerDay + millisAfterDays millis = millis := by
  rw [millisAfterDays]
  omega

namespace Datetime

theorem truncateToDays_millis_eq_days_iff (d : Datetime) :
    truncateToDays d.millis = d.date.days ↔
      0 ≤ d.date.days ∧ ¬d.time.rolls ∨ d.date.days < 0 ∧ d.time.millis = 0 := by
  have hpos : 0 ≤ d.time.millis := Int.natCast_nonneg _
  have hroll := d.time.millis_div_millisPerDay
  rw [millis_eq, truncateToDays_eq]
  by_cases h : d.time.rolls
  · rw [if_pos h, millisPerDay] at hroll
    rw [millisPerDay]
    -- a leap second that rolls is counted into the next day, even if that is the epoch's first
    constructor
    · intro hdays
      split at hdays <;> omega
    · rintro (⟨-, hr⟩ | ⟨-, hzero⟩)
      · exact absurd h hr
      · omega
  · rw [if_neg h, millisPerDay] at hroll
    rw [millisPerDay]
    simp only [h, not_false_eq_true, and_true]
    split <;> omega

/-- Before the epoch a day that has begun is left out. -/
theorem truncateToDays_millis_of_neg {d : Datetime} (hday : d.date.days < 0)
    (hrolls : ¬d.time.rolls) (hmidnight : d.time.millis ≠ 0) :
    truncateToDays d.millis = d.date.days + 1 := by
  have hpos : 0 ≤ d.time.millis := Int.natCast_nonneg _
  have hroll := d.time.millis_div_millisPerDay
  rw [if_neg hrolls, millisPerDay] at hroll
  rw [millis_eq, truncateToDays_eq, millisPerDay]
  split <;> omega

end Datetime

/-! ## The conversion in 64 bits -/

/-- The result of a step of 64-bit arithmetic; nothing if it leaves the range. -/
def word? (n : Int) : Option Int :=
  if -9223372036854775808 ≤ n ∧ n < 9223372036854775808 then some n else none

theorem word?_eq_some {n : Int} (hlow : -9223372036854775808 ≤ n)
    (hhigh : n < 9223372036854775808) : word? n = some n := if_pos ⟨hlow, hhigh⟩

/-- The reading of the wall clock, computed in 64 bits. -/
def ZonedInstant.wallMillis? (i : ZonedInstant) : Option Int := do
  let whole ← word? (i.seconds * 1000)
  let utc ← word? (whole + ((i.nanos / 1000000 : Nat) : Int))
  let shift ← word? (i.offset * 1000)
  word? (utc + shift)

/-- The whole days, computed in 64 bits. -/
def truncateToDays? (millis : Int) : Option Int := word? (millis.tdiv millisPerDay)

/-- What is left after the whole days, computed in 64 bits. -/
def millisAfterDays? (millis : Int) : Option Int := do
  let days ← truncateToDays? millis
  let whole ← word? (days * millisPerDay)
  word? (millis - whole)

section

variable {i : ZonedInstant} {w : Datetime} (shown : i.Shows w)
include shown

theorem ZonedInstant.Shows.wallMillis?_eq : i.wallMillis? = some i.wallMillis := by
  obtain ⟨lt_offset, offset_lt, seconds, nanos⟩ := shown
  have hfirst := w.date.first_le
  have hlast := w.date.le_last
  have hs := w.time.seconds_lt
  have hn := w.time.nanos_lt
  have hwhole : word? (i.seconds * 1000) = some (i.seconds * 1000) :=
    word?_eq_some (by omega) (by omega)
  have hutc : word? (i.seconds * 1000 + ((i.nanos / 1000000 : Nat) : Int)) =
      some (i.seconds * 1000 + ((i.nanos / 1000000 : Nat) : Int)) :=
    word?_eq_some (by omega) (by omega)
  have hshift : word? (i.offset * 1000) = some (i.offset * 1000) :=
    word?_eq_some (by omega) (by omega)
  simp only [wallMillis?, Option.bind_eq_bind, hwhole, hutc, hshift, Option.bind_some]
  exact word?_eq_some (by omega) (by omega)

/-- The reading lies within a hundredth of the 64-bit range. -/
theorem ZonedInstant.Shows.natAbs_wallMillis_lt : i.wallMillis.natAbs < 10000000000000000 := by
  have hfirst := w.date.first_le
  have hlast := w.date.le_last
  have hs := w.time.seconds_lt
  have hn := w.time.nanos_lt
  rw [shown.wallMillis_eq, Datetime.millis]
  omega

end

theorem truncateToDays?_eq {millis : Int} (h : millis.natAbs < 10000000000000000) :
    truncateToDays? millis = some (truncateToDays millis) := by
  have hdays := truncateToDays_mul_add millis
  have hrest := natAbs_millisAfterDays_lt millis
  rw [millisPerDay] at hdays
  exact word?_eq_some (show _ ≤ truncateToDays millis by omega)
    (show truncateToDays millis < _ by omega)

theorem millisAfterDays?_eq {millis : Int} (h : millis.natAbs < 10000000000000000) :
    millisAfterDays? millis = some (millisAfterDays millis) := by
  have hdays := truncateToDays_mul_add millis
  have hrest := natAbs_millisAfterDays_lt millis
  have hwhole : word? (truncateToDays millis * millisPerDay) =
      some (truncateToDays millis * millisPerDay) := word?_eq_some (by omega) (by omega)
  simp only [millisAfterDays?, Option.bind_eq_bind, truncateToDays?_eq h, hwhole, Option.bind_some]
  exact word?_eq_some (show _ ≤ millisAfterDays millis by omega)
    (show millisAfterDays millis < _ by omega)

/-! ## What is read back -/

namespace Param

/-- The parameter can be sent, and what is sent is read as the value. -/
def ReadsBack (p : Param) (v : Value) : Prop := ∃ j, p.encode = .ok j ∧ Tagged.decode j = .ok v

theorem ReadsBack.unique {p : Param} {v v' : Value} (h : ReadsBack p v) (h' : ReadsBack p v') :
    v = v' := by
  obtain ⟨j, hj, hv⟩ := h
  obtain ⟨j', hj', hv'⟩ := h'
  obtain rfl := Except.ok.inj (hj.symm.trans hj')
  exact Except.ok.inj (hv.symm.trans hv')

/-- The parameter can be sent, and what is sent is a text that is not read. -/
def Unread (p : Param) : Prop :=
  ∃ text, p.encode = .ok (.string (String.ofList text)) ∧
    Tagged.decode (.string (String.ofList text)) = .error (Tagged.malformed text)

theorem readsBack_zonedDatetime {i : ZonedInstant} {w : Datetime} (shown : i.Shows w)
    (h : ¬w.isBeyond) : ReadsBack (.zonedDatetime i) (.datetime w.onClock) := by
  refine ⟨_, rfl, ?_⟩
  rw [shown.wallMillis_eq]
  exact Tagged.decode_datetime h

theorem unread_zonedDatetime {i : ZonedInstant} {w : Datetime} (shown : i.Shows w)
    (h : w.isBeyond) : Unread (.zonedDatetime i) := by
  have hsize := shown.natAbs_wallMillis_lt
  have hread : Tagged.readBits? 64 (Text.intText i.wallMillis) = some i.wallMillis :=
    Tagged.readBits?_wide (by omega) (by omega)
  refine ⟨_, rfl, Tagged.decode_tagged_of_none rfl ?_⟩
  rw [Tagged.decodePayload?, hread, Option.bind_some, shown.wallMillis_eq,
    Datetime.ofMillis?_millis, if_pos h]
  rfl

theorem readsBack_zonedTime {i : ZonedInstant} {w : Datetime} (shown : i.Shows w) :
    ReadsBack (.zonedTime i) (.time w.time.onClock) := by
  have hrest := natAbs_millisAfterDays_lt i.wallMillis
  have htime : Time.ofMillis (millisAfterDays i.wallMillis) = w.time.onClock := by
    rw [← Datetime.ofMillis_millis, ← shown.wallMillis_eq,
      ← Time.ofMillis_add_days (truncateToDays i.wallMillis), truncateToDays_mul_add]
  refine ⟨_, rfl, Tagged.decode_tagged ?_⟩
  rw [Tagged.decodePayload?, Tagged.readBits?_wide (by omega) (by omega), Option.map_some, htime]

/-- **An instant sent as a date-time or a time of day is read back as the wall clock shows it**,
without what is below a millisecond, before and after the epoch, unless the clock is in a leap
second. No step of the conversion leaves 64 bits. A leap second is counted into the second after it;
the last second of the calendar has none after it, and its leap second is sent as a date-time that
is not read. -/
theorem zoned_readsBack {i : ZonedInstant} {w : Datetime} (shown : i.Shows w) :
    (i.wallMillis? = some i.wallMillis ∧
      truncateToDays? i.wallMillis = some (truncateToDays i.wallMillis) ∧
      millisAfterDays? i.wallMillis = some (millisAfterDays i.wallMillis)) ∧
    (¬w.time.isLeap →
      ReadsBack (.zonedDatetime i) (.datetime w.inMillis) ∧
      ReadsBack (.zonedTime i) (.time w.time.inMillis)) ∧
    (¬w.isBeyond → ReadsBack (.zonedDatetime i) (.datetime w.onClock)) ∧
    (w.isBeyond → Unread (.zonedDatetime i)) ∧
    ReadsBack (.zonedTime i) (.time w.time.onClock) := by
  have hsize := shown.natAbs_wallMillis_lt
  refine ⟨⟨shown.wallMillis?_eq, truncateToDays?_eq hsize, millisAfterDays?_eq hsize⟩,
    fun hleap => ?_, readsBack_zonedDatetime shown, unread_zonedDatetime shown,
    readsBack_zonedTime shown⟩
  rw [← Datetime.onClock_of_not_isLeap hleap, ← Time.onClock_of_not_isLeap hleap]
  exact ⟨readsBack_zonedDatetime shown fun h => hleap h.1.1, readsBack_zonedTime shown⟩

/-- An instant of the summer before the epoch, seen four hours behind Universal Time. -/
def summerInstant : ZonedInstant := ⟨-14182940, 67999999, -14400⟩

/-- What the clock shows then: an afternoon in July, with some nanoseconds. -/
def summerAfternoon : Datetime :=
  ⟨⟨-165, by decide, by decide⟩, ⟨58660, 67999999, by decide, by decide⟩⟩

theorem zoned_readsBack_summer : summerInstant.Shows summerAfternoon ∧
    ReadsBack (.zonedDatetime summerInstant) (.datetime
      ⟨⟨-165, by decide, by decide⟩, ⟨58660, 67000000, by decide, by decide⟩⟩) ∧
    ReadsBack (.zonedTime summerInstant) (.time ⟨58660, 67000000, by decide, by decide⟩) := by
  have shown : summerInstant.Shows summerAfternoon := ⟨by decide, by decide, by decide, rfl⟩
  obtain ⟨-, readsBack, -⟩ := zoned_readsBack shown
  exact ⟨shown, readsBack (by decide)⟩

/-- A quarter of a second into the leap second at the end of the year 2016, seen in Universal Time. -/
def leapInstant : ZonedInstant := ⟨1483228799, 1250000000, 0⟩

/-- What the clock shows then: the last second of the year, and a second and a quarter. -/
def leapSecond : Datetime :=
  ⟨⟨17166, by decide, by decide⟩, ⟨86399, 1250000000, Nat.le_refl 86400, by decide⟩⟩

/-- The leap second at the end of a year is read back as the first second of the next one. -/
theorem zoned_readsBack_leapSecond : leapInstant.Shows leapSecond ∧
    ReadsBack (.zonedDatetime leapInstant) (.datetime
      ⟨⟨17167, by decide, by decide⟩, ⟨0, 250000000, by decide, by decide⟩⟩) ∧
    ¬ReadsBack (.zonedDatetime leapInstant) (.datetime leapSecond.inMillis) ∧
    ReadsBack (.zonedTime leapInstant) (.time ⟨0, 250000000, by decide, by decide⟩) ∧
    ¬ReadsBack (.zonedTime leapInstant) (.time leapSecond.time.inMillis) := by
  have shown : leapInstant.Shows leapSecond := ⟨by decide, by decide, by decide, rfl⟩
  have datetime := readsBack_zonedDatetime shown (by decide)
  have time := readsBack_zonedTime shown
  refine ⟨shown, datetime, fun h => ?_, time, fun h => ?_⟩
  · -- it is the date of the next day
    have same := congrArg (·.date.days) (Value.datetime.inj (datetime.unique h))
    exact absurd same (by decide)
  · have same := congrArg Time.seconds (Value.time.inj (time.unique h))
    exact absurd same (by decide)

/-! ## The date that is sent -/

theorem tagged_intText_inj {t : Datatype} {m n : Int} :
    Tagged.tagged t (Text.intText m) = Tagged.tagged t (Text.intText n) ↔ m = n := by
  refine ⟨fun h => ?_, fun h => h ▸ rfl⟩
  have htext : Text.intText m = Text.intText n := by
    have hchars := congrArg String.toList (Json.string.inj h)
    rw [String.toList_ofList, String.toList_ofList] at hchars
    exact (List.cons.inj (List.append_cancel_left hchars)).2
  have hread := congrArg Text.readInt? htext
  rw [Text.readInt?_intText, Text.readInt?_intText] at hread
  exact Option.some.inj hread

theorem encode_zonedDate_eq_iff {i : ZonedInstant} {d : Date} :
    encode (.zonedDate i) = encode (.value (.date d)) ↔ truncateToDays i.wallMillis = d.days := by
  show (Except.ok _ : Result Json) = .ok _ ↔ _
  rw [Except.ok.injEq, tagged_intText_inj]

/-- **An instant sent as a date is sent as the date that the wall clock shows** if and only if that
date is not before the epoch, or the clock shows midnight to the millisecond. At every other moment
before the epoch the days are cut toward zero, and the date of the next day is sent. The leap second
at the end of a day is counted into the next day here too. -/
theorem encode_zonedDate {i : ZonedInstant} {w : Datetime} (shown : i.Shows w) :
    (encode (.zonedDate i) = encode (.value (.date w.date)) ↔
      0 ≤ w.date.days ∧ ¬w.time.rolls ∨ w.date.days < 0 ∧ w.time.millis = 0) ∧
    (¬w.time.rolls → w.date.days < 0 → w.time.millis ≠ 0 →
      encode (.zonedDate i) = encode (.value (.date w.date.next))) := by
  constructor
  · rw [encode_zonedDate_eq_iff, shown.wallMillis_eq]
    exact w.truncateToDays_millis_eq_days_iff
  · intro hrolls hday hmidnight
    have hnext : w.date.next.days = w.date.days + 1 := by
      rw [Date.next, dif_pos (by omega)]
    rw [encode_zonedDate_eq_iff, shown.wallMillis_eq, hnext]
    exact Datetime.truncateToDays_millis_of_neg hday hrolls hmidnight

theorem encode_zonedDate_summer : summerInstant.Shows summerAfternoon ∧
    encode (.zonedDate summerInstant) = encode (.value (.date summerAfternoon.date.next)) := by
  have shown : summerInstant.Shows summerAfternoon := ⟨by decide, by decide, by decide, rfl⟩
  obtain ⟨-, nextDay⟩ := encode_zonedDate shown
  exact ⟨shown, nextDay (by decide) (by decide) (by decide)⟩

/-- On that afternoon the next day is sent, and not the one that the clock shows. -/
theorem exists_encode_zonedDate_ne : summerInstant.Shows summerAfternoon ∧
    encode (.zonedDate summerInstant) = .ok (.string "11:-164") ∧
    encode (.value (.date summerAfternoon.date)) = .ok (.string "11:-165") ∧
    encode (.zonedDate summerInstant) ≠ encode (.value (.date summerAfternoon.date)) := by
  refine ⟨⟨by decide, by decide, by decide, rfl⟩, rfl, rfl, ?_⟩
  rw [ne_eq, encode_zonedDate_eq_iff]
  decide

end Param

end QueryClient
