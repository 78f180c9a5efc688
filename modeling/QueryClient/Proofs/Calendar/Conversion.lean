import QueryClient.Proofs.Tagged.WallClock

/-!
# Dates and times from a count of milliseconds

A moment that is given as milliseconds since the epoch lies in a day (`dayOf`), and what is left of
it after that day's midnight is the time of day. Some of the conversions count whole days toward
zero and some toward the past, and each has checks and 64-bit arithmetic of its own. Main statement:
`conversions_agree` says that they tell the same date and the same time of every 64-bit count.
-/

namespace QueryClient

/-- The day in which a moment lies, counted from the epoch. -/
def dayOf (millis : Int) : Int := millis.fdiv millisPerDay

theorem dayOf_eq (millis : Int) : dayOf millis = millis / millisPerDay :=
  Int.fdiv_eq_ediv_of_nonneg _ (by decide)

/-! ## The conversions step by step -/

/-- The result of a step in 32 bits without a sign; nothing if it leaves the range. -/
def unsigned? (n : Int) : Option Nat := if 0 ≤ n ∧ n < 4294967296 then some n.toNat else none

theorem unsigned?_eq_some {n : Int} (hlow : 0 ≤ n) (hhigh : n < 4294967296) :
    unsigned? n = some n.toNat := if_pos ⟨hlow, hhigh⟩

/-- The time `millis` after a midnight, with each step in its word and the parts checked. -/
def Time.ofMillis? (millis : Int) : Option Time := do
  let ofDay ← word? (millis % millisPerDay)
  let seconds ← unsigned? (ofDay / 1000)
  let rest ← unsigned? (ofDay % 1000)
  let nanos ← unsigned? (rest * 1000000)
  ofParts? seconds nanos

/-- Milliseconds since the epoch, computed in 64 bits. -/
def Datetime.millis? (d : Datetime) : Option Int := do
  let days ← word? (d.date.days * 86400)
  let seconds ← word? (days + d.time.seconds)
  let whole ← word? (seconds * 1000)
  word? (whole + ((d.time.nanos / 1000000 : Nat) : Int))

/-- Every count of milliseconds has a time of day. -/
theorem Time.ofMillis?_eq (millis : Int) : ofMillis? millis = some (ofMillis millis) := by
  have hlow : 0 ≤ millis % millisPerDay := Int.emod_nonneg _ (by decide)
  have hhigh : millis % millisPerDay < 86400000 := Int.emod_lt_of_pos _ (by decide)
  have hparts : (ofMillis millis).seconds = (millis % millisPerDay).toNat / 1000 ∧
      (ofMillis millis).nanos = (millis % millisPerDay).toNat % 1000 * 1000000 := ⟨rfl, rfl⟩
  rw [ofMillis?]
  generalize millis % millisPerDay = ofDay at *
  refine Option.bind_eq_some_iff.mpr ⟨_, word?_eq_some (by omega) (by omega), ?_⟩
  refine Option.bind_eq_some_iff.mpr ⟨_, unsigned?_eq_some (by omega) (by omega), ?_⟩
  refine Option.bind_eq_some_iff.mpr ⟨_, unsigned?_eq_some (by omega) (by omega), ?_⟩
  refine Option.bind_eq_some_iff.mpr ⟨_, unsigned?_eq_some (by omega) (by omega), ?_⟩
  rw [ofParts?, dif_pos ⟨by omega, by omega, by omega⟩]
  refine congrArg some (eq_of_parts ?_ ?_)
  · dsimp only
    omega
  · dsimp only
    omega

theorem Datetime.millis?_eq (d : Datetime) : d.millis? = some d.millis := by
  have hfirst := d.date.first_le
  have hlast := d.date.le_last
  have hs := d.time.seconds_lt
  have hn := d.time.nanos_lt
  have hdays : word? (d.date.days * 86400) = some (d.date.days * 86400) :=
    word?_eq_some (by omega) (by omega)
  have hseconds : word? (d.date.days * 86400 + d.time.seconds) =
      some (d.date.days * 86400 + d.time.seconds) := word?_eq_some (by omega) (by omega)
  have hwhole : word? ((d.date.days * 86400 + d.time.seconds) * 1000) =
      some ((d.date.days * 86400 + d.time.seconds) * 1000) := word?_eq_some (by omega) (by omega)
  simp only [millis?, Option.bind_eq_bind, hdays, hseconds, hwhole, Option.bind_some]
  exact word?_eq_some (by omega) (by omega)

/-! ## Days and what is left of them -/

/-- The time of day is what is left after the midnight of its day. -/
theorem Time.millis_ofMillis (millis : Int) :
    (ofMillis millis).millis = millis - dayOf millis * millisPerDay := by
  have hlow : 0 ≤ millis % millisPerDay := Int.emod_nonneg _ (by decide)
  have hsplit := Int.ediv_mul_add_emod millis millisPerDay
  rw [dayOf_eq, Time.millis]
  simp only [ofMillis]
  omega

/-- Counting whole days toward zero leaves the same time of day. -/
theorem Time.ofMillis_millisAfterDays (millis : Int) :
    ofMillis (millisAfterDays millis) = ofMillis millis := by
  rw [← ofMillis_add_days (truncateToDays millis), truncateToDays_mul_add]

/-- The whole days toward zero and the rest of any 64-bit count are 64-bit counts. -/
theorem millisAfterDays?_toInt (m : Int64) :
    millisAfterDays? m.toInt = some (millisAfterDays m.toInt) := by
  have hlow : -9223372036854775808 ≤ m.toInt := m.le_toInt
  have hhigh : m.toInt < 9223372036854775808 := m.toInt_lt
  have hdays := truncateToDays_eq m.toInt
  have hsplit := truncateToDays_mul_add m.toInt
  have hrest := natAbs_millisAfterDays_lt m.toInt
  -- cutting toward zero leaves a count between zero and the given one
  have hbetween : -9223372036854775808 ≤ truncateToDays m.toInt * millisPerDay ∧
      truncateToDays m.toInt * millisPerDay < 9223372036854775808 := by
    rw [hdays, millisPerDay]
    split <;> omega
  have hquotient : truncateToDays? m.toInt = some (truncateToDays m.toInt) := by
    rw [millisPerDay] at hbetween
    exact word?_eq_some (show _ ≤ truncateToDays m.toInt by omega)
      (show truncateToDays m.toInt < _ by omega)
  simp only [millisAfterDays?, Option.bind_eq_bind, hquotient, Option.bind_some,
    word?_eq_some hbetween.1 hbetween.2]
  exact word?_eq_some (show _ ≤ millisAfterDays m.toInt by omega)
    (show millisAfterDays m.toInt < _ by omega)

theorem Datetime.ofMillis?_eq_some_iff {millis : Int} {w : Datetime} :
    ofMillis? millis = some w ↔
      Date.ofDays? (dayOf millis) = some w.date ∧ w.time = Time.ofMillis millis := by
  rw [ofMillis?_eq, dayOf_eq, Option.map_eq_some_iff]
  constructor
  · rintro ⟨date, hdate, rfl⟩
    exact ⟨hdate, rfl⟩
  · rintro ⟨hdate, htime⟩
    exact ⟨w.date, hdate, by rw [← htime]⟩

theorem Date.days_of_ofDays? {days : Int} {d : Date} (h : ofDays? days = some d) :
    d.days = days := by
  rw [ofDays?] at h
  split at h
  · obtain rfl := Option.some.inj h
    rfl
  · cases h

/-- A date-time that has been read is counted back as the milliseconds that it was read from. -/
theorem Datetime.millis_of_ofMillis? {millis : Int} {w : Datetime}
    (h : ofMillis? millis = some w) : w.millis = millis := by
  obtain ⟨hdate, htime⟩ := ofMillis?_eq_some_iff.mp h
  rw [millis_eq, Date.days_of_ofDays? hdate, htime, Time.millis_ofMillis]
  omega

/-! ## Agreement -/

/-- **All conversions of a 64-bit count of milliseconds tell the same day and the same time.** There
is always a time, and it is what is left after the midnight of the day in which the moment lies.
There is a date-time if and only if that day is one of the calendar; it is then that day at that
time, and it is counted back as what it was read from. The count that is left over when whole days
are taken off toward zero has the same time, although it is negative before the epoch. -/
theorem conversions_agree (m : Int64) :
    Time.ofMillis? m.toInt = some (Time.ofMillis m.toInt) ∧
    (Time.ofMillis m.toInt).millis = m.toInt - dayOf m.toInt * millisPerDay ∧
    ((∃ w, Datetime.ofMillis? m.toInt = some w) ↔ ∃ d, Date.ofDays? (dayOf m.toInt) = some d) ∧
    (∀ w, Datetime.ofMillis? m.toInt = some w →
      Date.ofDays? (dayOf m.toInt) = some w.date ∧ Time.ofMillis? m.toInt = some w.time ∧
      w.millis? = some m.toInt ∧ w.date.days = dayOf m.toInt) ∧
    ∃ rest, millisAfterDays? m.toInt = some rest ∧
      Time.ofMillis? rest = Time.ofMillis? m.toInt := by
  refine ⟨Time.ofMillis?_eq _, Time.millis_ofMillis _, ?_, ?_, ?_⟩
  · constructor
    · rintro ⟨w, hw⟩
      exact ⟨w.date, (Datetime.ofMillis?_eq_some_iff.mp hw).1⟩
    · rintro ⟨d, hd⟩
      exact ⟨⟨d, Time.ofMillis m.toInt⟩, Datetime.ofMillis?_eq_some_iff.mpr ⟨hd, rfl⟩⟩
  · intro w hw
    obtain ⟨hdate, htime⟩ := Datetime.ofMillis?_eq_some_iff.mp hw
    refine ⟨hdate, ?_, ?_, Date.days_of_ofDays? hdate⟩
    · rw [Time.ofMillis?_eq, htime]
    · rw [Datetime.millis?_eq, Datetime.millis_of_ofMillis? hw]
  · refine ⟨millisAfterDays m.toInt, millisAfterDays?_toInt m, ?_⟩
    rw [Time.ofMillis?_eq, Time.ofMillis?_eq, Time.ofMillis_millisAfterDays]

/-- A millisecond before the epoch is the last one of the day before. -/
example : Datetime.ofMillis? (-1) =
    some ⟨⟨-1, by decide, by decide⟩, ⟨86399, 999000000, by decide, by decide⟩⟩ := by decide

end QueryClient
