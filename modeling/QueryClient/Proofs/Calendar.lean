import QueryClient.Calendar.Time

/-!
# Times and date-times counted in milliseconds

A count of milliseconds falls into its whole days, which make the date, and the rest, which makes
the time (`Datetime.ofMillis?_eq`). Counted in milliseconds a clock knows neither what is below a
millisecond nor leap seconds, which it counts into the second after: what it shows is `onClock`.
Main statements: `Time.ofMillis_millis` and `Datetime.ofMillis?_millis`.
-/

namespace QueryClient

/-! ## Dates -/

namespace Date

/-- The day after; the last day of the calendar has none and is taken to stay. -/
def next (d : Date) : Date :=
  if h : d.days < 95026236 then ⟨d.days + 1, by have := d.first_le; omega, by omega⟩ else d

theorem ofDays?_days (d : Date) : ofDays? d.days = some d := by
  rw [ofDays?, dif_pos ⟨d.first_le, d.le_last⟩]

theorem ofDays?_succ (d : Date) :
    ofDays? (d.days + 1) = if d.days = 95026236 then none else some d.next := by
  have hfirst := d.first_le
  have hlast := d.le_last
  by_cases h : d.days = 95026236
  · rw [if_pos h, ofDays?, dif_neg (by omega)]
  · rw [if_neg h, next, dif_pos (by omega), ofDays?, dif_pos (by omega)]

end Date

/-! ## Times -/

namespace Time

/-- Whether a time lies in a leap second. -/
def isLeap (t : Time) : Prop := 1000000000 ≤ t.nanos

instance (t : Time) : Decidable t.isLeap := inferInstanceAs (Decidable (_ ≤ _))

/-- Whether a leap second is over only on the next day. -/
def rolls (t : Time) : Prop := t.isLeap ∧ t.seconds = 86399

instance (t : Time) : Decidable t.rolls := inferInstanceAs (Decidable (_ ∧ _))

/-- The time in whole milliseconds that a clock without leap seconds shows. -/
def onClock (t : Time) : Time :=
  if t.isLeap then
    ⟨(t.seconds + 1) % 86400, (t.nanos - 1000000000) / 1000000 * 1000000,
      by omega, by have := t.nanos_lt; omega⟩
  else ⟨t.seconds, t.nanos / 1000000 * 1000000, t.seconds_lt, by have := t.nanos_lt; omega⟩

theorem eq_of_parts {t u : Time} (seconds : t.seconds = u.seconds) (nanos : t.nanos = u.nanos) :
    t = u := by
  cases t
  cases u
  simp_all

/-- A time does not depend on the day. -/
theorem ofMillis_add_days (days millis : Int) :
    ofMillis (days * millisPerDay + millis) = ofMillis millis := by
  have h : (days * millisPerDay + millis) % millisPerDay = millis % millisPerDay := by
    rw [Int.add_comm, Int.add_mul_emod_self_right]
  refine eq_of_parts ?_ ?_
  · simp only [ofMillis, h]
  · simp only [ofMillis, h]

theorem ofMillis_millis (t : Time) : ofMillis t.millis = t.onClock := by
  have hs := t.seconds_lt
  have hn := t.nanos_lt
  have hday : (t.millis % millisPerDay).toNat =
      (t.seconds * 1000 + t.nanos / 1000000) % 86400000 := by
    simp only [millis, millisPerDay]
    omega
  by_cases h : t.isLeap
  · have hleap : 1000000000 ≤ t.nanos := h
    rw [onClock, if_pos h]
    refine eq_of_parts ?_ ?_
    · simp only [ofMillis, hday]
      omega
    · simp only [ofMillis, hday]
      omega
  · have hleap : ¬1000000000 ≤ t.nanos := h
    rw [onClock, if_neg h]
    refine eq_of_parts ?_ ?_
    · simp only [ofMillis, hday]
      omega
    · simp only [ofMillis, hday]
      omega

/-- A time is less than a day after midnight, unless it rolls into the next day. -/
theorem millis_div_millisPerDay (t : Time) :
    t.millis / millisPerDay = if t.rolls then 1 else 0 := by
  have hs := t.seconds_lt
  have hn := t.nanos_lt
  by_cases h : t.rolls
  · have hrolls : 1000000000 ≤ t.nanos ∧ t.seconds = 86399 := h
    rw [if_pos h, millis, millisPerDay]
    omega
  · have hrolls : ¬(1000000000 ≤ t.nanos ∧ t.seconds = 86399) := h
    rw [if_neg h, millis, millisPerDay]
    omega

end Time

/-! ## Date-times -/

namespace Datetime

/-- Whether a date-time lies in the leap second after the last second of the calendar. -/
def isBeyond (d : Datetime) : Prop := d.time.rolls ∧ d.date.days = 95026236

instance (d : Datetime) : Decidable d.isBeyond := inferInstanceAs (Decidable (_ ∧ _))

/-- The date-time in whole milliseconds that a clock without leap seconds shows. -/
def onClock (d : Datetime) : Datetime :=
  ⟨if d.time.rolls then d.date.next else d.date, d.time.onClock⟩

theorem ofMillis?_eq (millis : Int) :
    ofMillis? millis = (Date.ofDays? (millis / millisPerDay)).map (⟨·, Time.ofMillis millis⟩) := by
  have hdays : millis / 1000 / 86400 = millis / millisPerDay := by
    simp only [millisPerDay]
    omega
  have htime : Time.ofParts? (millis / 1000 % 86400).toNat ((millis % 1000).toNat * 1000000) =
      some (Time.ofMillis millis) := by
    rw [Time.ofParts?, dif_pos (by omega)]
    refine congrArg some (Time.eq_of_parts ?_ ?_)
    · simp only [Time.ofMillis, millisPerDay]
      omega
    · simp only [Time.ofMillis, millisPerDay]
      omega
  rw [ofMillis?, ofTimestamp?, hdays, htime]
  cases Date.ofDays? (millis / millisPerDay) with
  | none => rfl
  | some date => rfl

theorem millis_eq (d : Datetime) : d.millis = d.date.days * millisPerDay + d.time.millis := by
  simp only [millis, Time.millis, millisPerDay]
  omega

theorem ofMillis?_millis (d : Datetime) :
    ofMillis? d.millis = if d.isBeyond then none else some d.onClock := by
  have hdays : d.millis / millisPerDay = d.date.days + if d.time.rolls then 1 else 0 := by
    rw [millis_eq, ← Time.millis_div_millisPerDay, Int.add_comm,
      Int.add_mul_ediv_right _ _ (by decide), Int.add_comm]
  have htime : Time.ofMillis d.millis = d.time.onClock := by
    rw [millis_eq, Time.ofMillis_add_days, Time.ofMillis_millis]
  rw [ofMillis?_eq, hdays, htime]
  by_cases hr : d.time.rolls
  · -- the next day is no day of the calendar if the date is the last one
    rw [if_pos hr, Date.ofDays?_succ]
    by_cases hd : d.date.days = 95026236
    · rw [if_pos hd, if_pos ⟨hr, hd⟩]
      rfl
    · rw [if_neg hd, if_neg fun h => hd h.2, onClock, if_pos hr]
      rfl
  · rw [if_neg hr, if_neg fun h => hr h.1, onClock, if_neg hr, Int.add_zero, Date.ofDays?_days]
    rfl

end Datetime

end QueryClient
