import QueryClient.Calendar.Duration
import QueryClient.Proofs.Decimal.Grammar

/-!
# Durations read back from their text

`Duration.Spells` is the grammar of ISO 8601 durations with the parts in their ranges and none of
them zero, and `readDuration?` a reader of such texts that knows neither ranges nor the writer.
What `durationText` writes is in the grammar and is read back with the one sign that the text has
for both counts (`spells_durationText`, `readDuration?_durationText`): the counts themselves unless
their signs differ (`durationText_readsBack`).
-/

namespace QueryClient

open Text

namespace Duration

/-! ## The grammar -/

/-- The parts of a duration, each less than one of the next greater part. -/
structure Parts where
  years : Nat
  months : Nat
  days : Nat
  hours : Nat
  minutes : Nat
  /-- The seconds, in thousandths. -/
  millis : Nat
  months_lt : months < 12
  hours_lt : hours < 24
  minutes_lt : minutes < 60
  millis_lt : millis < 60 * 1000

namespace Parts

/-- No part at all. -/
def zero : Parts := ⟨0, 0, 0, 0, 0, 0, by decide, by decide, by decide, by decide⟩

/-- The months that the parts come to. -/
def totalMonths (p : Parts) : Nat := p.years * 12 + p.months

/-- The milliseconds that the parts come to. -/
def totalMillis (p : Parts) : Nat :=
  ((p.days * 24 + p.hours) * 60 + p.minutes) * 60 * 1000 + p.millis

/-- The parts that counts of months and milliseconds fall into. -/
def ofTotals (months millis : Nat) : Parts where
  years := months / 12
  months := months % 12
  days := millis / 86400000
  hours := millis % 86400000 / 3600000
  minutes := millis % 86400000 % 3600000 / 60000
  millis := millis % 86400000 % 60000
  months_lt := by omega
  hours_lt := by omega
  minutes_lt := by omega
  millis_lt := by omega

theorem totalMonths_ofTotals (months millis : Nat) :
    (ofTotals months millis).totalMonths = months := by
  simp only [totalMonths, ofTotals]
  omega

theorem totalMillis_ofTotals (months millis : Nat) :
    (ofTotals months millis).totalMillis = millis := by
  simp only [totalMillis, ofTotals]
  omega

end Parts

/-- The text spells a whole number. -/
inductive NumberText : Nat → List Char → Prop
  | digits {ds} : Digits ds → ds ≠ [] → NumberText (Nat.ofDigitChars 10 ds 0) ds

/-- The text spells a number of thousandths: a whole number, or one with three decimals. -/
inductive ThousandthsText : Nat → List Char → Prop
  | whole {n ds} : NumberText n ds → ThousandthsText (n * 1000) ds
  | decimals {n m ds fs} : NumberText n ds → NumberText m fs → fs.length = 3 → 0 < m →
      ThousandthsText (n * 1000 + m) (ds ++ '.' :: fs)

/-- The text of a part: its number and its unit. A part that is zero has no text. -/
inductive PartText (Number : Nat → List Char → Prop) (unit : Char) : Nat → List Char → Prop
  | zero : PartText Number unit 0 []
  | number {n ds} : Number n ds → 0 < n → PartText Number unit n (ds ++ [unit])

/-- The text of the time behind its `T`, which stands only if there is such a text. -/
inductive ClockText : List Char → List Char → Prop
  | nothing : ClockText [] []
  | time {cs} : cs ≠ [] → ClockText cs ('T' :: cs)

/-- The text spells the duration with this sign and these parts. There is at least one part: zero is
spelled in seconds. -/
inductive Spells : Bool → Parts → List Char → Prop
  | zero : Spells false Parts.zero ['P', 'T', '0', 'S']
  | parts {negative p years months days hours minutes seconds clock} :
      PartText NumberText 'Y' p.years years → PartText NumberText 'M' p.months months →
      PartText NumberText 'D' p.days days → PartText NumberText 'H' p.hours hours →
      PartText NumberText 'M' p.minutes minutes → PartText ThousandthsText 'S' p.millis seconds →
      ClockText (hours ++ (minutes ++ seconds)) clock →
      years ++ (months ++ days) ++ clock ≠ [] →
      Spells negative p
        ((if negative then ['-'] else []) ++ 'P' :: (years ++ (months ++ days) ++ clock))

/-- The text spells a duration. -/
def IsDuration (cs : List Char) : Prop := ∃ negative p, Spells negative p cs

/-! ## The reader -/

/-- The number in front of the unit, and the text behind it; zero if the unit does not occur. -/
def readPart? (read : List Char → Option Nat) (unit : Char) (cs : List Char) :
    Option (Nat × List Char) :=
  match splitOnce unit cs with
  | some (number, rest) => (read number).map (·, rest)
  | none => some (0, cs)

/-- Thousandths in a number with up to three decimals. -/
def readThousandths? (cs : List Char) : Option Nat :=
  match splitOnce '.' cs with
  | some (whole, decimals) => do
    let n ← readNat? whole
    let m ← readNat? decimals
    if decimals.length ≤ 3 then some (n * 1000 + m * 10 ^ (3 - decimals.length)) else none
  | none => (readNat? cs).map (· * 1000)

/-- Months and milliseconds in the text before the `T` and the one behind it. -/
def readParts? (date clock : List Char) : Option (Nat × Nat) := do
  let (years, date) ← readPart? readNat? 'Y' date
  let (months, date) ← readPart? readNat? 'M' date
  let (days, date) ← readPart? readNat? 'D' date
  let (hours, clock) ← readPart? readNat? 'H' clock
  let (minutes, clock) ← readPart? readNat? 'M' clock
  let (millis, clock) ← readPart? readThousandths? 'S' clock
  if date ++ clock = [] then
    some (years * 12 + months, ((days * 24 + hours) * 60 + minutes) * 60 * 1000 + millis)
  else none

/-- Months and milliseconds in the text behind the `P`, which neither is empty nor ends in `T`. -/
def readCounts? (cs : List Char) : Option (Nat × Nat) :=
  match splitOnce 'T' cs with
  | some (_, []) => none
  | some (date, clock) => readParts? date clock
  | none => if cs = [] then none else readParts? cs []

end Duration

/-- Months and milliseconds of the duration that the text spells; its sign is that of both. -/
def readDuration? : List Char → Option (Int × Int)
  | '-' :: 'P' :: cs => (Duration.readCounts? cs).map fun (m, t) => (signed true m, signed true t)
  | 'P' :: cs => (Duration.readCounts? cs).map fun (m, t) => (signed false m, signed false t)
  | _ => none

namespace Duration

/-! ## Reading what is spelled -/

/-- The reader reads what the grammar spells, and no letter occurs there. -/
structure ReadBy (Number : Nat → List Char → Prop) (read : List Char → Option Nat) : Prop where
  read_eq : ∀ {n ds}, Number n ds → read ds = some n
  letter_not_mem : ∀ {n ds c}, Number n ds → c.isAlpha = true → c ∉ ds

theorem NumberText.all_isDigit {n : Nat} {ds : List Char} (h : NumberText n ds) : Digits ds := by
  cases h with
  | digits digits _ => exact digits

theorem isDigit_eq_false_of_isAlpha {c : Char} (h : c.isAlpha = true) : isDigit c = false := by
  refine Bool.eq_false_iff.mpr fun hdigit => ?_
  obtain ⟨n, hn, rfl⟩ := digitChar_of_isDigit hdigit
  revert n
  decide

theorem ne_point_of_isAlpha {c : Char} (h : c.isAlpha = true) : c ≠ '.' := by
  rintro rfl
  exact absurd h (by decide)

theorem NumberText.readBy : ReadBy NumberText readNat? where
  read_eq h := by
    cases h with
    | digits digits nonempty => exact readNat?_eq_some_iff.mpr ⟨digits, nonempty, rfl⟩
  letter_not_mem h hc := h.all_isDigit.not_mem (isDigit_eq_false_of_isAlpha hc)

theorem ThousandthsText.readBy : ReadBy ThousandthsText readThousandths? where
  read_eq h := by
    cases h with
    | whole hwhole =>
      rw [readThousandths?, splitOnce_of_not_mem (hwhole.all_isDigit.not_mem rfl)]
      simp only [NumberText.readBy.read_eq hwhole, Option.map_some]
    | decimals hwhole hdecimals length_eq hpos =>
      rw [readThousandths?, splitOnce_append (hwhole.all_isDigit.not_mem rfl)]
      simp [NumberText.readBy.read_eq hwhole, NumberText.readBy.read_eq hdecimals, length_eq]
  letter_not_mem h hc := by
    cases h with
    | whole hwhole => exact NumberText.readBy.letter_not_mem hwhole hc
    | decimals hwhole hdecimals _ _ =>
      exact List.not_mem_append (NumberText.readBy.letter_not_mem hwhole hc)
        (List.not_mem_cons_of_ne_of_not_mem (ne_point_of_isAlpha hc)
          (NumberText.readBy.letter_not_mem hdecimals hc))

section

variable {Number : Nat → List Char → Prop} {read : List Char → Option Nat} {unit : Char} {n : Nat}
  {text : List Char}

/-- Of the letters only its unit occurs in the text of a part. -/
theorem ReadBy.not_mem (r : ReadBy Number read) (h : PartText Number unit n text) {c : Char}
    (hc : c.isAlpha = true) (hne : c ≠ unit) : c ∉ text := by
  cases h with
  | zero => exact List.not_mem_nil
  | number hnumber _ =>
    exact List.not_mem_append (r.letter_not_mem hnumber hc)
      (List.not_mem_cons_of_ne_of_not_mem hne List.not_mem_nil)

/-- A part is read off the front if its unit does not occur in what follows. -/
theorem ReadBy.readPart?_append (r : ReadBy Number read) (h : PartText Number unit n text)
    (hunit : unit.isAlpha = true) {rest : List Char} (hrest : unit ∉ rest) :
    readPart? read unit (text ++ rest) = some (n, rest) := by
  cases h with
  | zero => rw [List.nil_append, readPart?, splitOnce_of_not_mem hrest]
  | number hnumber _ =>
    rw [List.append_assoc, List.singleton_append, readPart?,
      splitOnce_append (r.letter_not_mem hnumber hunit)]
    simp only [r.read_eq hnumber, Option.map_some]

theorem PartText.eq_nil_iff (h : PartText Number unit n text) : text = [] ↔ n = 0 := by
  cases h with
  | zero => exact iff_of_true rfl rfl
  | number _ hpos =>
    exact iff_of_false (List.append_ne_nil_of_right_ne_nil _ (List.cons_ne_nil _ _)) (by omega)

end

section

variable {p : Parts} {years months days hours minutes seconds clock : List Char}
  (hyears : PartText NumberText 'Y' p.years years)
  (hmonths : PartText NumberText 'M' p.months months)
  (hdays : PartText NumberText 'D' p.days days)
  (hhours : PartText NumberText 'H' p.hours hours)
  (hminutes : PartText NumberText 'M' p.minutes minutes)
  (hmillis : PartText ThousandthsText 'S' p.millis seconds)
include hyears hmonths hdays

theorem lead_not_mem_date : 'T' ∉ years ++ (months ++ days) :=
  List.not_mem_append (NumberText.readBy.not_mem hyears (by decide) (by decide)) <|
    List.not_mem_append (NumberText.readBy.not_mem hmonths (by decide) (by decide))
      (NumberText.readBy.not_mem hdays (by decide) (by decide))

include hhours hminutes hmillis

/-- The parts are read one by one, in the order of their units: a unit occurs in what is left only
if its part is there. Only the `M` has two meanings, one on each side of the `T`. -/
theorem readParts?_eq : readParts? (years ++ (months ++ days)) (hours ++ (minutes ++ seconds)) =
    some (p.totalMonths, p.totalMillis) := by
  have number := NumberText.readBy
  have thousandths := ThousandthsText.readBy
  have hY : readPart? readNat? 'Y' (years ++ (months ++ days)) = some (p.years, months ++ days) :=
    number.readPart?_append hyears (by decide) <| List.not_mem_append
      (number.not_mem hmonths (by decide) (by decide)) (number.not_mem hdays (by decide) (by decide))
  have hM : readPart? readNat? 'M' (months ++ days) = some (p.months, days) :=
    number.readPart?_append hmonths (by decide) (number.not_mem hdays (by decide) (by decide))
  have hD : readPart? readNat? 'D' (days ++ []) = some (p.days, []) :=
    number.readPart?_append hdays (by decide) List.not_mem_nil
  have hH : readPart? readNat? 'H' (hours ++ (minutes ++ seconds)) =
      some (p.hours, minutes ++ seconds) :=
    number.readPart?_append hhours (by decide) <| List.not_mem_append
      (number.not_mem hminutes (by decide) (by decide))
      (thousandths.not_mem hmillis (by decide) (by decide))
  have hMin : readPart? readNat? 'M' (minutes ++ seconds) = some (p.minutes, seconds) :=
    number.readPart?_append hminutes (by decide)
      (thousandths.not_mem hmillis (by decide) (by decide))
  have hS : readPart? readThousandths? 'S' (seconds ++ []) = some (p.millis, []) :=
    thousandths.readPart?_append hmillis (by decide) List.not_mem_nil
  rw [List.append_nil] at hD hS
  simp only [readParts?, hY, hM, hD, hH, hMin, hS, Option.bind_eq_bind, Option.bind_some,
    List.append_nil, if_true]
  rfl

end

theorem readCounts?_append {date time clock : List Char} (h : 'T' ∉ date)
    (hclock : ClockText time clock) (nonempty : date ++ clock ≠ []) :
    readCounts? (date ++ clock) = readParts? date time := by
  cases hclock with
  | nothing =>
    rw [List.append_nil] at nonempty ⊢
    rw [readCounts?, splitOnce_of_not_mem h]
    exact if_neg nonempty
  | time htime =>
    rw [readCounts?, splitOnce_append h]
    split
    · next heq => exact absurd (Prod.mk.inj (Option.some.inj heq)).2 htime
    · next heq =>
      obtain ⟨rfl, rfl⟩ := Prod.mk.inj (Option.some.inj heq)
      rfl
    · next heq => exact nomatch heq

/-- Whatever the grammar spells is read. -/
theorem Spells.readDuration?_eq {negative : Bool} {p : Parts} {cs : List Char}
    (h : Spells negative p cs) :
    readDuration? cs = some (signed negative p.totalMonths, signed negative p.totalMillis) := by
  cases h with
  | zero => rfl
  | parts hyears hmonths hdays hhours hminutes hmillis hclock nonempty =>
    have hcounts := readCounts?_append (lead_not_mem_date hyears hmonths hdays) hclock nonempty
    rw [readParts?_eq hyears hmonths hdays hhours hminutes hmillis] at hcounts
    cases negative
    all_goals
      show Option.map _ (readCounts? _) = _
      rw [hcounts]
      rfl

/-! ## What is written -/

theorem numberText_of_readNat? {n : Nat} {ds : List Char} (h : readNat? ds = some n) :
    NumberText n ds := by
  obtain ⟨digits, nonempty, rfl⟩ := readNat?_eq_some_iff.mp h
  exact .digits digits nonempty

theorem numberText_natText (n : Nat) : NumberText n (natText n) :=
  numberText_of_readNat? (readNat?_natText n)

theorem partText_durationPart (n : Nat) (unit : Char) :
    PartText NumberText unit n (durationPart n unit) := by
  rw [durationPart]
  split
  · next h => exact h ▸ .zero
  · next h => exact .number (numberText_natText n) (Nat.pos_of_ne_zero h)

theorem partText_secondsPart (millis : Nat) :
    PartText ThousandthsText 'S' millis (secondsPart millis) := by
  rw [secondsPart]
  split
  · next h =>
    rw [durationPart]
    split
    · next hzero =>
      have hmillis : millis = 0 := by omega
      exact hmillis ▸ .zero
    · next hpos =>
      have hwhole := ThousandthsText.whole (numberText_natText (millis / 1000))
      rw [show millis / 1000 * 1000 = millis by omega] at hwhole
      exact .number hwhole (by omega)
  · next h =>
    have hdecimals := ThousandthsText.decimals (numberText_natText (millis / 1000))
      (numberText_of_readNat? (readNat?_padded 3 (millis % 1000)))
      (length_padded (by decide) (by omega)) (by omega)
    rw [show millis / 1000 * 1000 + millis % 1000 = millis by omega] at hdecimals
    exact .number hdecimals (by omega)

theorem clockPart_eq_nil_iff {millis : Nat} : clockPart millis = [] ↔ millis = 0 := by
  rw [clockPart]
  split
  · next h => exact iff_of_true rfl h
  · next h => exact iff_of_false (List.cons_ne_nil _ _) h

theorem clockText_clockPart (millis : Nat) :
    ClockText (durationPart (millis / 3600000) 'H' ++
      (durationPart (millis % 3600000 / 60000) 'M' ++ secondsPart (millis % 60000)))
      (clockPart millis) := by
  have hhours := (partText_durationPart (millis / 3600000) 'H').eq_nil_iff
  have hminutes := (partText_durationPart (millis % 3600000 / 60000) 'M').eq_nil_iff
  have hseconds := (partText_secondsPart (millis % 60000)).eq_nil_iff
  rw [clockPart]
  split
  · next h =>
    subst h
    exact .nothing
  · next h =>
    rw [List.append_assoc]
    refine .time fun hnil => ?_
    rw [List.append_eq_nil_iff, List.append_eq_nil_iff, hhours, hminutes, hseconds] at hnil
    omega

/-- What is written is in the grammar, with the sign of the months or, if there are none, of the
milliseconds. -/
theorem spells_durationText (months millis : Int) :
    Spells (decide (months < 0 ∨ months = 0 ∧ millis < 0))
      (.ofTotals months.natAbs millis.natAbs) (durationText months millis) := by
  rw [durationText]
  split
  · next h =>
    obtain ⟨rfl, rfl⟩ := h
    exact .zero
  · next hzero =>
    generalize hm : months.natAbs = m
    generalize ht : millis.natAbs = t
    have hyears := partText_durationPart (m / 12) 'Y'
    have hmonths := partText_durationPart (m % 12) 'M'
    have hdays := partText_durationPart (t / 86400000) 'D'
    have hclock := clockText_clockPart (t % 86400000)
    have nonempty : durationPart (m / 12) 'Y' ++ (durationPart (m % 12) 'M' ++
        durationPart (t / 86400000) 'D') ++ clockPart (t % 86400000) ≠ [] := by
      intro hnil
      simp only [List.append_eq_nil_iff, hyears.eq_nil_iff, hmonths.eq_nil_iff,
        hdays.eq_nil_iff, clockPart_eq_nil_iff] at hnil
      omega
    have hspells : Spells (decide (months < 0 ∨ months = 0 ∧ millis < 0)) (.ofTotals m t) _ :=
      .parts hyears hmonths hdays (partText_durationPart _ 'H') (partText_durationPart _ 'M')
        (partText_secondsPart _) hclock nonempty
    simpa only [decide_eq_true_eq, List.append_assoc] using hspells

end Duration

open Duration

theorem readDuration?_durationText (months millis : Int) :
    readDuration? (durationText months millis) =
      some (signed (decide (months < 0 ∨ months = 0 ∧ millis < 0)) months.natAbs,
        signed (decide (months < 0 ∨ months = 0 ∧ millis < 0)) millis.natAbs) := by
  rw [(spells_durationText months millis).readDuration?_eq, Parts.totalMonths_ofTotals,
    Parts.totalMillis_ofTotals]

/-- One of the counts is negative and the other one positive. -/
def OppositeSigns (m n : Int) : Prop := m < 0 ∧ 0 < n ∨ 0 < m ∧ n < 0

/-- **The text of a duration is one of the grammar, and is read back** as the counts of months and
milliseconds that it was written for, unless their signs are opposite. The months are read back even
then, and the milliseconds with the sign of the months. -/
theorem durationText_readsBack (months millis : Int) :
    IsDuration (durationText months millis) ∧
    (readDuration? (durationText months millis) = some (months, millis) ↔
      ¬OppositeSigns months millis) ∧
    (OppositeSigns months millis → readDuration? (durationText months millis) =
      some (months.sign * months.natAbs, months.sign * millis.natAbs)) := by
  refine ⟨⟨_, _, spells_durationText months millis⟩, ?_, ?_⟩
  · rw [readDuration?_durationText, Option.some_inj, Prod.mk.injEq, OppositeSigns, signed, signed]
    simp only [decide_eq_true_eq]
    split <;> omega
  · intro opposite
    rw [readDuration?_durationText, Int.sign_mul_natAbs]
    obtain ⟨hm, ht⟩ | ⟨hm, ht⟩ := opposite
    · rw [Int.sign_eq_neg_one_of_neg hm, decide_eq_true (.inl hm)]
      exact congrArg some (Prod.ext (show -(months.natAbs : Int) = months by omega)
        (show -(millis.natAbs : Int) = -1 * millis.natAbs by omega))
    · rw [Int.sign_eq_one_of_pos hm, decide_eq_false (by omega)]
      exact congrArg some (Prod.ext (show (months.natAbs : Int) = months by omega)
        (show (millis.natAbs : Int) = 1 * millis.natAbs by omega))

/-- A month back and five milliseconds ahead are written as if both went back. -/
example : durationText (-1) 5 = ['-', 'P', '1', 'M', 'T', '0', '.', '0', '0', '5', 'S'] ∧
    readDuration? (durationText (-1) 5) = some (-1, -5) := by decide

end QueryClient
