import Mathlib.Algebra.Field.Rat
import Mathlib.Data.List.Induction
import Mathlib.Tactic.FieldSimp
import Mathlib.Tactic.IntervalCases
import Mathlib.Tactic.NormNum
import Mathlib.Tactic.Ring
import QueryClient.Proofs.Decimal.Acceptance

/-!
# Decimals are exact

A decimal that has been read denotes the rational number that the text spells (`toRat_decimal`), in
the one form that this number has with its scale (`Canonical`, `eq_iff_of_canonical`), and its own
text reads back as itself (`read_text`). Main statement: `read_exact`.
-/

namespace QueryClient.Decimal

open Text

/-! ## What is denoted -/

/-- The number that a run of digits writes. -/
def number (ds : List Char) : Nat := Nat.ofDigitChars 10 ds 0

/-- One, with a sign. -/
def unit (negative : Bool) : ℚ := if negative then -1 else 1

/-- The rational number that is written: the digits in front of the point count as they are, those
behind it in tenths, hundredths and so on, and the exponent shifts both. -/
def Parts.toRat (p : Parts) : ℚ :=
  unit p.negative * (number p.whole + number p.fraction / 10 ^ p.fraction.length) * 10 ^ p.exponent

/-- The rational number that a decimal denotes. -/
def toRat (d : Decimal) : ℚ := unit d.negative * number d.digits / 10 ^ d.scale

/-- At least one digit, and no zero too many in front. -/
structure Reduced (ds : List Char) : Prop where
  digits : Digits ds
  nonempty : ds ≠ []
  leading : ds.head? = some '0' → ds = ['0']

/-- The form of a decimal that has been read: zero has no sign. -/
structure Canonical (d : Decimal) : Prop where
  reduced : Reduced d.digits
  zero : d.toRat = 0 → d.negative = false

/-! ## Runs of digits -/

theorem number_append (front back : List Char) :
    number (front ++ back) = number front * 10 ^ back.length + number back := by
  rw [number, Nat.ofDigitChars_append, Nat.ofDigitChars_eq_ofDigitChars_zero, Nat.mul_comm]
  rfl

theorem number_replicate (n : Nat) : number (List.replicate n '0') = 0 := by
  rw [number, Nat.ofDigitChars_replicate_zero, Nat.mul_zero]

theorem number_zero_cons (ds : List Char) : number ('0' :: ds) = number ds := by
  show number (['0'] ++ ds) = number ds
  rw [number_append]
  show 0 * 10 ^ ds.length + number ds = number ds
  omega

/-- Zeros in front do not count. -/
theorem number_significant (ds : List Char) : number (significant ds) = number ds := by
  induction ds with
  | nil => rfl
  | cons c ds ih =>
    by_cases hc : c = '0'
    · subst hc
      rw [number_zero_cons, ← ih]
      rfl
    · have hdrop : (c :: ds).dropWhile (· == '0') = c :: ds :=
        List.dropWhile_cons_of_neg (by simpa using hc)
      rw [significant, hdrop]

theorem number_digitChar {n : Nat} (h : n < 10) : number [Nat.digitChar n] = n := by
  rw [number, Nat.ofDigitChars_cons_digitChar_of_lt_ten h, Nat.ofDigitChars_nil]
  omega

/-- Digits without a zero too many in front are those that their number is written with. -/
theorem Reduced.toDigits_number {ds : List Char} (h : Reduced ds) :
    Nat.toDigits 10 (number ds) = ds := by
  induction ds using List.reverseRecOn with
  | nil => exact absurd rfl h.nonempty
  | append_singleton front c ih =>
    obtain ⟨n, hn, rfl⟩ := digitChar_of_isDigit (h.digits c (by simp))
    cases front with
    | nil =>
      rw [List.nil_append, number_digitChar hn]
      exact Nat.toDigits_of_lt_base hn
    | cons d front =>
      -- Two digits or more: the first of them is no zero, and so the number in front is none.
      have hd : d ≠ '0' := by
        rintro rfl
        have hlength := congrArg List.length (h.leading rfl)
        simp at hlength
      have hfront : Nat.toDigits 10 (number (d :: front)) = d :: front := by
        apply ih
        refine ⟨fun c hc => h.digits c (List.mem_append_left _ hc), by simp, ?_⟩
        intro hhead
        exact absurd (Option.some.inj hhead) hd
      have hpos : 0 < number (d :: front) := by
        rw [Nat.pos_iff_ne_zero]
        intro hzero
        rw [hzero] at hfront
        exact hd (List.cons.inj hfront).1.symm
      have hnumber : number (d :: front ++ [Nat.digitChar n]) = 10 * number (d :: front) + n := by
        rw [number_append, number_digitChar hn, List.length_singleton]
        omega
      calc Nat.toDigits 10 (number (d :: front ++ [Nat.digitChar n]))
          = Nat.toDigits 10 (10 * number (d :: front) + n) := by rw [hnumber]
        _ = Nat.toDigits 10 (number (d :: front)) ++ Nat.toDigits 10 n :=
          (Nat.toDigits_append_toDigits (by decide) hpos hn).symm
        _ = d :: front ++ [Nat.digitChar n] := by
          rw [hfront, Nat.toDigits_of_lt_base hn]

theorem reduced_significant {ds : List Char} (h : Digits ds) : Reduced (significant ds) := by
  have hsuffix : ds.dropWhile (· == '0') <:+ ds := List.dropWhile_suffix _
  have hstop := List.head?_dropWhile_not (· == '0') ds
  unfold significant
  split
  · exact ⟨by simp [Digits, isDigit], by simp, fun _ => rfl⟩
  · next hne =>
    refine ⟨fun c hc => h c (hsuffix.subset hc), hne, ?_⟩
    intro hhead
    rw [hhead] at hstop
    exact absurd hstop (by decide)

/-- Nothing but the zeros in front is lost. -/
theorem Reduced.significant_append {ds : List Char} (h : Reduced ds) (n : Nat) :
    significant (List.replicate n '0' ++ ds) = ds := by
  have hdrop : (List.replicate n '0' ++ ds).dropWhile (· == '0') = ds.dropWhile (· == '0') :=
    List.dropWhile_append_of_pos fun c hc => by simp [List.eq_of_mem_replicate hc]
  rw [significant, hdrop]
  cases ds with
  | nil => exact absurd rfl h.nonempty
  | cons c ds =>
    by_cases hc : c = '0'
    · subst hc
      obtain ⟨-, rfl⟩ := List.cons.inj (h.leading rfl)
      rfl
    · rw [List.dropWhile_cons_of_neg (by simpa using hc)]

/-! ## The number that is read -/

/-- The zeros that are appended and the digits behind the point make up for the exponent. -/
theorem ten_pow_toNat (n : Int) : (10 : ℚ) ^ (-n).toNat / 10 ^ n.toNat = 10 ^ (-n) := by
  rcases Int.le_total 0 n with h | h
  · obtain ⟨k, rfl⟩ := Int.eq_ofNat_of_zero_le h
    have hzeros : (-(k : Int)).toNat = 0 := by omega
    rw [hzeros, Int.toNat_natCast, zpow_neg, zpow_natCast, pow_zero, one_div]
  · obtain ⟨k, hk⟩ := Int.eq_ofNat_of_zero_le (Int.neg_nonneg.mpr h)
    have hplaces : n.toNat = 0 := by omega
    rw [hk, hplaces, Int.toNat_natCast, zpow_natCast, pow_zero, div_one]

theorem Parts.number_digits (p : Parts) :
    number p.digits =
      (number p.whole * 10 ^ p.fraction.length + number p.fraction) * 10 ^ p.zeros := by
  rw [Parts.digits, number_significant, number_append, number_append, number_replicate,
    List.length_replicate, Nat.add_zero]

/-- The sign of zero does not count. -/
theorem Parts.unit_decimal (p : Parts) :
    unit p.decimal.negative * number p.digits = unit p.negative * number p.digits := by
  show unit (p.negative && p.digits != ['0']) * number p.digits = unit p.negative * number p.digits
  by_cases h : p.digits = ['0']
  · have hzero : number ['0'] = 0 := rfl
    rw [h, hzero, Nat.cast_zero, mul_zero, mul_zero]
  · have hne : (p.digits != ['0']) = true := by simpa using h
    rw [hne, Bool.and_true]

/-- What is read is what is written. -/
theorem toRat_decimal (p : Parts) : p.decimal.toRat = p.toRat := by
  have hten : (10 : ℚ) ≠ 0 := by norm_num
  have hshift : (10 : ℚ) ^ p.zeros / 10 ^ p.places.toNat = 10 ^ (-p.places) :=
    ten_pow_toNat p.places
  have hplaces : -p.places = p.exponent - p.fraction.length := by
    rw [Parts.places]
    omega
  calc p.decimal.toRat
      = unit p.decimal.negative * number p.digits / 10 ^ p.places.toNat := rfl
    _ = unit p.negative * (number p.whole * 10 ^ p.fraction.length + number p.fraction) *
          (10 ^ p.zeros / 10 ^ p.places.toNat) := by
      rw [p.unit_decimal, p.number_digits]
      push_cast
      ring
    _ = unit p.negative * (number p.whole * 10 ^ p.fraction.length + number p.fraction) *
          (10 ^ p.exponent / 10 ^ p.fraction.length) := by
      rw [hshift, hplaces, zpow_sub₀ hten, zpow_natCast]
    _ = p.toRat := by
      rw [Parts.toRat]
      field_simp

theorem toRat_eq_zero_iff (d : Decimal) : d.toRat = 0 ↔ number d.digits = 0 := by
  have hunit : unit d.negative ≠ 0 := by
    cases d.negative <;> norm_num [unit]
  rw [toRat, div_eq_zero_iff, mul_eq_zero, Nat.cast_eq_zero]
  simp [hunit]

/-- The digit of zero is the only reduced run of digits that writes it. -/
theorem Reduced.eq_of_number_eq_zero {ds : List Char} (h : Reduced ds) (hzero : number ds = 0) :
    ds = ['0'] := by
  rw [← h.toDigits_number, hzero]
  rfl

theorem canonical_decimal {p : Parts} (hwhole : Digits p.whole) (hfraction : Digits p.fraction) :
    p.decimal.Canonical := by
  have hdigits : Digits (p.whole ++ p.fraction ++ List.replicate p.zeros '0') := by
    rw [digits_append_iff, digits_append_iff]
    exact ⟨⟨hwhole, hfraction⟩, digits_replicate _⟩
  have hreduced : Reduced p.digits := reduced_significant hdigits
  refine ⟨hreduced, fun hzero => ?_⟩
  have hnumber : number p.digits = 0 := (toRat_eq_zero_iff p.decimal).mp hzero
  show (p.negative && p.digits != ['0']) = false
  rw [hreduced.eq_of_number_eq_zero hnumber, bne_self_eq_false, Bool.and_false]

/-! ## One form for each number and scale -/

theorem unit_mul_natCast_inj {negative negative' : Bool} {n n' : Nat}
    (h : unit negative * n = unit negative' * n') : n = n' ∧ (n ≠ 0 → negative = negative') := by
  -- Numbers with different signs are equal only if both are zero.
  have hmixed (k k' : Nat) (hk : -(k : ℚ) = k') : k = 0 ∧ k' = 0 := by
    have hsum : ((k + k' : Nat) : ℚ) = (0 : Nat) := by
      push_cast
      rw [← hk]
      ring
    have hsum' : k + k' = 0 := Nat.cast_injective hsum
    omega
  cases negative <;> cases negative' <;>
    simp only [unit, Bool.false_eq_true, if_true, if_false, one_mul, neg_one_mul] at h
  · exact ⟨Nat.cast_injective h, fun _ => rfl⟩
  · obtain ⟨rfl, rfl⟩ := hmixed n' n h.symm
    exact ⟨rfl, fun hne => absurd rfl hne⟩
  · obtain ⟨rfl, rfl⟩ := hmixed n n' h
    exact ⟨rfl, fun hne => absurd rfl hne⟩
  · exact ⟨Nat.cast_injective (neg_injective h), fun _ => rfl⟩

/-- The number and the scale determine the decimal. -/
theorem Canonical.eq_iff {d d' : Decimal} (h : d.Canonical) (h' : d'.Canonical) :
    d = d' ↔ d.toRat = d'.toRat ∧ d.scale = d'.scale := by
  constructor
  · rintro rfl
    exact ⟨rfl, rfl⟩
  · rintro ⟨hrat, hscale⟩
    have hpow : (10 : ℚ) ^ d'.scale ≠ 0 := pow_ne_zero _ (by norm_num)
    have hunits := hrat
    rw [toRat, toRat, hscale, div_left_inj' hpow] at hunits
    obtain ⟨hnumber, hsigns⟩ := unit_mul_natCast_inj hunits
    have hdigits : d.digits = d'.digits := by
      rw [← h.reduced.toDigits_number, ← h'.reduced.toDigits_number, hnumber]
    have hnegative : d.negative = d'.negative := by
      by_cases hzero : number d.digits = 0
      · have hd : d.toRat = 0 := (toRat_eq_zero_iff d).mpr hzero
        rw [h.zero hd, h'.zero (hrat ▸ hd)]
      · exact hsigns hzero
    cases d
    cases d'
    simp only [Decimal.mk.injEq]
    exact ⟨hnegative, hdigits, hscale⟩

/-! ## The text of a decimal -/

theorem isBlank_of_isDigit {c : Char} (h : isDigit c = true) : isBlank c = false := by
  obtain ⟨n, hn, rfl⟩ := digitChar_of_isDigit h
  interval_cases n <;> rfl

theorem trim_of_forall {cs : List Char} (h : ∀ c ∈ cs, isBlank c = false) : trim cs = cs := by
  have hdrop {ds : List Char} (hds : ∀ c ∈ ds, isBlank c = false) : ds.dropWhile isBlank = ds := by
    cases ds with
    | nil => rfl
    | cons c ds => exact List.dropWhile_cons_of_neg (by simp [hds c List.mem_cons_self])
  rw [trim, trimStart, hdrop h, trimEnd, hdrop fun c hc => h c (List.mem_reverse.mp hc),
    List.reverse_reverse]

/-- The text behind the sign is a mantissa with as many digits behind the point as the scale says. -/
theorem mantissaText_pointed {ds : List Char} (h : Reduced ds) (scale : Nat) :
    ∃ whole fraction, MantissaText whole fraction (pointed scale ds) ∧ fraction.length = scale ∧
      significant (whole ++ fraction) = ds := by
  unfold pointed
  split
  · next hscale =>
    refine ⟨ds, [], .bare h.digits h.nonempty, hscale.symm, ?_⟩
    rw [List.append_nil]
    exact h.significant_append 0
  · next hscale =>
    generalize hpad : List.replicate (scale + 1 - ds.length) '0' ++ ds = padded
    have hlength : scale < padded.length := by
      rw [← hpad, List.length_append, List.length_replicate]
      omega
    have hjoin : padded.take (padded.length - scale) ++ padded.drop (padded.length - scale) =
        padded := List.take_append_drop _ _
    have hdigits : Digits (padded.take (padded.length - scale) ++
        padded.drop (padded.length - scale)) := by
      rw [hjoin, ← hpad, digits_append_iff]
      exact ⟨digits_replicate _, h.digits⟩
    obtain ⟨hwhole, hfraction⟩ := digits_append_iff.mp hdigits
    refine ⟨_, _, .pointed hwhole hfraction ?_, ?_, ?_⟩
    · rw [hjoin]
      exact List.ne_nil_of_length_pos (by omega)
    · rw [List.length_drop]
      omega
    · rw [hjoin, ← hpad]
      exact h.significant_append _

theorem written_text {d : Decimal} {whole fraction : List Char}
    (h : MantissaText whole fraction (pointed d.scale d.digits)) :
    Written d.text ⟨d.negative, whole, fraction, 0⟩ := by
  have hsolid : ∀ c ∈ d.text, isBlank c = false := by
    intro c hc
    rw [text, List.mem_append] at hc
    rcases hc with hc | hc
    · split at hc
      · rw [List.mem_singleton.mp hc]
        rfl
      · exact absurd hc List.not_mem_nil
    · rcases h.isDigit_or_point c hc with hd | rfl
      · exact isBlank_of_isDigit hd
      · rfl
  refine .of ?_ h .none
  rw [List.append_nil, trim_of_forall hsolid, text]
  cases d.negative with
  | false => exact .none _
  | true => exact .minus _

/-- A decimal is read back from its text. -/
theorem Canonical.read_text {d : Decimal} (h : d.Canonical) (hscale : d.scale < 4294967296) :
    read d.text = .ok d := by
  obtain ⟨whole, fraction, hm, hlength, hsignificant⟩ := mantissaText_pointed h.reduced d.scale
  have hplaces : (⟨d.negative, whole, fraction, 0⟩ : Parts).places = d.scale := by
    show (fraction.length : Int) - 0 = d.scale
    rw [hlength, Int.sub_zero]
  have hzeros : (⟨d.negative, whole, fraction, 0⟩ : Parts).zeros = 0 := by
    rw [Parts.zeros, hplaces]
    omega
  have hdigits : (⟨d.negative, whole, fraction, 0⟩ : Parts).digits = d.digits := by
    rw [Parts.digits, hzeros]
    show significant (whole ++ fraction ++ []) = d.digits
    rw [List.append_nil, hsignificant]
  have hnegative : (d.negative && d.digits != ['0']) = d.negative := by
    by_cases hzero : d.digits = ['0']
    · have hrat : d.toRat = 0 := (toRat_eq_zero_iff d).mpr (by rw [hzero]; rfl)
      rw [h.zero hrat, Bool.false_and]
    · have hne : (d.digits != ['0']) = true := by simpa using hzero
      rw [hne, Bool.and_true]
  refine read_eq_ok_iff.mpr ⟨_, written_text hm, ⟨Nat.zero_le _, by omega⟩, ?_⟩
  rw [Parts.decimal, hplaces, hdigits, Int.toNat_natCast, hnegative]

/-! ## What has been read -/

theorem canonical_of_read {cs : List Char} {d : Decimal} (h : read cs = .ok d) : d.Canonical := by
  obtain ⟨p, hwritten, -, rfl⟩ := read_eq_ok_iff.mp h
  obtain ⟨mantissa, power, -, hm, -⟩ := hwritten.pieces
  exact canonical_decimal hm.digits.1 hm.digits.2.1

theorem scale_lt_of_read {cs : List Char} {d : Decimal} (h : read cs = .ok d) :
    d.scale < 4294967296 := by
  obtain ⟨p, -, fits, rfl⟩ := read_eq_ok_iff.mp h
  have hscale := fits.scale
  show p.places.toNat < 4294967296
  omega

/-- **Reading is exact.** A text that is read is written in one way. Its decimal denotes the number
that is written, with as many digits behind the point as the exponent leaves there, without a zero
too many in front and without a sign at zero. It is read back from its own text, and it is the same
as that of another text if and only if both denote the same number with the same scale. -/
theorem read_exact {cs : List Char} {d : Decimal} (h : read cs = .ok d) :
    (∃! p, Written cs p) ∧
    (∀ p, Written cs p →
      d.toRat = p.toRat ∧ (d.scale : Int) = max 0 (p.fraction.length - p.exponent)) ∧
    d.Canonical ∧ read d.text = .ok d ∧
    ∀ cs' d', read cs' = .ok d' → (d = d' ↔ d.toRat = d'.toRat ∧ d.scale = d'.scale) := by
  have hcanonical := canonical_of_read h
  obtain ⟨p, hwritten, -, hp⟩ := read_eq_ok_iff.mp h
  refine ⟨⟨p, hwritten, fun q hq => hq.unique hwritten⟩, ?_, hcanonical,
    hcanonical.read_text (scale_lt_of_read h), ?_⟩
  · intro q hq
    rw [hq.unique hwritten, ← hp]
    refine ⟨toRat_decimal p, ?_⟩
    show (p.places.toNat : Int) = max 0 p.places
    omega
  · intro cs' d' h'
    exact hcanonical.eq_iff (canonical_of_read h')

/-! ### A shifted point -/

/-- Zeros in front are dropped and the point moves by one place. -/
theorem shifted_exact :
    read "-0012.50e1".toList = .ok ⟨true, "1250".toList, 1⟩ ∧
    (⟨true, "1250".toList, 1⟩ : Decimal).toRat =
      (⟨true, "0012".toList, "50".toList, 1⟩ : Parts).toRat ∧
    read "-125.0".toList = .ok ⟨true, "1250".toList, 1⟩ := by
  have h : read "-0012.50e1".toList = .ok ⟨true, "1250".toList, 1⟩ := rfl
  have hparts : parts "-0012.50e1".toList = .ok ⟨true, "0012".toList, "50".toList, 1⟩ := by decide
  obtain ⟨-, hrat, -, htext, -⟩ := read_exact h
  exact ⟨h, (hrat _ (parts_eq_ok_iff.mp hparts).1).1, htext⟩

end QueryClient.Decimal
