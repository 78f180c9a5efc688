import QueryClient.Decimal
import QueryClient.Proofs.Text.Digits

/-!
# The spelling of a decimal

`Decimal.Written` says which texts spell a decimal, and what of: an optional sign, digits with at
most one point among or beside them, and an optional exponent. It is apart from any reader. Main
statements: `parts_eq_ok_iff` for the texts that the reader takes apart, and
`parts_eq_overflow_iff` for those that stop it.
-/

namespace QueryClient

namespace Text

/-! ## Integers -/

/-- The text is the other one behind an optional sign; true stands for minus. -/
inductive SignedText : Bool → List Char → List Char → Prop
  | none (cs) : SignedText false cs cs
  | plus (cs) : SignedText false cs ('+' :: cs)
  | minus (cs) : SignedText true cs ('-' :: cs)

/-- The integer with this sign and magnitude. -/
def signed (negative : Bool) (n : Nat) : Int := if negative then -(n : Int) else n

/-- The text spells an integer: at least one digit behind an optional sign. -/
inductive IntegerText : Int → List Char → Prop
  | digits {negative ds cs} : SignedText negative ds cs → Digits ds → ds ≠ [] →
      IntegerText (signed negative (Nat.ofDigitChars 10 ds 0)) cs

end Text

namespace Decimal

open Text

/-! ## Decimals -/

/-- Digits with at most one point among or beside them, at least one digit in all. -/
inductive MantissaText : List Char → List Char → List Char → Prop
  | bare {whole} : Digits whole → whole ≠ [] → MantissaText whole [] whole
  | pointed {whole fraction} : Digits whole → Digits fraction → whole ++ fraction ≠ [] →
      MantissaText whole fraction (whole ++ '.' :: fraction)

/-- The exponent, if there is one: an `e` of either case and an integer. Without one it is zero. -/
inductive ExponentText : Int → List Char → Prop
  | none : ExponentText 0 []
  | integer {mark n cs} : isMark mark = true → IntegerText n cs → ExponentText n (mark :: cs)

/-- The text, without the blanks around it, spells a decimal that consists of these parts. -/
inductive Written (cs : List Char) : Parts → Prop
  | of {negative whole fraction exponent mantissa power} :
      SignedText negative (mantissa ++ power) (trim cs) → MantissaText whole fraction mantissa →
      ExponentText exponent power → Written cs ⟨negative, whole, fraction, exponent⟩

/-- No exponent mark stands in the text. -/
def Unmarked (cs : List Char) : Prop := ∀ c ∈ cs, isMark c = false

/-- Behind the first exponent mark of the text stands the least 64-bit integer, whatever comes in
front of it. -/
inductive LeastExponent (cs : List Char) : Prop
  | of {front mark power} : trim cs = front ++ mark :: power → Unmarked front →
      isMark mark = true → IntegerText (-9223372036854775808) power → LeastExponent cs

/-! ## Signs -/

/-- The text does not start with a sign. -/
def Unsigned (cs : List Char) : Prop := ∀ {c rest}, cs = c :: rest → c ≠ '-' ∧ c ≠ '+'

theorem signedText_splitSign (cs : List Char) :
    SignedText (splitSign cs).1 (splitSign cs).2 cs := by
  unfold splitSign
  split
  · exact .minus _
  · exact .plus _
  · exact .none _

theorem splitSign_of_unsigned {cs : List Char} (h : Unsigned cs) : splitSign cs = (false, cs) := by
  unfold splitSign
  split
  · exact absurd rfl (h rfl).1
  · exact absurd rfl (h rfl).2
  · rfl

theorem splitSign_of_signedText {negative : Bool} {rest cs : List Char}
    (signs : SignedText negative rest cs) (h : Unsigned rest) : splitSign cs = (negative, rest) := by
  cases signs with
  | none => exact splitSign_of_unsigned h
  | plus => rfl
  | minus => rfl

theorem unsigned_of_isDigit {c : Char} {rest : List Char} (h : isDigit c = true) :
    Unsigned (c :: rest) := by
  intro c' rest' heq
  obtain ⟨rfl, -⟩ := List.cons.inj heq
  constructor <;> rintro rfl <;> exact absurd h (by decide)

theorem unsigned_of_digits {cs : List Char} (h : Digits cs) : Unsigned cs := by
  cases cs with
  | nil =>
    intro c rest heq
    cases heq
  | cons c rest => exact unsigned_of_isDigit (h c List.mem_cons_self)

/-! ## Integers read -/

theorem readInt?_eq (cs : List Char) :
    readInt? cs = (readNat? (splitSign cs).2).map (signed (splitSign cs).1) := by
  unfold readInt?
  split
  · rfl
  · rfl
  · next hminus hplus =>
    have h : Unsigned cs := fun heq =>
      ⟨fun hc => hminus _ (hc ▸ heq), fun hc => hplus _ (hc ▸ heq)⟩
    rw [splitSign_of_unsigned h]
    rfl

theorem readInt?_eq_some_iff {cs : List Char} {n : Int} :
    readInt? cs = some n ↔ IntegerText n cs := by
  rw [readInt?_eq]
  constructor
  · intro h
    obtain ⟨m, hm, rfl⟩ := Option.map_eq_some_iff.mp h
    obtain ⟨digits, nonempty, rfl⟩ := readNat?_eq_some_iff.mp hm
    exact .digits (signedText_splitSign cs) digits nonempty
  · rintro ⟨signs, digits, nonempty⟩
    rw [splitSign_of_signedText signs (unsigned_of_digits digits),
      readNat?_eq_some_iff.mpr ⟨digits, nonempty, rfl⟩]
    rfl

theorem readWithin?_eq_some_iff {low high n : Int} {cs : List Char} :
    readWithin? low high cs = some n ↔ IntegerText n cs ∧ low ≤ n ∧ n < high := by
  rw [readWithin?, Option.filter_eq_some_iff, readInt?_eq_some_iff, Bool.and_eq_true,
    decide_eq_true_eq, decide_eq_true_eq]

/-- A text spells one integer at most. -/
theorem integerText_unique {n m : Int} {cs : List Char} (hn : IntegerText n cs)
    (hm : IntegerText m cs) : n = m :=
  Option.some.inj ((readInt?_eq_some_iff.mpr hn).symm.trans (readInt?_eq_some_iff.mpr hm))

/-! ## Mantissas read -/

theorem point_not_mem {cs : List Char} (h : Digits cs) : '.' ∉ cs := h.not_mem rfl

theorem all_isDigit_iff {whole fraction : List Char} :
    (whole ++ fraction).all isDigit = true ↔ Digits whole ∧ Digits fraction :=
  List.all_eq_true.trans digits_append_iff

/-- The test of the characters around the point. -/
theorem splitMantissa?_of_splitOnce {cs whole fraction : List Char}
    (h : (splitOnce '.' cs).getD (cs, []) = (whole, fraction)) {ds : List Char × List Char} :
    splitMantissa? cs = some ds ↔
      ds = (whole, fraction) ∧ Digits whole ∧ Digits fraction ∧ whole ++ fraction ≠ [] := by
  have hempty : (whole.isEmpty && fraction.isEmpty) = true ↔ whole ++ fraction = [] := by
    rw [Bool.and_eq_true, List.isEmpty_iff, List.isEmpty_iff, List.append_eq_nil_iff]
  simp only [splitMantissa?, h]
  split
  · next hnil =>
    simp only [reduceCtorEq, false_iff]
    rintro ⟨-, -, -, nonempty⟩
    exact nonempty (hempty.mp hnil)
  · next hnil =>
    split
    · next hall =>
      simp only [reduceCtorEq, false_iff]
      rintro ⟨-, hw, hf, -⟩
      rw [all_isDigit_iff.mpr ⟨hw, hf⟩] at hall
      exact absurd hall (by decide)
    · next hall =>
      rw [Bool.not_eq_true', Bool.not_eq_false] at hall
      have digits := all_isDigit_iff.mp hall
      rw [Option.some_inj, eq_comm]
      exact ⟨fun hds => ⟨hds, digits.1, digits.2, fun hn => hnil (hempty.mpr hn)⟩, fun hds => hds.1⟩

theorem splitMantissa?_eq_some_iff {cs whole fraction : List Char} :
    splitMantissa? cs = some (whole, fraction) ↔ MantissaText whole fraction cs := by
  constructor
  · intro h
    by_cases hpoint : '.' ∈ cs
    · obtain ⟨front, back, rfl, hfront⟩ := List.eq_append_cons_of_mem hpoint
      obtain ⟨hds, hw, hf, nonempty⟩ :=
        (splitMantissa?_of_splitOnce (by rw [splitOnce_append hfront, Option.getD_some])).mp h
      obtain ⟨rfl, rfl⟩ := Prod.mk.inj hds
      exact .pointed hw hf nonempty
    · obtain ⟨hds, hw, -, nonempty⟩ :=
        (splitMantissa?_of_splitOnce (by rw [splitOnce_of_not_mem hpoint, Option.getD_none])).mp h
      obtain ⟨rfl, rfl⟩ := Prod.mk.inj hds
      exact .bare hw (by simpa using nonempty)
  · intro h
    cases h with
    | bare hw nonempty =>
      have hsplit : (splitOnce '.' cs).getD (cs, []) = (cs, []) := by
        rw [splitOnce_of_not_mem (point_not_mem hw), Option.getD_none]
      exact (splitMantissa?_of_splitOnce hsplit).mpr
        ⟨rfl, hw, digits_nil, by simpa using nonempty⟩
    | pointed hw hf nonempty =>
      have hsplit : (splitOnce '.' (whole ++ '.' :: fraction)).getD (whole ++ '.' :: fraction, [])
          = (whole, fraction) := by
        rw [splitOnce_append (point_not_mem hw), Option.getD_some]
      exact (splitMantissa?_of_splitOnce hsplit).mpr ⟨rfl, hw, hf, nonempty⟩

theorem MantissaText.digits {whole fraction cs : List Char} (h : MantissaText whole fraction cs) :
    Digits whole ∧ Digits fraction ∧ whole ++ fraction ≠ [] := by
  cases h with
  | bare hw nonempty => exact ⟨hw, digits_nil, by simpa using nonempty⟩
  | pointed hw hf nonempty => exact ⟨hw, hf, nonempty⟩

/-- A mantissa is made of digits and points. -/
theorem MantissaText.isDigit_or_point {whole fraction cs : List Char}
    (h : MantissaText whole fraction cs) : ∀ c ∈ cs, isDigit c = true ∨ c = '.' := by
  intro c hc
  cases h with
  | bare hw => exact .inl (hw c hc)
  | pointed hw hf =>
    rw [List.mem_append, List.mem_cons] at hc
    rcases hc with hc | rfl | hc
    · exact .inl (hw c hc)
    · exact .inr rfl
    · exact .inl (hf c hc)

theorem MantissaText.ne_nil {whole fraction cs : List Char} (h : MantissaText whole fraction cs) :
    cs ≠ [] := by
  cases h with
  | bare hw nonempty => exact nonempty
  | pointed => simp

theorem isMark_of_isDigit {c : Char} (h : isDigit c = true) : isMark c = false := by
  rw [isMark, Bool.or_eq_false_iff, beq_eq_false_iff_ne, beq_eq_false_iff_ne]
  constructor <;> rintro rfl <;> exact absurd h (by decide)

theorem MantissaText.unmarked {whole fraction cs : List Char}
    (h : MantissaText whole fraction cs) : Unmarked cs := by
  intro c hc
  rcases h.isDigit_or_point c hc with hd | rfl
  · exact isMark_of_isDigit hd
  · decide

theorem MantissaText.unsigned {whole fraction cs : List Char} (h : MantissaText whole fraction cs)
    (power : List Char) : Unsigned (cs ++ power) := by
  cases cs with
  | nil => exact absurd rfl h.ne_nil
  | cons c cs =>
    rcases h.isDigit_or_point c List.mem_cons_self with hd | rfl
    · exact unsigned_of_isDigit hd
    · intro c' rest heq
      obtain ⟨rfl, -⟩ := List.cons.inj heq
      decide

/-! ## Exponents read -/

theorem splitExponent?_of_unmarked {cs : List Char} (h : Unmarked cs) :
    splitExponent? cs = some (cs, 0) := by
  have hnil : cs.dropWhile (fun c => !isMark c) = [] := by
    rw [← List.append_nil cs, List.dropWhile_append_of_pos fun c hc => by simp [h c hc]]
    rfl
  rw [splitExponent?, hnil]

theorem splitExponent?_append {front power : List Char} {mark : Char} (h : Unmarked front)
    (hmark : isMark mark = true) :
    splitExponent? (front ++ mark :: power) =
      (readWithin? (-9223372036854775808) 9223372036854775808 power).map (front, ·) := by
  have hfront : ∀ c ∈ front, (!isMark c) = true := fun c hc => by simp [h c hc]
  have hstop : ¬(!isMark mark) = true := by simp [hmark]
  rw [splitExponent?, List.dropWhile_append_of_pos hfront, List.takeWhile_append_of_pos hfront,
    List.dropWhile_cons_of_neg (p := fun c => !isMark c) hstop,
    List.takeWhile_cons_of_neg (p := fun c => !isMark c) hstop, List.append_nil]

theorem unmarked_or_append (cs : List Char) :
    Unmarked cs ∨ ∃ front mark power, cs = front ++ mark :: power ∧ Unmarked front ∧
      isMark mark = true := by
  cases h : cs.find? isMark with
  | none =>
    refine .inl fun c hc => ?_
    simpa using List.find?_eq_none.mp h c hc
  | some mark =>
    obtain ⟨hmark, front, power, rfl, hfront⟩ := List.find?_eq_some_iff_append.mp h
    exact .inr ⟨front, mark, power, rfl, fun c hc => by simpa using hfront c hc, hmark⟩

/-- What is in front of the exponent mark is not looked at. -/
theorem splitExponent?_eq_some_iff {cs front : List Char} {e : Int} :
    splitExponent? cs = some (front, e) ↔
      (∃ power, cs = front ++ power ∧ Unmarked front ∧ ExponentText e power) ∧
      -9223372036854775808 ≤ e ∧ e < 9223372036854775808 := by
  constructor
  · intro h
    rcases unmarked_or_append cs with hcs | ⟨front', mark, power, rfl, hfront, hmark⟩
    · rw [splitExponent?_of_unmarked hcs, Option.some_inj] at h
      obtain ⟨rfl, rfl⟩ := Prod.mk.inj h
      exact ⟨⟨[], (List.append_nil cs).symm, hcs, .none⟩, by decide, by decide⟩
    · rw [splitExponent?_append hfront hmark] at h
      obtain ⟨n, hn, heq⟩ := Option.map_eq_some_iff.mp h
      obtain ⟨rfl, rfl⟩ := Prod.mk.inj heq
      obtain ⟨hpower, hrange⟩ := readWithin?_eq_some_iff.mp hn
      exact ⟨⟨mark :: power, rfl, hfront, .integer hmark hpower⟩, hrange⟩
  · rintro ⟨⟨power, rfl, hfront, hpower⟩, hrange⟩
    cases hpower with
    | none => rw [List.append_nil, splitExponent?_of_unmarked hfront]
    | integer hmark hn =>
      rw [splitExponent?_append hfront hmark, readWithin?_eq_some_iff.mpr ⟨hn, hrange⟩,
        Option.map_some]

/-! ## Decimals read -/

/-- The magnitude of a 64-bit integer, of which only the least one has none. -/
theorem narrow_natAbs {e : Int} (hlow : -9223372036854775808 ≤ e)
    (hhigh : e < 9223372036854775808) :
    narrow e.natAbs =
      if e = -9223372036854775808 then .error .overflow else .ok (e.natAbs : Int) := by
  unfold narrow
  split
  · next h => rw [if_neg (by omega)]
  · next h => rw [if_pos (by omega)]

/-- The exponent decides before the mantissa is looked at. -/
theorem parts_of_splitExponent? {cs mantissa : List Char} {e : Int}
    (h : splitExponent? (splitSign (trim cs)).2 = some (mantissa, e)) :
    parts cs =
      if e = -9223372036854775808 then .error .overflow
      else if maxExponent < e.natAbs then .error .malformed
      else
        match splitMantissa? mantissa with
        | none => .error .malformed
        | some (whole, fraction) => .ok ⟨(splitSign (trim cs)).1, whole, fraction, e⟩ := by
  obtain ⟨-, hlow, hhigh⟩ := splitExponent?_eq_some_iff.mp h
  rw [parts]
  dsimp only
  rw [h]
  dsimp only
  rw [narrow_natAbs hlow hhigh]
  split <;> rfl

theorem parts_of_splitExponent?_eq_none {cs : List Char}
    (h : splitExponent? (splitSign (trim cs)).2 = none) : parts cs = .error .malformed := by
  rw [parts]
  dsimp only
  rw [h]

/-- The pieces that a text is cut into before they are looked at. -/
theorem Written.pieces {cs : List Char} {p : Parts} (h : Written cs p) :
    ∃ mantissa power, splitSign (trim cs) = (p.negative, mantissa ++ power) ∧
      MantissaText p.whole p.fraction mantissa ∧ ExponentText p.exponent power := by
  obtain ⟨signs, hm, hp⟩ := h
  exact ⟨_, _, splitSign_of_signedText signs (hm.unsigned _), hm, hp⟩

/-- The texts that are taken apart are the spellings of decimals with an exponent that is not too
great, and each is taken apart as it is written. -/
theorem parts_eq_ok_iff {cs : List Char} {p : Parts} :
    parts cs = .ok p ↔ Written cs p ∧ p.exponent.natAbs ≤ 10000 := by
  have hmax : maxExponent = 10000 := rfl
  constructor
  · -- One branch of the reader gives parts, and what it has passed on the way is the spelling.
    intro h
    cases hsplit : splitExponent? (splitSign (trim cs)).2 with
    | none =>
      rw [parts_of_splitExponent?_eq_none hsplit] at h
      cases h
    | some piece =>
      obtain ⟨mantissa, e⟩ := piece
      obtain ⟨⟨power, hcut, -, hpower⟩, -⟩ := splitExponent?_eq_some_iff.mp hsplit
      rw [parts_of_splitExponent? hsplit] at h
      split at h
      · cases h
      · split at h
        · cases h
        · next hbound =>
          split at h
          · cases h
          · next hds =>
            obtain rfl := Except.ok.inj h
            refine ⟨.of ?_ (splitMantissa?_eq_some_iff.mp hds) hpower, ?_⟩
            · exact hcut ▸ signedText_splitSign (trim cs)
            · show e.natAbs ≤ 10000
              omega
  · rintro ⟨hwritten, hbound⟩
    obtain ⟨mantissa, power, hsign, hm, hp⟩ := hwritten.pieces
    have hsplit : splitExponent? (splitSign (trim cs)).2 = some (mantissa, p.exponent) := by
      rw [hsign]
      exact splitExponent?_eq_some_iff.mpr
        ⟨⟨power, rfl, hm.unmarked, hp⟩, by omega, by omega⟩
    rw [parts_of_splitExponent? hsplit, if_neg (by omega), if_neg (by omega),
      splitMantissa?_eq_some_iff.mpr hm, hsign]

theorem exists_front_of_signedText {negative : Bool} {rest cs : List Char}
    (h : SignedText negative rest cs) : ∃ front, cs = front ++ rest ∧ Unmarked front := by
  cases h with
  | none => exact ⟨[], rfl, fun c hc => absurd hc List.not_mem_nil⟩
  | plus => exact ⟨['+'], rfl, by simp [Unmarked, isMark]⟩
  | minus => exact ⟨['-'], rfl, by simp [Unmarked, isMark]⟩

/-- A sign is cut off in front of the first exponent mark. -/
theorem signedText_of_append {negative : Bool} {rest front power : List Char} {mark : Char}
    (h : SignedText negative rest (front ++ mark :: power)) (hmark : isMark mark = true) :
    ∃ back, rest = back ++ mark :: power ∧ ∀ c ∈ back, c ∈ front := by
  obtain ⟨sign, hcut, hsign⟩ := exists_front_of_signedText h
  rcases List.append_eq_append_iff.mp hcut with ⟨back, rfl, hrest⟩ | ⟨back, rfl, hrest⟩
  · cases back with
    | nil => exact ⟨[], hrest.symm, fun c hc => absurd hc List.not_mem_nil⟩
    | cons c back =>
      -- The mark would be in the sign.
      obtain ⟨rfl, -⟩ := List.cons.inj hrest
      have hc := hsign mark (List.mem_append_right front List.mem_cons_self)
      rw [hmark] at hc
      cases hc
  · exact ⟨back, hrest, fun c hc => List.mem_append_right sign hc⟩

/-- The least exponent stops the reader, whatever it stands behind. -/
theorem parts_eq_overflow_iff {cs : List Char} :
    parts cs = .error .overflow ↔ LeastExponent cs := by
  constructor
  · intro h
    cases hsplit : splitExponent? (splitSign (trim cs)).2 with
    | none =>
      rw [parts_of_splitExponent?_eq_none hsplit] at h
      cases h
    | some piece =>
      obtain ⟨mantissa, e⟩ := piece
      obtain ⟨⟨power, hcut, hunmarked, hpower⟩, -⟩ := splitExponent?_eq_some_iff.mp hsplit
      rw [parts_of_splitExponent? hsplit] at h
      split at h
      · next he =>
        obtain ⟨sign, hsign, hfront⟩ :=
          exists_front_of_signedText (signedText_splitSign (trim cs))
        rw [hcut] at hsign
        subst he
        cases hpower with
        | integer hmark hn =>
          refine .of (hsign.trans (List.append_assoc sign _ _).symm) ?_ hmark hn
          intro c hc
          rcases List.mem_append.mp hc with hc | hc
          · exact hfront c hc
          · exact hunmarked c hc
      · exfalso
        split at h
        · cases h
        · split at h <;> cases h
  · -- The sign may be among what stands in front of the mark, and nothing else is cut off.
    rintro ⟨hcut, hfront, hmark, hpower⟩
    have signs := signedText_splitSign (trim cs)
    rw [hcut] at signs
    obtain ⟨back, hrest, hback⟩ := signedText_of_append signs hmark
    have hsplit : splitExponent? (splitSign (trim cs)).2 = some (back, -9223372036854775808) := by
      rw [hcut, hrest]
      refine splitExponent?_eq_some_iff.mpr ⟨⟨_, rfl, ?_, .integer hmark hpower⟩, by decide⟩
      exact fun c hc => hfront c (hback c hc)
    rw [parts_of_splitExponent? hsplit, if_pos rfl]

/-- The first exponent mark ends what is in front of it. -/
theorem takeWhile_unmarked {front power : List Char} {e : Int} (h : Unmarked front)
    (hpower : ExponentText e power) : (front ++ power).takeWhile (fun c => !isMark c) = front := by
  rw [List.takeWhile_append_of_pos fun c hc => by simp [h c hc]]
  cases hpower with
  | none => exact List.append_nil front
  | integer hmark =>
    rw [List.takeWhile_cons_of_neg (by simp [hmark]), List.append_nil]

theorem ExponentText.unique {e f : Int} {power : List Char} (he : ExponentText e power)
    (hf : ExponentText f power) : e = f := by
  cases he with
  | none => cases hf; rfl
  | integer _ hn =>
    cases hf with
    | integer _ hm => exact integerText_unique hn hm

theorem MantissaText.unique {whole fraction whole' fraction' cs : List Char}
    (h : MantissaText whole fraction cs) (h' : MantissaText whole' fraction' cs) :
    whole = whole' ∧ fraction = fraction' := by
  rw [← splitMantissa?_eq_some_iff] at h h'
  exact Prod.mk.inj (Option.some.inj (h.symm.trans h'))

/-- A text is the spelling of one decimal at most, and in one way. -/
theorem Written.unique {cs : List Char} {p q : Parts} (hp : Written cs p) (hq : Written cs q) :
    p = q := by
  obtain ⟨mantissa, power, hsign, hm, he⟩ := hp.pieces
  obtain ⟨mantissa', power', hsign', hm', he'⟩ := hq.pieces
  obtain ⟨hnegative, hcut⟩ := Prod.mk.inj (hsign.symm.trans hsign')
  have hmantissa : mantissa = mantissa' := by
    rw [← takeWhile_unmarked hm.unmarked he, hcut, takeWhile_unmarked hm'.unmarked he']
  subst hmantissa
  obtain rfl := List.append_cancel_left hcut
  obtain ⟨hwhole, hfraction⟩ := hm.unique hm'
  cases p
  cases q
  simp only [Parts.mk.injEq]
  exact ⟨hnegative, hwhole, hfraction, he.unique he'⟩

end Decimal

end QueryClient
