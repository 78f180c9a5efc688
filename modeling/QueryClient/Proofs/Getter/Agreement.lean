import Mathlib.Data.Int.ModEq
import QueryClient.Getter.Target
import QueryClient.Proofs.Decimal.Exactness
import QueryClient.Proofs.Uuid

/-!
# Integers and their texts are read alike

An integer value is converted by the machine, and its canonical text is trimmed and then read by
readers of its own: one for integers, one for decimals, and a comparison for truth values. All of
them come to the same (`ReadsAs`, `readsAs_of_wholeNumber`, `readsAs_of_text`). Main statement:
`whole_reads_alike`.
-/

namespace QueryClient

namespace Text

/-! ## Blanks around a text -/

/-- Nothing but blanks. -/
def Blanks (cs : List Char) : Prop := ∀ c ∈ cs, isBlank c = true

/-- No blanks at all. -/
def Solid (cs : List Char) : Prop := ∀ c ∈ cs, isBlank c = false

theorem dropWhile_of_solid {cs : List Char} (h : Solid cs) : cs.dropWhile isBlank = cs := by
  cases cs with
  | nil => rfl
  | cons c cs => exact List.dropWhile_cons_of_neg (by simp [h c List.mem_cons_self])

theorem trimEnd_append {cs after : List Char} (h : Solid cs) (hafter : Blanks after) :
    trimEnd (cs ++ after) = cs := by
  have hback : Solid cs.reverse := fun c hc => h c (List.mem_reverse.mp hc)
  have hdrop : ∀ c ∈ after.reverse, isBlank c = true :=
    fun c hc => hafter c (List.mem_reverse.mp hc)
  rw [trimEnd, List.reverse_append, List.dropWhile_append_of_pos hdrop, dropWhile_of_solid hback,
    List.reverse_reverse]

/-- The blanks around a text are dropped, and nothing else. -/
theorem trim_surrounded {before cs after : List Char} (hbefore : Blanks before) (h : Solid cs)
    (hafter : Blanks after) : trim (before ++ cs ++ after) = cs := by
  rw [trim, trimStart, List.append_assoc, List.dropWhile_append_of_pos hbefore]
  cases cs with
  | nil =>
    -- the blanks behind the text now are those at its start
    have hnil : after.dropWhile isBlank = [] := by
      have h : (after ++ []).dropWhile isBlank = [] := List.dropWhile_append_of_pos hafter
      rwa [List.append_nil] at h
    show trimEnd (after.dropWhile isBlank) = []
    rw [hnil]
    rfl
  | cons c cs =>
    have hc : ¬isBlank c = true := by simp [h c List.mem_cons_self]
    rw [List.cons_append, List.dropWhile_cons_of_neg hc, ← List.cons_append]
    exact trimEnd_append h hafter

/-! ## Characters of numbers -/

theorem mem_intText {n : Int} {c : Char} (h : c ∈ intText n) : isDigit c = true ∨ c = '-' := by
  unfold intText at h
  split at h
  · rcases List.mem_cons.mp h with rfl | h
    · exact .inr rfl
    · exact .inl (isDigit_of_mem_natText h)
  · exact .inl (isDigit_of_mem_natText h)

theorem solid_intText (n : Int) : Solid (intText n) := by
  intro c hc
  rcases mem_intText hc with hd | rfl
  · exact Decimal.isBlank_of_isDigit hd
  · rfl

theorem integerText_intText (n : Int) : IntegerText n (intText n) :=
  Decimal.readInt?_eq_some_iff.mp (readInt?_intText n)

theorem solid_hexText (width n : Nat) : Solid (hexText width n) := by
  have hdigit : ∀ d < 16, isBlank (Nat.digitChar d) = false := by decide
  induction width generalizing n with
  | zero => exact fun c hc => absurd hc List.not_mem_nil
  | succ width ih =>
    intro c hc
    rcases List.mem_append.mp hc with hc | hc
    · exact ih _ c hc
    · rw [List.mem_singleton.mp hc]
      exact hdigit _ (Nat.mod_lt _ (by decide))

/-! ## Texts of false -/

/-- Of the texts that read as false, a whole number has the one of zero. -/
theorem intText_eq_zero_iff (n : Int) : intText n = ['0'] ↔ n = 0 := by
  constructor
  · intro h
    have hread := readInt?_intText n
    rw [h] at hread
    exact (Option.some.inj hread).symm
  · rintro rfl
    rfl

theorem intText_ne_of_mem {n : Int} {cs : List Char} {c : Char} (hc : c ∈ cs)
    (hdigit : isDigit c = false) (hsign : c ≠ '-') : intText n ≠ cs := by
  rintro rfl
  rcases mem_intText hc with h | h
  · rw [hdigit] at h
    cases h
  · exact hsign h

theorem lower_intText (n : Int) : lower (intText n) = intText n := by
  have hlower : ∀ c ∈ intText n, c.toLower = c := by
    intro c hc
    rcases mem_intText hc with h | rfl
    · obtain ⟨d, hd, rfl⟩ := digitChar_of_isDigit h
      have : ∀ d < 10, (Nat.digitChar d).toLower = Nat.digitChar d := by decide
      exact this d hd
    · rfl
  exact (List.map_congr_left hlower).trans (List.map_id _)

end Text

namespace Uuid

theorem solid_text (u : Uuid) : Text.Solid u.text := by
  have hdigits := Text.solid_hexText 32 u.bits.toNat
  obtain ⟨a, b, c, d, e, htext, hjoin, -⟩ := text_eq_joined u
  intro x hx
  rw [hjoin] at hdigits
  simp only [htext, joined, List.mem_append, List.mem_cons] at hx
  rcases hx with ((((hx | rfl | hx) | rfl | hx) | rfl | hx) | rfl | hx) <;>
    first
      | rfl
      | exact hdigits x (by simp [hx])

end Uuid

namespace Decimal

open Text

/-- The decimal is the integer, written without a point. -/
structure IsWhole (d : Decimal) (n : Int) : Prop where
  number : d.toRat = n
  scale : d.scale = 0
  canonical : d.Canonical

theorem IsWhole.unique {d d' : Decimal} {n : Int} (h : d.IsWhole n) (h' : d'.IsWhole n) : d = d' :=
  (h.canonical.eq_iff h'.canonical).mpr
    ⟨h.number.trans h'.number.symm, h.scale.trans h'.scale.symm⟩

/-- The spelling of an integer is that of a decimal without a point. -/
theorem read_of_integerText {cs : List Char} {n : Int} (h : IntegerText n (trim cs)) :
    ∃ d, read cs = .ok d ∧ d.IsWhole n := by
  generalize hcs : trim cs = ts at h
  obtain @⟨negative, ds, _, signs, digits, nonempty⟩ := h
  have hsigned : SignedText negative (ds ++ []) (trim cs) := by
    rw [List.append_nil, hcs]
    exact signs
  have hwritten : Written cs ⟨negative, ds, [], 0⟩ := .of hsigned (.bare digits nonempty) .none
  have fits : (⟨negative, ds, [], 0⟩ : Parts).Fits := ⟨Nat.zero_le _, by simp [Parts.places]⟩
  have hread : read cs = .ok (⟨negative, ds, [], 0⟩ : Parts).decimal :=
    read_eq_ok_iff.mpr ⟨_, hwritten, fits, rfl⟩
  refine ⟨_, hread, ?_, rfl, canonical_of_read hread⟩
  rw [toRat_decimal]
  show unit negative * (number ds + number [] / 10 ^ 0) * 10 ^ (0 : Int) = _
  cases negative <;> simp [unit, signed, number]

end Decimal

namespace Getter

open Text

/-! ## Integers as they are read -/

/-- `m` is what is left of `x` in a signed word of this width: congruent to it, and `x` itself if it
fits. -/
def Narrows (width : Nat) (x m : Int) : Prop :=
  m ≡ x [ZMOD 2 ^ width] ∧ (-(2 ^ width) ≤ 2 * x → 2 * x < 2 ^ width → m = x)

theorem narrows_bmod (width : Nat) (x : Int) : Narrows width x (x.bmod (2 ^ width)) := by
  have hcast : ((2 ^ width : Nat) : Int) = 2 ^ width := by simp
  constructor
  · have h : x.bmod (2 ^ width) % ((2 ^ width : Nat) : Int) = x % ((2 ^ width : Nat) : Int) :=
      Int.bmod_emod
    rw [hcast] at h
    exact h
  · intro hlow hhigh
    rw [← hcast] at hlow hhigh
    apply Int.bmod_eq_of_le <;> omega

/-- The value is read as the integer `x`: whole into 64 bits, its low bits into fewer, whether they
are taken at once or in steps, exactly into a decimal without a point, and as true unless it is
zero. -/
structure ReadsAs (v : Value) (x : Int) (c : Column) : Prop where
  int64 : ∃ m, toInt64 v c = .ok m ∧ m.toInt = x
  int32 : ∃ m, toInt32 v c = .ok m ∧ Narrows 32 x m.toInt
  int16 : ∃ m, toInt16 v c = .ok m ∧ Narrows 16 x m.toInt
  int8 : ∃ m, toInt8 v c = .ok m ∧ Narrows 8 x m.toInt
  int16_of_int32 : ∀ m, toInt32 v c = .ok m → toInt16 (.integer m) c = toInt16 v c
  int8_of_int32 : ∀ m, toInt32 v c = .ok m → toInt8 (.integer m) c = toInt8 v c
  int8_of_int16 : ∀ m, toInt16 v c = .ok m → toInt8 (.smallInt m) c = toInt8 v c
  decimal : ∃ d, toDecimal v c = some (.ok d) ∧ d.IsWhole x
  bool : toBool v c = .ok (decide (x ≠ 0))

variable {v : Value} {x : Int64} {c : Column}

/-- Every narrower integer is taken from the 64-bit one. -/
theorem readsAs_of (hint : toInt64 v c = .ok x)
    (hdecimal : ∃ d, toDecimal v c = some (.ok d) ∧ d.IsWhole x.toInt)
    (hbool : toBool v c = .ok (decide (x.toInt ≠ 0))) : ReadsAs v x.toInt c := by
  have hint32 : toInt32 v c = .ok x.toInt32 := by rw [toInt32, hint]; rfl
  have hint16 : toInt16 v c = .ok x.toInt16 := by rw [toInt16, hint]; rfl
  have hint8 : toInt8 v c = .ok x.toInt8 := by rw [toInt8, hint]; rfl
  refine
    { int64 := ⟨x, hint, rfl⟩
      int32 := ⟨_, hint32, x.toInt_toInt32 ▸ narrows_bmod 32 x.toInt⟩
      int16 := ⟨_, hint16, x.toInt_toInt16 ▸ narrows_bmod 16 x.toInt⟩
      int8 := ⟨_, hint8, x.toInt_toInt8 ▸ narrows_bmod 8 x.toInt⟩
      int16_of_int32 := ?_
      int8_of_int32 := ?_
      int8_of_int16 := ?_
      decimal := hdecimal
      bool := hbool }
  · intro m hm
    obtain rfl := Except.ok.inj (hint32.symm.trans hm)
    rw [hint16]
    show Except.ok x.toInt32.toInt64.toInt16 = _
    rw [Int32.toInt16_toInt64, Int64.toInt16_toInt32]
  · intro m hm
    obtain rfl := Except.ok.inj (hint32.symm.trans hm)
    rw [hint8]
    show Except.ok x.toInt32.toInt64.toInt8 = _
    rw [Int32.toInt8_toInt64, Int64.toInt8_toInt32]
  · intro m hm
    obtain rfl := Except.ok.inj (hint16.symm.trans hm)
    rw [hint8]
    show Except.ok x.toInt16.toInt64.toInt8 = _
    rw [Int16.toInt8_toInt64, Int64.toInt8_toInt16]

/-! ## Integer values -/

theorem text_of_wholeNumber (h : v.wholeNumber? = some x) :
    v.text.toList = intText x.toInt := by
  -- the word of a narrower value has the number of the value
  have hdigits {n : Int} (hn : x.toInt = n) :
      (String.ofList (intText n)).toList = intText x.toInt := by
    rw [String.toList_ofList, hn]
  cases v <;> cases h
  · exact hdigits (Int8.toInt_toInt64 _)
  · exact hdigits (Int16.toInt_toInt64 _)
  · exact hdigits (Int32.toInt_toInt64 _)
  · exact hdigits rfl

theorem toInt64_of_wholeNumber (h : v.wholeNumber? = some x) : toInt64 v c = .ok x := by
  cases v <;> cases h <;> rfl

theorem toBool_of_wholeNumber (h : v.wholeNumber? = some x) :
    toBool v c = .ok (decide (x.toInt ≠ 0)) := by
  have hzero : (x != 0) = decide (x.toInt ≠ 0) := by
    rw [Bool.eq_iff_iff]
    simp [← Int64.toInt_inj]
  have hmap : toBool v c = (toInt64 v c).map (· != 0) := by
    cases v <;> cases h <;> rfl
  rw [hmap, toInt64_of_wholeNumber h, ← hzero]
  rfl

/-- A decimal is read from the text of the value. -/
theorem toDecimal_of_wholeNumber (h : v.wholeNumber? = some x) :
    ∃ d, toDecimal v c = some (.ok d) ∧ d.IsWhole x.toInt := by
  have hsettle : toDecimal v c =
      Decimal.settle (mismatch v c "decimal") (Decimal.read v.text.toList) := by
    cases v <;> cases h <;> rfl
  have hinteger : IntegerText x.toInt (trim (intText x.toInt)) := by
    rw [Decimal.trim_of_forall (solid_intText _)]
    exact integerText_intText _
  obtain ⟨d, hread, hd⟩ := Decimal.read_of_integerText hinteger
  refine ⟨d, ?_, hd⟩
  rw [hsettle, text_of_wholeNumber h, hread]
  rfl

theorem readsAs_of_wholeNumber (h : v.wholeNumber? = some x) : ReadsAs v x.toInt c :=
  readsAs_of (toInt64_of_wholeNumber h) (toDecimal_of_wholeNumber h) (toBool_of_wholeNumber h)

/-! ## Texts of integers -/

theorem readInt64?_of_integerText {s : String} {n : Int} (h : IntegerText n (trim s.toList))
    (hlow : -9223372036854775808 ≤ n) (hhigh : n < 9223372036854775808) :
    readInt64? s = some (Int64.ofInt n) := by
  unfold readInt64?
  simp only [Decimal.readWithin?_eq_some_iff.mpr ⟨h, hlow, hhigh⟩]

theorem toInt64_of_integerText {s : String} {n : Int} (h : IntegerText n (trim s.toList))
    (hlow : -9223372036854775808 ≤ n) (hhigh : n < 9223372036854775808) :
    ∃ m, toInt64 (.string s) c = .ok m ∧ m.toInt = n := by
  refine ⟨Int64.ofInt n, ?_, Int64.toInt_ofInt_of_le (by simpa using hlow) (by simpa using hhigh)⟩
  simp only [toInt64, readInt64?_of_integerText h hlow hhigh]

theorem toDecimal_of_integerText {s : String} {n : Int} (h : IntegerText n (trim s.toList)) :
    ∃ d, toDecimal (.string s) c = some (.ok d) ∧ d.IsWhole n := by
  obtain ⟨d, hread, hd⟩ := Decimal.read_of_integerText h
  have htext : (Value.string s).text.toList = s.toList := by
    show (String.ofList s.toList).toList = s.toList
    rw [String.toList_ofList]
  refine ⟨d, ?_, hd⟩
  rw [toDecimal, htext, hread]
  rfl

/-- The canonical text of an integer spells false if and only if the integer is zero. -/
theorem spellsFalse_intText {s : String} {n : Int} (h : trim s.toList = intText n) :
    spellsFalse s = decide (n = 0) := by
  have hpoint : intText n ≠ ['0', '.', '0'] :=
    intText_ne_of_mem (c := '.') (by simp) rfl (by decide)
  have hfalse : intText n ≠ "false".toList :=
    intText_ne_of_mem (c := 'f') (by decide) rfl (by decide)
  unfold spellsFalse
  simp only [h, lower_intText, beq_eq_false_iff_ne.mpr hpoint, beq_eq_false_iff_ne.mpr hfalse,
    Bool.or_false]
  rw [beq_eq_decide]
  exact decide_eq_decide.mpr (intText_eq_zero_iff n)

theorem readsAs_of_text {s : String} (h : trim s.toList = intText x.toInt) :
    ReadsAs (.string s) x.toInt c := by
  have hinteger : IntegerText x.toInt (trim s.toList) := h ▸ integerText_intText _
  have hread : readInt64? s = some x := by
    rw [readInt64?_of_integerText hinteger x.le_toInt x.toInt_lt, Int64.ofInt_toInt]
  refine readsAs_of ?_ (toDecimal_of_integerText hinteger) ?_
  · simp only [toInt64, hread]
  · rw [toBool, spellsFalse_intText h]
    simp

/-! ## Agreement -/

/-- Values that are read as one integer are told apart by none of the getters. -/
theorem convert_eq_of_readsAs {w : Value} {n : Int} (hv : ReadsAs v n c) (hw : ReadsAs w n c)
    {target : Target}
    (htarget : target ∈ [Target.int64, .int32, .int16, .int8, .decimal, .bool]) :
    convert target v c = convert target w c := by
  obtain ⟨m, hm, hmn⟩ := hv.int64
  obtain ⟨m', hm', hmn'⟩ := hw.int64
  obtain rfl : m = m' := Int64.toInt_inj.mp (hmn.trans hmn'.symm)
  obtain ⟨d, hd, hdn⟩ := hv.decimal
  obtain ⟨d', hd', hdn'⟩ := hw.decimal
  obtain rfl : d = d' := hdn.unique hdn'
  have hint : toInt64 v c = toInt64 w c := hm.trans hm'.symm
  simp only [List.mem_cons, List.not_mem_nil, or_false] at htarget
  rcases htarget with rfl | rfl | rfl | rfl | rfl | rfl
  · simp only [convert, hint]
  · simp only [convert, toInt32, hint]
  · simp only [convert, toInt16, hint]
  · simp only [convert, toInt8, hint]
  · simp only [convert, hd, hd']
  · simp only [convert, hv.bool, hw.bool]

/-- The canonical text of a value between other characters. -/
def textWithin (before after : List Char) (v : Value) : Value :=
  .string (String.ofList (before ++ v.text.toList ++ after))

theorem toUuid_textWithin {before after : List Char} (hbefore : Blanks before)
    (hafter : Blanks after) (u : Uuid) : toUuid (textWithin before after (.uuid u)) c = .ok u := by
  have htext : (Value.uuid u).text.toList = u.text := String.toList_ofList
  simp only [textWithin, toUuid, String.toList_ofList, htext,
    trim_surrounded hbefore u.solid_text hafter, Uuid.read?_text]

/-- **Integers and their texts are read alike.** An integer value is read as its number, and so is
the string of its canonical text with blanks around it; no getter of integers, decimals or truth
values tells the one from the other. An identifier and its text are read as the same identifier. And
every string that spells an integer of 64 bits, with whatever sign and zeros in front, is read as
this number by the getters of 64-bit integers and of decimals. -/
theorem whole_reads_alike (c : Column) :
    (∀ v x, v.wholeNumber? = some x → ∀ before after, Blanks before → Blanks after →
      ReadsAs v x.toInt c ∧ ReadsAs (textWithin before after v) x.toInt c ∧
      ∀ target ∈ [Target.int64, .int32, .int16, .int8, .decimal, .bool],
        convert target v c = convert target (textWithin before after v) c) ∧
    (∀ u before after, Blanks before → Blanks after →
      toUuid (.uuid u) c = .ok u ∧ toUuid (textWithin before after (.uuid u)) c = .ok u) ∧
    ∀ s n, IntegerText n (trim s.toList) →
      -9223372036854775808 ≤ n → n < 9223372036854775808 →
      (∃ m, toInt64 (.string s) c = .ok m ∧ m.toInt = n) ∧
      ∃ d, toDecimal (.string s) c = some (.ok d) ∧ d.IsWhole n := by
  refine ⟨?_, ?_, ?_⟩
  · intro v x hv before after hbefore hafter
    have htrim : trim (String.ofList (before ++ v.text.toList ++ after)).toList =
        intText x.toInt := by
      rw [String.toList_ofList, text_of_wholeNumber hv]
      exact trim_surrounded hbefore (solid_intText _) hafter
    have hvalue : ReadsAs v x.toInt c := readsAs_of_wholeNumber hv
    have htext : ReadsAs (textWithin before after v) x.toInt c := readsAs_of_text htrim
    exact ⟨hvalue, htext, fun target htarget => convert_eq_of_readsAs hvalue htext htarget⟩
  · intro u before after hbefore hafter
    exact ⟨rfl, toUuid_textWithin hbefore hafter u⟩
  · intro s n h hlow hhigh
    exact ⟨toInt64_of_integerText h hlow hhigh, toDecimal_of_integerText h⟩

/-! ### Around the ends of the widths -/

/-- An integer that is too small for 32 bits, between a line break and an em space. It comes out of
them positive, while one bit less of it would have fitted. -/
theorem below_reads_alike :
    Value.wholeNumber? (.bigInt (-2147483649)) = some (-2147483649) ∧
    textWithin ['\n'] ['\u2003'] (.bigInt (-2147483649)) = .string "\n-2147483649\u2003" ∧
    (∃ m, toInt32 (.string "\n-2147483649\u2003") ⟨"n", .bigInt, false⟩ = .ok m ∧
      Narrows 32 (-2147483649) m.toInt) ∧
    convert .decimal (.bigInt (-2147483649)) ⟨"n", .bigInt, false⟩ =
      convert .decimal (.string "\n-2147483649\u2003") ⟨"n", .bigInt, false⟩ ∧
    toUuid (textWithin [] ['\t'] (.uuid ⟨7⟩)) ⟨"id", .uuid, false⟩ = .ok ⟨7⟩ ∧
    ∃ d, toDecimal (.string " +007") ⟨"n", .string, false⟩ = some (.ok d) ∧ d.IsWhole 7 := by
  have hbreak : Blanks ['\n'] := by simp [Blanks, isBlank]
  have hspace : Blanks ['\u2003'] := by simp [Blanks, isBlank]
  have htab : Blanks ['\t'] := by simp [Blanks, isBlank]
  have hnone : Blanks [] := fun c hc => absurd hc List.not_mem_nil
  have htext : textWithin ['\n'] ['\u2003'] (.bigInt (-2147483649)) =
      .string "\n-2147483649\u2003" := rfl
  have hseven : IntegerText 7 (trim " +007".toList) :=
    Decimal.readInt?_eq_some_iff.mp rfl
  obtain ⟨hwhole, -, -⟩ := whole_reads_alike ⟨"n", .bigInt, false⟩
  obtain ⟨-, huuid, -⟩ := whole_reads_alike ⟨"id", .uuid, false⟩
  obtain ⟨-, -, hstring⟩ := whole_reads_alike ⟨"n", .string, false⟩
  obtain ⟨-, hread, hsame⟩ := hwhole (.bigInt (-2147483649)) _ rfl _ _ hbreak hspace
  rw [htext] at hread hsame
  exact ⟨rfl, htext, hread.int32, hsame .decimal (by decide), (huuid _ _ _ hnone htab).2,
    (hstring _ _ hseven (by decide) (by decide)).2⟩

end Getter

end QueryClient
