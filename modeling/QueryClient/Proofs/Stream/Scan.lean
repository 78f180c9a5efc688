import QueryClient.Proofs.Json.Spelling
import QueryClient.Proofs.Stream.Input
import QueryClient.Stream.Scan

/-!
# Scans of well-formed text

Each scan is told by what it does to the bytes that the input brings: `Reaches r a rest` says that
it ends with `a` where the input brings `rest`. A container is scanned by counting brackets, and
the reason why this finds its end is that every value leaves the count as it was
(`passed_of_valueText`). Main statement: `value_of_valueText`, which steps over a value exactly.
-/

namespace QueryClient.Scan

open Json (Blanks StringText ScalarText ItemsTail Enclosed MemberText ValueText)

variable (policy : TransientPolicy) {i : Input} {b : UInt8} {bs rest : List UInt8}

/-- A scan that ends with a result, where the input brings the given bytes. -/
def Reaches {α : Type} (r : EStateM.Result ClientError Input α) (a : α) (rest : List UInt8) :
    Prop := ∃ j, r = .ok a j ∧ j.Brings rest

/-! ## Single bytes -/

theorem peek_cons (h : i.Brings (b :: bs)) :
    ∃ j, peek policy i = .ok (some b) j ∧ j.Brings (b :: bs) ∧ j.consume.Brings bs := by
  obtain ⟨j, hpeek, hj, hconsume⟩ := Input.peek_of_brings_cons h
  refine ⟨j, ?_, hj, hconsume⟩
  unfold peek
  rw [hpeek]

theorem peek_nil (h : i.Brings []) : ∃ j, peek policy i = .ok none j ∧ j.Brings [] := by
  obtain ⟨j, hpeek, hj⟩ := Input.peek_of_brings_nil h
  refine ⟨j, ?_, hj⟩
  unfold peek
  rw [hpeek]

theorem require_cons (h : i.Brings (b :: bs)) : Reaches (require policy i) b bs := by
  obtain ⟨j, hpeek, -, hconsume⟩ := peek_cons policy h
  refine ⟨j.consume, ?_, hconsume⟩
  unfold require
  rw [hpeek]

theorem expect_cons (h : i.Brings (b :: bs)) : Reaches (expect b policy i) () bs := by
  obtain ⟨j, hrequire, hj⟩ := require_cons policy h
  refine ⟨j, ?_, hj⟩
  unfold expect
  rw [hrequire]
  simp

/-! ## Blanks -/

/-- The bytes do not start with a blank. -/
def Solid (bs : List UInt8) : Prop := ∀ b, bs.head? = some b → Ascii.isBlank b = false

theorem solid_cons (h : Ascii.isBlank b = false) : Solid (b :: bs) := by
  intro b' hb'
  rw [← Option.some.inj hb']
  exact h

theorem isBlank_of_isBlank (h : Json.Tree.isBlank b = true) : Ascii.isBlank b = true := by
  unfold Json.Tree.isBlank at h
  unfold Ascii.isBlank
  grind

theorem skipBlanks_of_peek {policy : TransientPolicy} {j : Input}
    (h : peek policy i = .ok (some b) j) :
    skipBlanks policy i = if Ascii.isBlank b then skipBlanks policy j.consume else .ok () j := by
  rw [skipBlanks]
  split <;> simp_all

theorem skipBlanks_solid (hrest : Solid rest) (h : i.Brings rest) :
    Reaches (skipBlanks policy i) () rest := by
  cases rest with
  | nil =>
    obtain ⟨j, hpeek, hj⟩ := peek_nil policy h
    refine ⟨j, ?_, hj⟩
    rw [skipBlanks]
    split <;> simp_all
  | cons b rest =>
    obtain ⟨j, hpeek, hj, -⟩ := peek_cons policy h
    refine ⟨j, ?_, hj⟩
    rw [skipBlanks_of_peek hpeek, hrest b rfl]
    rfl

theorem skipBlanks_blanks (hbs : Blanks bs) (hrest : Solid rest) (h : i.Brings (bs ++ rest)) :
    Reaches (skipBlanks policy i) () rest := by
  induction bs generalizing i with
  | nil => exact skipBlanks_solid policy hrest h
  | cons b bs ih =>
    obtain ⟨j, hpeek, -, hconsume⟩ := peek_cons policy h
    have hb : Ascii.isBlank b = true := isBlank_of_isBlank (hbs b List.mem_cons_self)
    rw [skipBlanks_of_peek hpeek, hb]
    exact ih (fun b' hb' => hbs b' (List.mem_cons_of_mem b hb')) hconsume

/-! ## Strings -/

theorem keep_nil (r : EStateM.Result ClientError Input (List UInt8)) : keep [] r = r := by
  cases r <;> rfl

theorem keep_keep (bs cs : List UInt8) (r : EStateM.Result ClientError Input (List UInt8)) :
    keep bs (keep cs r) = keep (bs ++ cs) r := by
  cases r with
  | ok kept j => exact congrArg (EStateM.Result.ok · j) (List.append_assoc bs cs kept).symm
  | error e j => rfl

theorem stringTail_of_require {policy : TransientPolicy} {j : Input}
    (h : require policy i = .ok b j) :
    stringTail policy i =
      if b = Ascii.backslash then
        match require policy j with
        | .error e k => .error e k
        | .ok c k => keep [b, c] (stringTail policy k)
      else if b = Ascii.quote then .ok [b] j
      else keep [b] (stringTail policy j) := by
  rw [stringTail]
  split
  · simp_all
  · next b' j' h' =>
    obtain ⟨rfl, rfl⟩ := EStateM.Result.ok.inj (h.symm.trans h')
    split
    · split <;> simp_all
    · rfl

/-- A byte that stands for itself is passed. -/
theorem stringTail_plain (hq : b ≠ Ascii.quote) (hb : b ≠ Ascii.backslash)
    (h : i.Brings (b :: bs)) :
    ∃ j, j.Brings bs ∧ stringTail policy i = keep [b] (stringTail policy j) := by
  obtain ⟨j, hrequire, hj⟩ := require_cons policy h
  refine ⟨j, hj, ?_⟩
  rw [stringTail_of_require hrequire, if_neg hb, if_neg hq]

/-- An escaped byte is passed, whatever it is. -/
theorem stringTail_escape (h : i.Brings (Ascii.backslash :: b :: bs)) :
    ∃ j, j.Brings bs ∧ stringTail policy i = keep [Ascii.backslash, b] (stringTail policy j) := by
  obtain ⟨j, hrequire, hj⟩ := require_cons policy h
  obtain ⟨k, hrequire', hk⟩ := require_cons policy hj
  refine ⟨k, hk, ?_⟩
  rw [stringTail_of_require hrequire, if_pos rfl, hrequire']

theorem Reaches.keep {r : EStateM.Result ClientError Input (List UInt8)} {kept : List UInt8}
    (h : Reaches r kept rest) (bs : List UInt8) : Reaches (keep bs r) (bs ++ kept) rest := by
  obtain ⟨j, rfl, hj⟩ := h
  exact ⟨j, rfl, hj⟩

theorem ne_of_hexValue? {n : Nat} (h : Ascii.hexValue? b = some n) :
    b ≠ Ascii.quote ∧ b ≠ Ascii.backslash := by
  have hquote : Ascii.hexValue? Ascii.quote = none := by decide
  have hbackslash : Ascii.hexValue? Ascii.backslash = none := by decide
  constructor
  · rintro rfl
    rw [hquote] at h
    exact nomatch h
  · rintro rfl
    rw [hbackslash] at h
    exact nomatch h

theorem ne_of_hexQuad? {p q r s : UInt8} {code : Nat}
    (h : Json.Tree.hexQuad? p q r s = some code) :
    ∀ b ∈ [p, q, r, s], b ≠ Ascii.quote ∧ b ≠ Ascii.backslash := by
  simp only [Json.Tree.hexQuad?, bind, Option.bind_eq_some_iff] at h
  obtain ⟨_, hp, _, hq, _, hr, _, hs, -⟩ := h
  intro b hb
  simp only [List.mem_cons, List.not_mem_nil, or_false] at hb
  rcases hb with rfl | rfl | rfl | rfl
  · exact ne_of_hexValue? hp
  · exact ne_of_hexValue? hq
  · exact ne_of_hexValue? hr
  · exact ne_of_hexValue? hs

theorem stringTail_plain_append (hbs : ∀ b ∈ bs, b ≠ Ascii.quote ∧ b ≠ Ascii.backslash)
    (h : i.Brings (bs ++ rest)) :
    ∃ j, j.Brings rest ∧ stringTail policy i = keep bs (stringTail policy j) := by
  induction bs generalizing i with
  | nil => exact ⟨i, h, (keep_nil _).symm⟩
  | cons b bs ih =>
    obtain ⟨hq, hb⟩ := hbs b List.mem_cons_self
    obtain ⟨j, hj, hstep⟩ := stringTail_plain policy hq hb h
    obtain ⟨k, hk, hrest⟩ := ih (fun b' hb' => hbs b' (List.mem_cons_of_mem b hb')) hj
    refine ⟨k, hk, ?_⟩
    rw [hstep, hrest, keep_keep]
    rfl

/-- A string ends at the first quote that is not escaped. -/
theorem stringTail_stringText {s : List UInt8} (hs : StringText s)
    (h : i.Brings (s ++ Ascii.quote :: rest)) :
    Reaches (stringTail policy i) (s ++ [Ascii.quote]) rest := by
  induction hs generalizing i with
  | nil =>
    obtain ⟨j, hrequire, hj⟩ := require_cons policy h
    refine ⟨j, ?_, hj⟩
    rw [stringTail_of_require hrequire, if_neg (by decide), if_pos rfl]
    rfl
  | @plain b s _ hq hb _ ih =>
    obtain ⟨j, hj, hstep⟩ := stringTail_plain policy hq hb h
    rw [hstep]
    exact (ih hj).keep [b]
  | @escape e _ s _ _ ih =>
    obtain ⟨j, hj, hstep⟩ := stringTail_escape policy h
    rw [hstep]
    exact (ih hj).keep [Ascii.backslash, e]
  | @unit p q r s code tail hcode _ ih =>
    obtain ⟨j, hj, hstep⟩ := stringTail_escape policy h
    -- to the scan only the `u` is escaped, and the four digits stand for themselves
    obtain ⟨k, hk, hdigits⟩ := stringTail_plain_append policy
      (ne_of_hexQuad? hcode) hj
    rw [hstep, hdigits, keep_keep]
    exact (ih hk).keep _

/-! ## Containers -/

theorem containerTail_of_require {policy : TransientPolicy} {depth : Nat} {j : Input}
    (h : require policy i = .ok b j) :
    containerTail policy (depth + 1) i =
      if b = Ascii.quote then
        match stringTail policy j with
        | .error e k => .error e k
        | .ok text k => keep (b :: text) (containerTail policy (depth + 1) k)
      else if b = Ascii.openBrace ∨ b = Ascii.openBracket then
        keep [b] (containerTail policy (depth + 2) j)
      else if b = Ascii.closeBrace ∨ b = Ascii.closeBracket then
        keep [b] (containerTail policy depth j)
      else keep [b] (containerTail policy (depth + 1) j) := by
  rw [containerTail, if_neg (Nat.succ_ne_zero depth)]
  split
  · simp_all
  · next b' j' h' =>
    obtain ⟨rfl, rfl⟩ := EStateM.Result.ok.inj (h.symm.trans h')
    split
    · split <;> simp_all
    · rfl

/-- Within a container, the bytes leave the count of open brackets as it was. -/
def Passed (bs : List UInt8) : Prop :=
  ∀ (policy : TransientPolicy) (depth : Nat) (i : Input) (rest : List UInt8),
    i.Brings (bs ++ rest) →
    ∃ j, j.Brings rest ∧
      containerTail policy (depth + 1) i = keep bs (containerTail policy (depth + 1) j)

/-- Within a container, the bytes lower the count of open brackets by one. -/
def Closes (bs : List UInt8) : Prop :=
  ∀ (policy : TransientPolicy) (depth : Nat) (i : Input) (rest : List UInt8),
    i.Brings (bs ++ rest) →
    ∃ j, j.Brings rest ∧
      containerTail policy (depth + 1) i = keep bs (containerTail policy depth j)

/-- A bracket that opens a container. -/
def IsOpening (b : UInt8) : Prop := b = Ascii.openBrace ∨ b = Ascii.openBracket

/-- A bracket that closes a container. -/
def IsClosing (b : UInt8) : Prop := b = Ascii.closeBrace ∨ b = Ascii.closeBracket

instance : DecidablePred IsOpening := fun b =>
  inferInstanceAs (Decidable (b = Ascii.openBrace ∨ b = Ascii.openBracket))

instance : DecidablePred IsClosing := fun b =>
  inferInstanceAs (Decidable (b = Ascii.closeBrace ∨ b = Ascii.closeBracket))

theorem passed_nil : Passed [] := by
  intro policy depth i rest h
  exact ⟨i, h, (keep_nil _).symm⟩

theorem Passed.append {bs cs : List UInt8} (hbs : Passed bs) (hcs : Passed cs) :
    Passed (bs ++ cs) := by
  intro policy depth i rest h
  rw [List.append_assoc] at h
  obtain ⟨j, hj, hfirst⟩ := hbs policy depth i _ h
  obtain ⟨k, hk, hsecond⟩ := hcs policy depth j _ hj
  refine ⟨k, hk, ?_⟩
  rw [hfirst, hsecond, keep_keep]

theorem Passed.append_closes {bs cs : List UInt8} (hbs : Passed bs) (hcs : Closes cs) :
    Closes (bs ++ cs) := by
  intro policy depth i rest h
  rw [List.append_assoc] at h
  obtain ⟨j, hj, hfirst⟩ := hbs policy depth i _ h
  obtain ⟨k, hk, hsecond⟩ := hcs policy depth j _ hj
  refine ⟨k, hk, ?_⟩
  rw [hfirst, hsecond, keep_keep]

theorem passed_byte (hq : b ≠ Ascii.quote) (ho : ¬IsOpening b) (hc : ¬IsClosing b) :
    Passed [b] := by
  intro policy depth i rest h
  obtain ⟨j, hrequire, hj⟩ := require_cons policy h
  refine ⟨j, hj, ?_⟩
  rw [containerTail_of_require hrequire, if_neg hq]
  exact (if_neg ho).trans (if_neg hc)

theorem passed_of_forall (hbs : ∀ b ∈ bs, Passed [b]) : Passed bs := by
  induction bs with
  | nil => exact passed_nil
  | cons b bs ih =>
    exact (hbs b List.mem_cons_self).append (ih fun b' hb' => hbs b' (List.mem_cons_of_mem b hb'))

theorem passed_string {s : List UInt8} (hs : StringText s) :
    Passed (Ascii.quote :: (s ++ [Ascii.quote])) := by
  intro policy depth i rest h
  rw [List.cons_append, List.append_assoc] at h
  obtain ⟨j, hrequire, hj⟩ := require_cons policy h
  obtain ⟨k, hstring, hk⟩ := stringTail_stringText policy hs hj
  refine ⟨k, hk, ?_⟩
  rw [containerTail_of_require hrequire, if_pos rfl, hstring]

theorem closes_closing (hb : IsClosing b) : Closes [b] := by
  intro policy depth i rest h
  obtain ⟨j, hrequire, hj⟩ := require_cons policy h
  refine ⟨j, hj, ?_⟩
  have hq : b ≠ Ascii.quote := by
    rcases hb with rfl | rfl <;> decide
  have ho : ¬(b = Ascii.openBrace ∨ b = Ascii.openBracket) := by
    rcases hb with rfl | rfl <;> decide
  rw [containerTail_of_require hrequire, if_neg hq, if_neg ho]
  exact if_pos hb

/-- A container within a container is passed, whatever its brackets. -/
theorem Closes.passed (hb : IsOpening b) (hbs : Closes bs) : Passed (b :: bs) := by
  intro policy depth i rest h
  obtain ⟨j, hrequire, hj⟩ := require_cons policy h
  -- behind the opening bracket the count is one higher, and `bs` brings it down again
  obtain ⟨k, hk, hinner⟩ := hbs policy (depth + 1) j rest hj
  refine ⟨k, hk, ?_⟩
  have hq : b ≠ Ascii.quote := by
    rcases hb with rfl | rfl <;> decide
  rw [containerTail_of_require hrequire, if_neg hq]
  refine (if_pos hb).trans ?_
  rw [hinner, keep_keep]
  rfl

/-! ## Numbers and literals -/

/-- A byte that may stand in a number or a literal, as far as a scan can tell. -/
def isWord (b : UInt8) : Bool :=
  !endsScalar b && b != Ascii.quote && b != Ascii.openBrace && b != Ascii.openBracket

theorem isWord_of_isDigit (h : Ascii.isDigit b = true) : isWord b = true := by
  have hne (c : UInt8) (hc : Ascii.isDigit c = false) : b ≠ c := by
    rintro rfl
    rw [hc] at h
    exact Bool.false_ne_true h
  simp only [isWord, endsScalar, Ascii.isBlank, Bool.and_eq_true, Bool.not_eq_true',
    Bool.or_eq_false_iff, beq_eq_false_iff_ne, bne_iff_ne]
  refine ⟨⟨⟨⟨⟨⟨?_, ?_⟩, ?_⟩, ⟨⟨⟨?_, ?_⟩, ?_⟩, ?_⟩, ?_⟩, ?_⟩, ?_⟩, ?_⟩ <;> exact hne _ (by decide)

theorem isWord_of_mem_digits (hbs : Json.Digits bs) (hb : b ∈ bs) : isWord b = true :=
  isWord_of_isDigit (hbs.2 b hb)

theorem isWord_of_mem_scalarText {t : List UInt8} (ht : ScalarText t) :
    ∀ b ∈ t, isWord b = true := by
  cases ht with
  | null => exact List.all_eq_true.mp rfl
  | true => exact List.all_eq_true.mp rfl
  | false => exact List.all_eq_true.mp rfl
  | @number sign whole fraction exponent hsign hwhole hfraction hexponent =>
    intro b hb
    -- in the order in which a number is written: sign, whole part, fraction, exponent
    rcases List.mem_append.mp hb with hb | hb
    · rcases hsign with rfl | rfl
      · exact absurd hb List.not_mem_nil
      · rw [List.mem_singleton.mp hb]
        rfl
    rcases List.mem_append.mp hb with hb | hb
    · exact isWord_of_mem_digits hwhole.1 hb
    rcases List.mem_append.mp hb with hb | hb
    · cases hfraction with
      | none => exact absurd hb List.not_mem_nil
      | digits hdigits =>
        rcases List.mem_cons.mp hb with rfl | hb
        · rfl
        · exact isWord_of_mem_digits hdigits hb
    · cases hexponent with
      | none => exact absurd hb List.not_mem_nil
      | @digits e sign' digits he hsign' hdigits =>
        rcases List.mem_cons.mp hb with rfl | hb
        · rcases he with rfl | rfl <;> rfl
        rcases List.mem_append.mp hb with hb | hb
        · rcases hsign' with rfl | rfl | rfl
          · exact absurd hb List.not_mem_nil
          · rw [List.mem_singleton.mp hb]
            rfl
          · rw [List.mem_singleton.mp hb]
            rfl
        · exact isWord_of_mem_digits hdigits hb

theorem ne_nil_of_scalarText {t : List UInt8} (ht : ScalarText t) : t ≠ [] := by
  cases ht with
  | null => exact List.cons_ne_nil _ _
  | true => exact List.cons_ne_nil _ _
  | false => exact List.cons_ne_nil _ _
  | number _ hwhole _ _ =>
    intro h
    simp only [List.append_eq_nil_iff] at h
    exact hwhole.1.1 h.2.1

/-- What comes next ends a number or a literal. -/
def Delimited (bs : List UInt8) : Prop := ∀ b, bs.head? = some b → endsScalar b = true

theorem delimited_cons (h : endsScalar b = true) : Delimited (b :: bs) := by
  intro b' hb'
  rw [← Option.some.inj hb']
  exact h

theorem scalarTail_of_peek {policy : TransientPolicy} {j : Input}
    (h : peek policy i = .ok (some b) j) :
    scalarTail policy i =
      if endsScalar b then .ok [] j else keep [b] (scalarTail policy j.consume) := by
  rw [scalarTail]
  split <;> simp_all

theorem scalarTail_delimited (hrest : Delimited rest) (h : i.Brings rest) :
    Reaches (scalarTail policy i) [] rest := by
  cases rest with
  | nil =>
    obtain ⟨j, hpeek, hj⟩ := peek_nil policy h
    refine ⟨j, ?_, hj⟩
    rw [scalarTail]
    split <;> simp_all
  | cons b rest =>
    obtain ⟨j, hpeek, hj, -⟩ := peek_cons policy h
    refine ⟨j, ?_, hj⟩
    rw [scalarTail_of_peek hpeek, hrest b rfl]
    rfl

theorem scalarTail_words (hbs : ∀ b ∈ bs, isWord b = true) (hrest : Delimited rest)
    (h : i.Brings (bs ++ rest)) : Reaches (scalarTail policy i) bs rest := by
  induction bs generalizing i with
  | nil => exact scalarTail_delimited policy hrest h
  | cons b bs ih =>
    obtain ⟨j, hpeek, -, hconsume⟩ := peek_cons policy h
    have hb : endsScalar b = false := by
      have hword := hbs b List.mem_cons_self
      simp only [isWord, Bool.and_eq_true, Bool.not_eq_true'] at hword
      exact hword.1.1.1
    rw [scalarTail_of_peek hpeek, hb]
    exact (ih (fun b' hb' => hbs b' (List.mem_cons_of_mem b hb')) hconsume).keep [b]

/-! ## Values -/

theorem passed_word (h : isWord b = true) : Passed [b] := by
  simp only [isWord, endsScalar, Bool.and_eq_true, Bool.not_eq_true', Bool.or_eq_false_iff,
    beq_eq_false_iff_ne, bne_iff_ne] at h
  obtain ⟨⟨⟨⟨⟨⟨-, hbrace⟩, hbracket⟩, -⟩, hq⟩, hobrace⟩, hobracket⟩ := h
  apply passed_byte hq
  · rintro (rfl | rfl)
    · exact hobrace rfl
    · exact hobracket rfl
  · rintro (rfl | rfl)
    · exact hbrace rfl
    · exact hbracket rfl

theorem passed_blanks (h : Blanks bs) : Passed bs := by
  apply passed_of_forall
  intro b hb
  have hblank := h b hb
  have hne (c : UInt8) (hc : Json.Tree.isBlank c = false) : b ≠ c := by
    rintro rfl
    rw [hc] at hblank
    exact Bool.false_ne_true hblank
  apply passed_byte
  · exact hne _ (by decide)
  · rintro (hb | hb)
    · exact hne Ascii.openBrace (by decide) hb
    · exact hne Ascii.openBracket (by decide) hb
  · rintro (hb | hb)
    · exact hne Ascii.closeBrace (by decide) hb
    · exact hne Ascii.closeBracket (by decide) hb

theorem passed_comma : Passed [Ascii.comma] := passed_byte (by decide) (by decide) (by decide)

theorem passed_colon : Passed [Ascii.colon] := passed_byte (by decide) (by decide) (by decide)

theorem passed_memberText {name v t : List UInt8} (hname : StringText name) (hv : Passed v)
    (ht : MemberText name v t) : Passed t := by
  obtain ⟨hl, hr⟩ := ht
  have h := (passed_string hname).append ((passed_blanks hl).append
    (passed_colon.append ((passed_blanks hr).append hv)))
  simpa using h

theorem passed_of_mem_memberTexts {members : List (List UInt8 × List UInt8)}
    {texts : List (List UInt8)} (hnames : ∀ m ∈ members, StringText m.1)
    (hvalues : ∀ m ∈ members, Passed m.2)
    (h : List.Forall₂ (fun (m : List UInt8 × List UInt8) t => MemberText m.1 m.2 t)
      members texts) : ∀ t ∈ texts, Passed t := by
  induction h with
  | nil => exact fun t ht => absurd ht List.not_mem_nil
  | @cons m text members texts hm _ ih =>
    intro t ht
    rcases List.mem_cons.mp ht with rfl | ht
    · exact passed_memberText (hnames m List.mem_cons_self) (hvalues m List.mem_cons_self) hm
    · apply ih _ _ t ht
      · exact fun m' hm' => hnames m' (List.mem_cons_of_mem m hm')
      · exact fun m' hm' => hvalues m' (List.mem_cons_of_mem m hm')

theorem closes_itemsTail {close : UInt8} {items : List (List UInt8)} {tail : List UInt8}
    (hclose : IsClosing close) (hitems : ∀ item ∈ items, Passed item)
    (h : ItemsTail close items tail) : Closes tail := by
  induction h with
  | @last l item r hl hr =>
    have hitem := hitems item List.mem_cons_self
    exact (passed_blanks hl).append_closes (hitem.append_closes
      ((passed_blanks hr).append_closes (closes_closing hclose)))
  | @more l item r items tail hl hr _ ih =>
    have hitem := hitems item List.mem_cons_self
    have htail := ih fun item' h => hitems item' (List.mem_cons_of_mem item h)
    exact (passed_blanks hl).append_closes (hitem.append_closes
      ((passed_blanks hr).append_closes (passed_comma.append_closes htail)))

theorem closes_enclosed {close : UInt8} {items : List (List UInt8)} {tail : List UInt8}
    (hclose : IsClosing close) (hitems : ∀ item ∈ items, Passed item)
    (h : Enclosed close items tail) : Closes tail := by
  cases h with
  | empty hl => exact (passed_blanks hl).append_closes (closes_closing hclose)
  | items h => exact closes_itemsTail hclose hitems h

/-- **A value leaves the count of open brackets as it was.** -/
theorem passed_of_valueText {t : List UInt8} (h : ValueText t) : Passed t := by
  induction h with
  | scalar ht => exact passed_of_forall fun b hb => passed_word (isWord_of_mem_scalarText ht b hb)
  | string hs => exact passed_string hs
  | array _ htail ih => exact (closes_enclosed (Or.inr rfl) ih htail).passed (Or.inr rfl)
  | @object members texts tail hnames _ hmembers htail ih =>
    have htexts := passed_of_mem_memberTexts hnames ih hmembers
    exact (closes_enclosed (Or.inl rfl) htexts htail).passed (Or.inl rfl)

/-- What a closing bracket's tail leaves of a scan that has one bracket open is nothing. -/
theorem containerTail_closes (hbs : Closes bs) (h : i.Brings (bs ++ rest)) :
    Reaches (containerTail policy 1 i) bs rest := by
  obtain ⟨j, hj, hstep⟩ := hbs policy 0 i rest h
  refine ⟨j, ?_, hj⟩
  rw [hstep, containerTail, if_pos rfl]
  exact congrArg (EStateM.Result.ok · j) (List.append_nil bs)

theorem value_of_peek {policy : TransientPolicy} {j : Input}
    (h : peek policy i = .ok (some b) j) :
    value policy i =
      if b = Ascii.quote then keep [b] (stringTail policy j.consume)
      else if b = Ascii.openBrace ∨ b = Ascii.openBracket then
        keep [b] (containerTail policy 1 j.consume)
      else scalarTail policy j := by
  unfold value
  rw [h]

theorem value_container (hb : IsOpening b) (hbs : Closes bs) (h : i.Brings (b :: (bs ++ rest))) :
    Reaches (value policy i) (b :: bs) rest := by
  obtain ⟨j, hpeek, -, hconsume⟩ := peek_cons policy h
  have hq : b ≠ Ascii.quote := by
    rcases hb with rfl | rfl <;> decide
  have ho : b = Ascii.openBrace ∨ b = Ascii.openBracket := hb
  rw [value_of_peek hpeek, if_neg hq, if_pos ho]
  exact (containerTail_closes policy hbs hconsume).keep [b]

theorem value_scalar {t : List UInt8} (ht : ScalarText t) (hrest : Delimited rest)
    (h : i.Brings (t ++ rest)) : Reaches (value policy i) t rest := by
  have hwords := isWord_of_mem_scalarText ht
  obtain ⟨b, bs, rfl⟩ := List.exists_cons_of_ne_nil (ne_nil_of_scalarText ht)
  obtain ⟨j, hpeek, hj, -⟩ := peek_cons policy h
  have hb := hwords b List.mem_cons_self
  simp only [isWord, Bool.and_eq_true, bne_iff_ne] at hb
  obtain ⟨⟨⟨-, hq⟩, hbrace⟩, hbracket⟩ := hb
  rw [value_of_peek hpeek, if_neg hq, if_neg (not_or.mpr ⟨hbrace, hbracket⟩)]
  exact scalarTail_words policy hwords hrest hj

/-- **A value is stepped over exactly**, with nothing of what comes after it. -/
theorem value_of_valueText {t : List UInt8} (ht : ValueText t) (hrest : Delimited rest)
    (h : i.Brings (t ++ rest)) : Reaches (value policy i) t rest := by
  cases ht with
  | scalar ht => exact value_scalar policy ht hrest h
  | @string s hs =>
    rw [List.cons_append, List.append_assoc] at h
    obtain ⟨j, hpeek, -, hconsume⟩ := peek_cons policy h
    rw [value_of_peek hpeek, if_pos rfl]
    exact (stringTail_stringText policy hs hconsume).keep [Ascii.quote]
  | array hitems htail =>
    have hpassed := fun item hitem => passed_of_valueText (hitems item hitem)
    exact value_container policy (Or.inr rfl) (closes_enclosed (Or.inr rfl) hpassed htail) h
  | object hnames hvalues hmembers htail =>
    have hpassed := passed_of_mem_memberTexts hnames
      (fun m hm => passed_of_valueText (hvalues m hm)) hmembers
    exact value_container policy (Or.inl rfl) (closes_enclosed (Or.inl rfl) hpassed htail) h

/-! ## Names -/

theorem literalText?_of_spells {name : List UInt8} {cs : List Char} (h : Json.Spells name cs) :
    literalText? (Ascii.quote :: (name ++ [Ascii.quote])) = some (String.ofList cs) := by
  obtain ⟨parts, hread, hstring⟩ := Json.read?_of_spells h
  rw [literalText?, hread]
  exact hstring

theorem fieldName_spells {name : List UInt8} {s : String} (hs : Json.Spells name s.toList)
    (h : i.Brings (Ascii.quote :: (name ++ Ascii.quote :: rest))) :
    Reaches (fieldName policy i) s rest := by
  obtain ⟨j, hpeek, -, hconsume⟩ := peek_cons policy h
  obtain ⟨k, hstring, hk⟩ := stringTail_stringText policy hs.stringText hconsume
  refine ⟨k, ?_, hk⟩
  unfold fieldName
  simp only [hpeek, if_true, hstring, literalText?_of_spells hs, String.ofList_toList]

theorem colon_blanks {l r : List UInt8} (hl : Blanks l) (hr : Blanks r) (hrest : Solid rest)
    (h : i.Brings (l ++ Ascii.colon :: (r ++ rest))) : Reaches (colon policy i) () rest := by
  obtain ⟨j, hblanks, hj⟩ := skipBlanks_blanks policy hl (solid_cons rfl) h
  obtain ⟨k, hexpect, hk⟩ := expect_cons policy hj
  unfold colon
  rw [hblanks]
  simp only [hexpect]
  exact skipBlanks_blanks policy hr hrest hk

end QueryClient.Scan
