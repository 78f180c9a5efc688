import Mathlib
import QueryClient.Proofs.Json.Spelling
import QueryClient.Url.Domain

/-!
# Domain names as they are sent

What a domain name is sent as consists of characters that stand for themselves in a name (`IsSent`):
they are in ASCII, and none is a capital letter, a percent sign or a mark that divides an address.
So a name that has been read is its own spelling. Main statements: `isSent_of_read?` and
`eq_of_read?`.
-/

namespace QueryClient

/-- A list is worked through if and only if each of its elements gives something. -/
theorem mapM_eq_some_iff {α β : Type} {f : α → Option β} {as : List α} {bs : List β} :
    as.mapM f = some bs ↔ List.Forall₂ (fun a b => f a = some b) as bs := by
  induction as generalizing bs with
  | nil =>
    rw [List.mapM_nil, List.forall₂_nil_left_iff]
    exact ⟨fun h => (Option.some.inj h).symm, fun h => h ▸ rfl⟩
  | cons a as ih =>
    rw [List.mapM_cons, List.forall₂_cons_left_iff]
    constructor
    · intro h
      obtain ⟨b, hb, h⟩ := Option.bind_eq_some_iff.mp h
      obtain ⟨bs', hbs, h⟩ := Option.bind_eq_some_iff.mp h
      exact ⟨b, bs', hb, ih.mp hbs, (Option.some.inj h).symm⟩
    · rintro ⟨b, bs', hb, hbs, rfl⟩
      rw [hb, ih.mpr hbs]
      rfl

theorem exists_of_mem_of_mapM {α β : Type} {f : α → Option β} {as : List α} {bs : List β}
    (h : as.mapM f = some bs) {b : β} (hb : b ∈ bs) : ∃ a ∈ as, f a = some b := by
  have hall := mapM_eq_some_iff.mp h
  induction hall with
  | nil => cases hb
  | cons hfirst _ ih =>
    obtain rfl | hb := List.mem_cons.mp hb
    · exact ⟨_, List.mem_cons_self, hfirst⟩
    · obtain ⟨a, ha, hfa⟩ := ih (mapM_eq_some_iff.mpr ‹_›) hb
      exact ⟨a, List.mem_cons_of_mem _ ha, hfa⟩

/-- The pieces of a list hold elements of it, and no separators. -/
theorem mem_of_mem_splitOnP {α : Type} {p : α → Bool} {as piece : List α} {a : α}
    (hpiece : piece ∈ as.splitOnP p) (ha : a ∈ piece) : a ∈ as ∧ p a = false := by
  induction as generalizing piece with
  | nil =>
    rw [List.splitOnP_nil, List.mem_singleton] at hpiece
    rw [hpiece] at ha
    cases ha
  | cons b as ih =>
    rw [List.splitOnP_cons_eq_if_modifyHead] at hpiece
    split at hpiece
    · obtain rfl | hpiece := List.mem_cons.mp hpiece
      · cases ha
      · exact (ih hpiece ha).imp_left (List.mem_cons_of_mem b)
    · next hb =>
      cases hsplit : as.splitOnP p with
      | nil => exact absurd hsplit (List.splitOnP_ne_nil p as)
      | cons first rest =>
        rw [hsplit, List.modifyHead_cons] at hpiece
        obtain rfl | hpiece := List.mem_cons.mp hpiece
        · obtain rfl | ha := List.mem_cons.mp ha
          · exact ⟨List.mem_cons_self, Bool.eq_false_iff.mpr hb⟩
          · exact (ih (hsplit ▸ List.mem_cons_self) ha).imp_left (List.mem_cons_of_mem b)
        · exact (ih (hsplit ▸ List.mem_cons_of_mem first hpiece) ha).imp_left
            (List.mem_cons_of_mem b)

namespace Url.Domain

/-- A character of a name as it is sent. -/
def IsSent (c : Char) : Prop := Label.isAscii c = true ∧ Label.isForbidden c = false

instance (c : Char) : Decidable (IsSent c) := inferInstanceAs (Decidable (_ ∧ _))

theorem IsSent.toNat_lt {c : Char} (h : IsSent c) : c.toNat < 0x80 := of_decide_eq_true h.1

theorem IsSent.not_isUpper {c : Char} (h : IsSent c) : c.isUpper = false := by
  have hforbidden := h.2
  simp only [Label.isForbidden, Bool.or_eq_false_iff] at hforbidden
  exact hforbidden.1.1.1

/-- Only a capital letter has a small one. -/
theorem IsSent.toLower_eq {c : Char} (h : IsSent c) : c.toLower = c := by
  rw [Char.toLower, dif_neg (of_decide_eq_false h.not_isUpper)]

/-- A character that may not stand in a name is not one of a name that is sent. -/
theorem IsSent.ne {c d : Char} (h : IsSent c) (hd : ¬IsSent d) : c ≠ d := fun heq => hd (heq ▸ h)

/-! ## Punycode forms -/

/-- A digit of the variable-length notation. -/
def IsPunycodeDigit (c : Char) : Prop := ∃ d < 36, c = punycodeDigit d

theorem IsPunycodeDigit.isSent {c : Char} (h : IsPunycodeDigit c) : IsSent c := by
  have hall : ∀ d < 36, IsSent (punycodeDigit d) := by decide
  obtain ⟨d, hd, rfl⟩ := h
  exact hall d hd

theorem isPunycodeDigit_of_mem_number {fuel bias q k : Nat} {c : Char}
    (h : c ∈ punycodeNumber fuel bias q k) : IsPunycodeDigit c := by
  induction fuel generalizing q k with
  | zero => cases h
  | succ fuel ih =>
    rw [punycodeNumber] at h
    generalize ht : (if k ≤ bias then 1 else if bias + 26 ≤ k then 26 else k - bias) = t at h
    have hmost : t ≤ 26 := by
      rw [← ht]
      split
      · omega
      · split <;> omega
    split at h
    · next hq => exact ⟨q, by omega, List.mem_singleton.mp h⟩
    · obtain rfl | h := List.mem_cons.mp h
      · have hrest : (q - t) % (36 - t) < 36 - t := Nat.mod_lt _ (by omega)
        exact ⟨_, by omega, rfl⟩
      · exact ih h

/-- Placing a character adds digits only. -/
theorem isPunycodeDigit_place {label : List Nat} {code : Nat} {s : Punycode}
    (hs : ∀ c ∈ s.text, IsPunycodeDigit c) :
    ∀ c ∈ (s.place label code).text, IsPunycodeDigit c := by
  rw [Punycode.place]
  dsimp only
  induction label generalizing s with
  | nil => exact hs
  | cons n label ih =>
    rw [List.foldl_cons]
    apply ih
    split
    · exact hs
    · split
      · intro c hc
        obtain hc | hc := List.mem_append.mp hc
        · exact hs c hc
        · exact isPunycodeDigit_of_mem_number hc
      · exact hs

/-- The digits come one place after the other. -/
theorem isPunycodeDigit_foldl_place {label others : List Nat} {acc : Punycode × Nat}
    (h : ∀ c ∈ acc.1.text, IsPunycodeDigit c) :
    ∀ c ∈ (others.foldl (fun (acc : Punycode × Nat) code =>
      let s := { acc.1 with delta := acc.1.delta + (code - acc.2) * (acc.1.placed + 1) }
      (s.place label code, code + 1)) acc).1.text, IsPunycodeDigit c := by
  induction others generalizing acc with
  | nil => exact h
  | cons code others ih =>
    rw [List.foldl_cons]
    exact ih (isPunycodeDigit_place h)

/-- A Punycode form holds the ASCII characters of the label, a hyphen and digits. -/
theorem mem_punycode {label : List Char} {c : Char} (h : c ∈ punycode label) :
    (c ∈ label ∧ Label.isAscii c = true) ∨ c = '-' ∨ IsPunycodeDigit c := by
  rw [punycode] at h
  dsimp only at h
  obtain h | h := List.mem_append.mp h
  · split at h
    · cases h
    · obtain h | h := List.mem_append.mp h
      · exact .inl (List.mem_filter.mp h)
      · exact .inr (.inl (List.mem_singleton.mp h))
  · refine .inr (.inr (isPunycodeDigit_foldl_place ?_ c h))
    exact fun d hd => absurd hd List.not_mem_nil

theorem isSent_of_mem_punycode {label : List Char}
    (h : ∀ d ∈ label, Label.isForbidden d = false) {c : Char} (hc : c ∈ punycode label) :
    IsSent c := by
  obtain ⟨hmem, hascii⟩ | rfl | hdigit := mem_punycode hc
  · exact ⟨hascii, h c hmem⟩
  · decide
  · exact hdigit.isSent

/-! ## Labels -/

theorem isForbidden_of_isAllowed {cs : List Char} (h : Label.isAllowed cs = true) :
    ∀ d ∈ cs, Label.isForbidden d = false := by
  simp only [Label.isAllowed, Bool.and_eq_true, List.all_eq_true, Bool.not_eq_true'] at h
  exact h.2

theorem isSent_of_mem_cons_punycode {form : List Char} (h : ∀ c ∈ form, IsSent c) :
    ∀ c ∈ ['x', 'n', '-', '-'] ++ form, IsSent c := by
  intro c hc
  obtain hc | hc := List.mem_append.mp hc
  · simp only [List.mem_cons, List.not_mem_nil, or_false] at hc
    obtain rfl | rfl | rfl | rfl := hc <;> decide
  · exact h c hc

/-- A label with a Punycode form is sent as it is spelled. -/
theorem readPunycode?_eq_some {form : List Char} {l : Label}
    (h : Label.readPunycode? form = some l) :
    l.text = ['x', 'n', '-', '-'] ++ form ∧ ∀ c ∈ l.text, IsSent c := by
  rw [Label.readPunycode?] at h
  split at h
  · cases h
  · obtain ⟨characters, -, h⟩ := Option.bind_eq_some_iff.mp h
    split at h
    · next hcond =>
      obtain rfl := Option.some.inj h
      simp only [Bool.and_eq_true, Label.hasPunycode, decide_eq_true_eq] at hcond
      obtain ⟨⟨⟨-, hform⟩, -⟩, hallowed⟩ := hcond
      refine ⟨rfl, isSent_of_mem_cons_punycode fun c hc => ?_⟩
      rw [← hform] at hc
      exact isSent_of_mem_punycode (isForbidden_of_isAllowed hallowed) hc
    · cases h

theorem isSent_of_mem_text {cs : List Char} {l : Label} (h : Label.read? cs = some l) :
    ∀ c ∈ l.text, IsSent c := by
  unfold Label.read? at h
  split at h
  · exact (readPunycode?_eq_some h).2
  · split at h
    · next hascii =>
      split at h
      · cases h
      · next hforbidden =>
        obtain rfl := Option.some.inj h
        intro c hc
        refine ⟨List.all_eq_true.mp hascii c hc, ?_⟩
        exact Bool.eq_false_iff.mpr fun hf => hforbidden (List.any_eq_true.mpr ⟨c, hc, hf⟩)
    · split at h
      · next hallowed =>
        obtain rfl := Option.some.inj h
        exact isSent_of_mem_cons_punycode fun c hc =>
          isSent_of_mem_punycode (isForbidden_of_isAllowed hallowed) hc
      · cases h

/-- A label in ASCII is sent as it is spelled. -/
theorem text_of_read? {cs : List Char} {l : Label} (h : Label.read? cs = some l)
    (hascii : cs.all Label.isAscii = true) : l.text = cs := by
  unfold Label.read? at h
  split at h
  · exact (readPunycode?_eq_some h).1
  · rw [if_pos hascii] at h
    split at h
    · cases h
    · obtain rfl := Option.some.inj h
      rfl

/-- Labels in ASCII are sent as they are spelled. -/
theorem texts_of_mapM {pieces : List (List Char)} {labels : List Label}
    (h : pieces.mapM Label.read? = some labels)
    (hascii : ∀ piece ∈ pieces, ∀ c ∈ piece, Label.isAscii c = true) :
    labels.map Label.text = pieces := by
  have hall := mapM_eq_some_iff.mp h
  clear h
  induction hall with
  | nil => rfl
  | cons hl _ ih =>
    rw [List.map_cons, ih fun piece hpiece => hascii piece (List.mem_cons_of_mem _ hpiece),
      text_of_read? hl (List.all_eq_true.mpr (hascii _ List.mem_cons_self))]

/-! ## Names -/

theorem ofLabels?_eq_some {labels : List Label} {name : List Char}
    (h : ofLabels? labels = some name) : name = ['.'].intercalate (labels.map Label.text) := by
  rw [ofLabels?] at h
  split at h
  · cases h
  · exact (Option.some.inj h).symm

theorem mem_intercalate {sep : Char} {pieces : List (List Char)} {c : Char}
    (h : c ∈ [sep].intercalate pieces) : c = sep ∨ ∃ piece ∈ pieces, c ∈ piece := by
  induction pieces with
  | nil => cases h
  | cons piece pieces ih =>
    cases pieces with
    | nil =>
      rw [List.intercalate_singleton] at h
      exact .inr ⟨piece, List.mem_cons_self, h⟩
    | cons next pieces =>
      rw [List.intercalate_cons_cons, List.mem_append, List.mem_append, List.mem_singleton] at h
      obtain (h | h) | h := h
      · exact .inr ⟨piece, List.mem_cons_self, h⟩
      · exact .inl h
      · obtain h | ⟨other, hother, h⟩ := ih h
        · exact .inl h
        · exact .inr ⟨other, List.mem_cons_of_mem _ hother, h⟩

/-- What a name is sent as needs no other spelling in a name. -/
theorem isSent_of_read? {cs name : List Char} (h : read? cs = some name) :
    ∀ c ∈ name, IsSent c := by
  obtain ⟨decoded, -, h⟩ := Option.bind_eq_some_iff.mp h
  obtain ⟨spelled, -, h⟩ := Option.bind_eq_some_iff.mp h
  obtain ⟨labels, hlabels, h⟩ := Option.bind_eq_some_iff.mp h
  intro c hc
  rw [ofLabels?_eq_some h] at hc
  obtain rfl | ⟨text, htext, hc⟩ := mem_intercalate hc
  · decide
  · obtain ⟨l, hl, rfl⟩ := List.mem_map.mp htext
    obtain ⟨piece, -, hpiece⟩ := exists_of_mem_of_mapM hlabels hl
    exact isSent_of_mem_text hpiece c hc

section

variable {name : List Char} (sent : ∀ c ∈ name, IsSent c)
include sent

/-- Without a percent sign nothing is decoded. -/
theorem decode_encode_of_isSent :
    decode (Text.Utf8.encode name) = Text.Utf8.encode name := by
  have hmark : ∀ b ∈ Text.Utf8.encode name, b ≠ 0x25 := by
    intro b hb heq
    obtain ⟨c, hc, hb⟩ := List.mem_flatMap.mp hb
    obtain h | h := Text.Utf8.toNat_of_mem_utf8EncodeChar hb
    · have hpercent : c.toNat = '%'.toNat := h.symm.trans (congrArg UInt8.toNat heq)
      exact (sent c hc).ne (by decide) (Char.toNat_inj.mp hpercent)
    · rw [heq] at h
      exact absurd h (by decide)
  generalize Text.Utf8.encode name = bytes at hmark
  induction bytes using decode.induct with
  | case1 h l rest _ _ _ _ _ => exact absurd rfl (hmark 0x25 List.mem_cons_self)
  | case2 h l rest _ _ => exact absurd rfl (hmark 0x25 List.mem_cons_self)
  | case3 b h l rest hb ih =>
    rw [decode, if_neg hb, ih fun b hb => hmark b (List.mem_cons_of_mem _ hb)]
  | case4 bytes hshort =>
    rw [decode]
    exact hshort

/-- Each character stands for itself, and all of them together. -/
theorem spelled?_of_isSent : spelled? name = some name := by
  have hmeanings : name.mapM meaning? = some (name.map ([·])) := by
    refine mapM_eq_some_iff.mpr (List.forall₂_map_right_iff.mpr (List.forall₂_same.mpr ?_))
    intro c hc
    rw [meaning?, if_pos (sent c hc).toNat_lt, (sent c hc).toLower_eq]
  rw [spelled?, hmeanings, Option.map_some, ← List.flatMap_def, List.flatMap_singleton']
  exact congrArg some (Unicode.normalize_of_ascii fun c hc => (sent c hc).toNat_lt)

/-- **A name that is sent is its own spelling.** -/
theorem eq_of_read? {again : List Char} (h : read? name = some again) : again = name := by
  -- nothing is decoded and nothing replaced, so the labels are those that the name is spelled with
  rw [read?, decode_encode_of_isSent sent, Text.Utf8.decode?_encode, Option.bind_eq_bind,
    Option.bind_some, spelled?_of_isSent sent, Option.bind_some] at h
  obtain ⟨labels, hlabels, h⟩ := Option.bind_eq_some_iff.mp h
  have htexts : labels.map Label.text = name.splitOn '.' := by
    refine texts_of_mapM hlabels fun piece hpiece c hc => (sent c ?_).1
    exact (mem_of_mem_splitOnP hpiece hc).1
  rw [ofLabels?_eq_some h, htexts, List.intercalate_splitOn]

end

end Url.Domain

end QueryClient
