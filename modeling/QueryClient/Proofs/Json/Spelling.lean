import QueryClient.Json.Reader
import QueryClient.Proofs.Json.Grammar

/-!
# Strings are read as what they spell

A string that spells characters is a string by the grammar (`Spells.stringText`), and the reader
makes these characters of it. Main statement: `read?_of_spells`.
-/

namespace QueryClient

/-! ## UTF-8 -/

theorem Text.Utf8.decode?_encode (cs : List Char) : decode? (encode cs) = some cs := by
  have h : ByteArray.mk (encode cs).toArray = cs.utf8Encode := by
    rw [List.utf8Encode, encode]
    exact ByteArray.ext (List.data_toByteArray).symm
  rw [decode?, h, List.utf8Decode?_utf8Encode, Option.map_some, List.toList_toArray]

namespace Json

/-- A byte of a string that stands for itself. -/
def Plain (b : UInt8) : Prop := 0x20 ≤ b ∧ b ≠ Ascii.quote ∧ b ≠ Ascii.backslash

theorem plain_of_mem_utf8EncodeChar {c : Char} (hc : ' ' ≤ c) (hq : c ≠ '"') (hb : c ≠ '\\')
    {b : UInt8} (h : b ∈ String.utf8EncodeChar c) : Plain b := by
  have hc' : 0x20 ≤ c.toNat := hc
  have hq' : c.toNat ≠ 0x22 := fun h => hq (Char.toNat_inj.mp h)
  have hb' : c.toNat ≠ 0x5c := fun h => hb (Char.toNat_inj.mp h)
  have hbyte : 0x20 ≤ b.toNat ∧ b.toNat ≠ 0x22 ∧ b.toNat ≠ 0x5c := by
    rcases Text.Utf8.toNat_of_mem_utf8EncodeChar h with h | h <;> omega
  refine ⟨hbyte.1, ?_, ?_⟩
  · rintro rfl
    exact hbyte.2.1 rfl
  · rintro rfl
    exact hbyte.2.2 rfl

/-! ## What the reader does with a piece of a string -/

theorem readString?_quote (rest : List UInt8) :
    Tree.readString? (Ascii.quote :: rest) = some ([], rest) := by
  rw [Tree.readString?.eq_def]
  simp

theorem readString?_plain {b : UInt8} (h : Plain b) (rest : List UInt8) :
    Tree.readString? (b :: rest) =
      (Tree.readString? rest).map fun r => (.byte b :: r.1, r.2) := by
  have hctl : ¬b < 0x20 := UInt8.not_lt.mpr h.1
  rw [Tree.readString?.eq_def]
  simp only [h.2.1, h.2.2, hctl, if_false]

theorem readString?_escape {e : UInt8} {code : Nat} (h : Tree.escapeCode? e = some code)
    (rest : List UInt8) :
    Tree.readString? (Ascii.backslash :: e :: rest) =
      (Tree.readString? rest).map fun r => (.unit code :: r.1, r.2) := by
  have hu : Tree.escapeCode? 0x75 = none := by decide
  have he : e ≠ 0x75 := by
    rintro rfl
    rw [hu] at h
    exact nomatch h
  have hq : Ascii.backslash ≠ Ascii.quote := by decide
  rw [Tree.readString?.eq_def]
  simp only [hq, he, h, if_false, if_true]

theorem readString?_unit {p q r s : UInt8} {code : Nat} (h : Tree.hexQuad? p q r s = some code)
    (rest : List UInt8) :
    Tree.readString? (Ascii.backslash :: 0x75 :: p :: q :: r :: s :: rest) =
      (Tree.readString? rest).map fun r => (.unit code :: r.1, r.2) := by
  have hq : Ascii.backslash ≠ Ascii.quote := by decide
  rw [Tree.readString?.eq_def]
  simp only [hq, h, if_false, if_true]

theorem stringBytes?_unit {code : Nat} (h : code < 0xD800 ∨ 0xDFFF < code)
    (parts : List StringPart) :
    stringBytes? (.unit code :: parts) =
      (stringBytes? parts).map (String.utf8EncodeChar (Char.ofNat code) ++ ·) := by
  rw [stringBytes?.eq_def]
  simp only [h, if_true]

/-! ## Runs of bytes that stand for themselves -/

theorem StringText.plain_append {bs rest : List UInt8} (h : ∀ b ∈ bs, Plain b)
    (hrest : StringText rest) : StringText (bs ++ rest) := by
  induction bs with
  | nil => exact hrest
  | cons b bs ih =>
    obtain ⟨hc, hq, hb⟩ := h b List.mem_cons_self
    exact .plain hc hq hb (ih fun b' hb' => h b' (List.mem_cons_of_mem b hb'))

theorem readString?_plain_append {bs rest after : List UInt8} {parts : List StringPart}
    (h : ∀ b ∈ bs, Plain b) (hrest : Tree.readString? rest = some (parts, after)) :
    Tree.readString? (bs ++ rest) = some (bs.map .byte ++ parts, after) := by
  induction bs with
  | nil => exact hrest
  | cons b bs ih =>
    rw [List.cons_append, readString?_plain (h b List.mem_cons_self),
      ih fun b' hb' => h b' (List.mem_cons_of_mem b hb')]
    rfl

theorem stringBytes?_bytes_append {bs bytes : List UInt8} {parts : List StringPart}
    (h : stringBytes? parts = some bytes) :
    stringBytes? (bs.map .byte ++ parts) = some (bs ++ bytes) := by
  induction bs with
  | nil => exact h
  | cons b bs ih =>
    rw [List.map_cons, List.cons_append, stringBytes?, ih]
    rfl

/-! ## Strings -/

/-- No escape of a single letter stands for a surrogate. -/
theorem lt_of_escapeCode? {e : UInt8} {code : Nat} (h : Tree.escapeCode? e = some code) :
    code < 0xD800 := by
  unfold Tree.escapeCode? at h
  grind

theorem Spells.stringText {bs : List UInt8} {cs : List Char} (h : Spells bs cs) :
    StringText bs := by
  induction h with
  | nil => exact .nil
  | plain hc hq hb _ ih =>
    exact ih.plain_append fun b hmem => plain_of_mem_utf8EncodeChar hc hq hb hmem
  | escape he _ ih => exact .escape he ih
  | unit hcode _ _ ih => exact .unit hcode ih
  | pair hhigh hlow _ _ _ _ _ ih => exact .unit hhigh (.unit hlow ih)

/-- The reader takes the string apart, and its pieces are the bytes of what it spells. -/
theorem readString?_of_spells {bs : List UInt8} {cs : List Char} (h : Spells bs cs)
    (rest : List UInt8) : ∃ parts,
      Tree.readString? (bs ++ Ascii.quote :: rest) = some (parts, rest) ∧
      stringBytes? parts = some (Text.Utf8.encode cs) := by
  induction h with
  | nil => exact ⟨[], readString?_quote rest, rfl⟩
  | @plain c bs cs hc hq hb _ ih =>
    obtain ⟨parts, hread, hbytes⟩ := ih
    refine ⟨(String.utf8EncodeChar c).map .byte ++ parts, ?_, stringBytes?_bytes_append hbytes⟩
    rw [List.append_assoc]
    exact readString?_plain_append
      (fun b hmem => plain_of_mem_utf8EncodeChar hc hq hb hmem) hread
  | @escape e code bs cs he _ ih =>
    obtain ⟨parts, hread, hbytes⟩ := ih
    refine ⟨.unit code :: parts, ?_, ?_⟩
    · rw [List.cons_append, List.cons_append, readString?_escape he, hread]
      rfl
    · rw [stringBytes?_unit (Or.inl (lt_of_escapeCode? he)), hbytes]
      rfl
  | @unit p q r s code bs cs hcode hrange _ ih =>
    obtain ⟨parts, hread, hbytes⟩ := ih
    refine ⟨.unit code :: parts, ?_, ?_⟩
    · simp only [List.cons_append]
      rw [readString?_unit hcode, hread]
      rfl
    · rw [stringBytes?_unit hrange, hbytes]
      rfl
  | @pair p q r s p' q' r' s' high low bs cs hhigh hlow h1 h2 h3 h4 _ ih =>
    obtain ⟨parts, hread, hbytes⟩ := ih
    refine ⟨.unit high :: .unit low :: parts, ?_, ?_⟩
    · simp only [List.cons_append]
      rw [readString?_unit hhigh, readString?_unit hlow, hread]
      rfl
    · -- the two units make up one character only together
      have hsurrogate : ¬(high < 0xD800 ∨ 0xDFFF < high) := by omega
      rw [stringBytes?, if_neg hsurrogate, if_pos h2]
      simp only [h3, h4, and_self, if_true, hbytes]
      rfl

theorem readValue?_of_readScalar? {b : UInt8} {tail rest : List UInt8} {t : Tree}
    (hbracket : b ≠ Ascii.openBracket) (hbrace : b ≠ Ascii.openBrace)
    (h : Tree.readScalar? (b :: tail) = some (t, rest)) :
    Tree.readValue? (b :: tail) = some (t, ⟨rest, Tree.length_of_readScalar? h⟩) := by
  rw [Tree.readValue?.eq_def]
  simp only [hbracket, hbrace, if_false]
  split
  · next t' rest' h' =>
    rw [h] at h'
    obtain ⟨rfl, rfl⟩ := Prod.mk.inj (Option.some.inj h')
    rfl
  · next h' =>
    rw [h] at h'
    cases h'

/-- **A string that spells a text is read as that text.** -/
theorem read?_of_spells {bs : List UInt8} {cs : List Char} (h : Spells bs cs) :
    ∃ parts, Tree.read? (Ascii.quote :: (bs ++ [Ascii.quote])) = some (.string parts) ∧
      stringOf? parts = some (String.ofList cs) := by
  obtain ⟨parts, hread, hbytes⟩ := readString?_of_spells h []
  refine ⟨parts, ?_, ?_⟩
  · have hscalar : Tree.readScalar? (Ascii.quote :: (bs ++ [Ascii.quote])) =
        some (.string parts, []) := by
      rw [Tree.readScalar?, if_pos rfl, hread]
      rfl
    have hvalue : Tree.readValue?
        (Tree.skipBlanks (Ascii.quote :: (bs ++ [Ascii.quote]))) =
          some (.string parts, ⟨[], Tree.length_of_readScalar? hscalar⟩) :=
      readValue?_of_readScalar? (by decide) (by decide) hscalar
    rw [Tree.read?, hvalue]
    rfl
  · rw [stringOf?, hbytes, Option.bind_some, Text.Utf8.decode?_encode]
    rfl

end Json

end QueryClient
