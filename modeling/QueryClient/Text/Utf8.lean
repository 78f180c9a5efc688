/-!
# UTF-8

`encode` writes the bytes of a text and `decode?` reads them back; bytes that are no UTF-8 are
refused as a whole. A text can be cut at a byte offset that is the start of a character or the end
of the text (`IsBoundary`): `before` and `behind` are the two pieces.
-/

namespace QueryClient.Text.Utf8

/-- The UTF-8 bytes of a text. -/
def encode (cs : List Char) : List UInt8 := cs.flatMap String.utf8EncodeChar

/-- The text that a sequence of bytes encodes. -/
def decode? (bytes : List UInt8) : Option (List Char) :=
  (ByteArray.mk bytes.toArray).utf8Decode?.map Array.toList

/-! ### Cutting a text at a byte -/

/-- The texts in front of a byte offset and behind it; nothing if the offset lies beyond the end of
the text or inside a character. -/
def cut? : (offset : Nat) → List Char → Option (List Char × List Char)
  | 0, cs => some ([], cs)
  | _ + 1, [] => none
  | n + 1, c :: cs =>
    if c.utf8Size ≤ n + 1 then
      (cut? (n + 1 - c.utf8Size) cs).map fun pieces => (c :: pieces.1, pieces.2)
    else none

/-- A character starts at the byte offset, or the text ends there. -/
def IsBoundary (cs : List Char) (offset : Nat) : Prop := (cut? offset cs).isSome = true

/-- The text in front of a byte offset. -/
def before (cs : List Char) (offset : Nat) (boundary : IsBoundary cs offset) : List Char :=
  ((cut? offset cs).get boundary).1

/-- The text behind a byte offset. -/
def behind (cs : List Char) (offset : Nat) (boundary : IsBoundary cs offset) : List Char :=
  ((cut? offset cs).get boundary).2

theorem encode_cons (c : Char) (cs : List Char) :
    encode (c :: cs) = String.utf8EncodeChar c ++ encode cs := List.flatMap_cons

theorem encode_append (cs ds : List Char) : encode (cs ++ ds) = encode cs ++ encode ds :=
  List.flatMap_append

/-- A text can be cut behind each of its beginnings, and the pieces are as they were. -/
theorem cut?_append (front back : List Char) :
    cut? (encode front).length (front ++ back) = some (front, back) := by
  induction front with
  | nil => cases back <;> rfl
  | cons c front ih =>
    have hpos : 0 < c.utf8Size := c.utf8Size_pos
    have hlength : (encode (c :: front)).length = c.utf8Size - 1 + (encode front).length + 1 := by
      rw [encode_cons, List.length_append, String.length_utf8EncodeChar]
      omega
    have hrest : c.utf8Size - 1 + (encode front).length + 1 - c.utf8Size = (encode front).length := by
      omega
    rw [hlength, List.cons_append, cut?, if_pos (by omega), hrest, ih]
    rfl

theorem isBoundary_append (front back : List Char) :
    IsBoundary (front ++ back) (encode front).length :=
  Option.isSome_iff_exists.mpr ⟨_, cut?_append front back⟩

theorem before_eq (front back : List Char) {offset : Nat} (h : (encode front).length = offset)
    (boundary : IsBoundary (front ++ back) offset) : before (front ++ back) offset boundary = front := by
  subst h
  simp only [before, cut?_append, Option.get_some]

theorem behind_eq (front back : List Char) {offset : Nat} (h : (encode front).length = offset)
    (boundary : IsBoundary (front ++ back) offset) : behind (front ++ back) offset boundary = back := by
  subst h
  simp only [behind, cut?_append, Option.get_some]

/-- A byte of a character is the character itself, or it is beyond the ASCII bytes. -/
theorem toNat_of_mem_utf8EncodeChar {c : Char} {b : UInt8} (h : b ∈ String.utf8EncodeChar c) :
    b.toNat = c.toNat ∨ 0x80 ≤ b.toNat := by
  unfold String.utf8EncodeChar at h
  simp only at h
  split at h
  · next hv =>
    rw [List.mem_singleton] at h
    subst h
    left
    rw [UInt8.toNat_ofNat']
    exact Nat.mod_eq_of_lt (Nat.lt_of_le_of_lt hv (by decide))
  · right
    -- each of the bytes has one of the high bits set by a summand
    split at h
    · simp only [List.mem_cons, List.not_mem_nil, or_false] at h
      rcases h with rfl | rfl <;> (rw [UInt8.toNat_ofNat']; omega)
    · split at h
      · simp only [List.mem_cons, List.not_mem_nil, or_false] at h
        rcases h with rfl | rfl | rfl <;> (rw [UInt8.toNat_ofNat']; omega)
      · simp only [List.mem_cons, List.not_mem_nil, or_false] at h
        rcases h with rfl | rfl | rfl | rfl <;> (rw [UInt8.toNat_ofNat']; omega)

/-- An ASCII character is written as one byte. -/
theorem encode_cons_of_lt {c : Char} (h : c.toNat < 0x80) (cs : List Char) :
    encode (c :: cs) = c.val.toUInt8 :: encode cs := by
  have hsize : c.utf8Size = 1 :=
    Char.utf8Size_eq_one_iff.mpr (UInt32.le_iff_toNat_le.mpr (Nat.le_of_lt_succ h))
  rw [encode_cons, String.utf8EncodeChar_eq_singleton hsize]
  rfl

/-- An ASCII byte at the start of a text is a character of its own. -/
theorem exists_of_encode_eq_cons {cs : List Char} {b : UInt8} {bytes : List UInt8}
    (h : encode cs = b :: bytes) (hb : b.toNat < 0x80) :
    ∃ c rest, cs = c :: rest ∧ c.toNat = b.toNat ∧ encode rest = bytes := by
  cases cs with
  | nil => cases h
  | cons c rest =>
    have hmem : b ∈ String.utf8EncodeChar c := by
      have hne : String.utf8EncodeChar c ≠ [] :=
        List.length_pos_iff.mp (String.length_utf8EncodeChar c ▸ c.utf8Size_pos)
      obtain ⟨b', more, hmore⟩ := List.exists_cons_of_ne_nil hne
      rw [encode_cons, hmore] at h
      rw [hmore, (List.cons.inj h).1]
      exact List.mem_cons_self
    have hc : c.toNat = b.toNat := by
      rcases toNat_of_mem_utf8EncodeChar hmem with h | h <;> omega
    rw [encode_cons_of_lt (hc ▸ hb)] at h
    exact ⟨c, rest, rfl, hc, (List.cons.inj h).2⟩

end QueryClient.Text.Utf8
