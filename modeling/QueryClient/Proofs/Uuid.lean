import QueryClient.Proofs.Text.Digits
import QueryClient.Uuid

/-!
# Identifiers read back from their text

The hyphenated form gives back its five groups of digits (`dropHyphens?_joined`), and these the
identifier. Main statement: `read?_text`.
-/

namespace QueryClient.Uuid

/-- Five groups of digits, joined by hyphens. -/
def joined (a b c d e : List Char) : List Char :=
  a ++ '-' :: b ++ '-' :: c ++ '-' :: d ++ '-' :: e

variable {a b c d e : List Char}

theorem length_joined (ha : a.length = 8) (hb : b.length = 4) (hc : c.length = 4)
    (hd : d.length = 4) (he : e.length = 12) : (joined a b c d e).length = 36 := by
  simp [joined, ha, hb, hc, hd, he]

theorem dropHyphens?_joined (ha : a.length = 8) (hb : b.length = 4) (hc : c.length = 4)
    (hd : d.length = 4) (he : e.length = 12) :
    dropHyphens? (joined a b c d e) = some (a ++ b ++ c ++ d ++ e) := by
  have h8 : (joined a b c d e)[8]? = some '-' := by
    simp [joined, ha]
  have h13 : (joined a b c d e)[13]? = some '-' := by
    simp [joined, List.getElem?_append, ha, hb]
  have h18 : (joined a b c d e)[18]? = some '-' := by
    simp [joined, List.getElem?_append, ha, hb, hc]
  have h23 : (joined a b c d e)[23]? = some '-' := by
    simp [joined, List.getElem?_append, ha, hb, hc, hd]
  simp only [dropHyphens?, length_joined ha hb hc hd he, h8, h13, h18, h23]
  simp (disch := omega) [joined, List.drop_append, List.drop_eq_nil_of_le, ha, hb, hc, hd]

/-- The digits of an identifier fall into the groups of its text. -/
theorem text_eq_joined (u : Uuid) : ∃ a b c d e, u.text = joined a b c d e ∧
    Text.hexText 32 u.bits.toNat = a ++ b ++ c ++ d ++ e ∧
    a.length = 8 ∧ b.length = 4 ∧ c.length = 4 ∧ d.length = 4 ∧ e.length = 12 := by
  have hlen := Text.length_hexText 32 u.bits.toNat
  unfold text
  generalize Text.hexText 32 u.bits.toNat = digits at *
  refine ⟨digits.take 8, (digits.drop 8).take 4, (digits.drop 12).take 4, (digits.drop 16).take 4,
    digits.drop 20, rfl, ?_, ?_⟩
  · -- take one group after the other off the front of what is left
    have h8 : digits = digits.take 8 ++ digits.drop 8 := (List.take_append_drop 8 digits).symm
    have next (n : Nat) : digits.drop n = (digits.drop n).take 4 ++ digits.drop (n + 4) := by
      rw [← List.drop_drop, List.take_append_drop]
    simp only [List.append_assoc, ← next]
    exact h8
  · simp [hlen]

theorem ofDigits?_hexText (u : Uuid) : ofDigits? (Text.hexText 32 u.bits.toNat) = some u := by
  have hlt : u.bits.toNat < 16 ^ 32 := u.bits.isLt
  rw [ofDigits?, if_pos (Text.length_hexText _ _), Text.readHex?_hexText, Nat.mod_eq_of_lt hlt]
  simp

theorem read?_of_length {cs : List Char} (h : cs.length = 36) : read? cs = readHyphenated? cs := by
  simp only [read?, h]

/-- **An identifier is read back from its text.** -/
theorem read?_text (u : Uuid) : read? u.text = some u := by
  obtain ⟨a, b, c, d, e, htext, hdigits, ha, hb, hc, hd, he⟩ := text_eq_joined u
  rw [htext, read?_of_length (length_joined ha hb hc hd he), readHyphenated?,
    dropHyphens?_joined ha hb hc hd he, Option.bind_some, ← hdigits]
  exact ofDigits?_hexText u

end QueryClient.Uuid
