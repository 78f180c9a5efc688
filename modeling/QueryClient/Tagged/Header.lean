import QueryClient.Text.Ascii
import QueryClient.Text.Hex
import QueryClient.Text.Utf8

/-!
# The tag in front of a payload

A tagged text starts with two hexadecimal digits and a colon. They are looked for among the bytes
of the text (`isHeaded`), and the text is cut at the byte offsets around the colon. Where the three
bytes are found each is a character of its own (`isHeaded_iff`), so that the cuts are possible.
-/

namespace QueryClient.Tagged

open Text.Utf8

/-- The first two bytes of a text are hexadecimal digits and the third is a colon. -/
def isHeaded (text : List Char) : Bool :=
  let bytes := encode text
  if h : 3 ≤ bytes.length then bytes[2] == Ascii.colon && (bytes.take 2).all Ascii.isHexDigit
  else false

/-! ### Characters and bytes -/

/-- The value of the hexadecimal digit with a code, be it of a character or a byte. -/
def digitOfCode? (n : Nat) : Option Nat :=
  if 48 ≤ n ∧ n ≤ 57 then some (n - 48)
  else if 97 ≤ n ∧ n ≤ 102 then some (n - 97 + 10)
  else if 65 ≤ n ∧ n ≤ 70 then some (n - 65 + 10)
  else none

theorem hexValue?_char (c : Char) : Text.hexValue? c = digitOfCode? c.toNat := rfl

theorem hexValue?_byte (b : UInt8) : Ascii.hexValue? b = digitOfCode? b.toNat := by
  have h : Ascii.hexValue? b =
      if 48 ≤ b.toNat ∧ b.toNat ≤ 57 then some (b.toNat - 48)
      else if 65 ≤ b.toNat ∧ b.toNat ≤ 70 then some (b.toNat - 65 + 10)
      else if 97 ≤ b.toNat ∧ b.toNat ≤ 102 then some (b.toNat - 97 + 10)
      else none := rfl
  -- the letters of the two cases are tried in the other order
  rw [h, digitOfCode?]
  grind

theorem lt_of_digitOfCode? {n d : Nat} (h : digitOfCode? n = some d) : n < 0x80 := by
  unfold digitOfCode? at h
  grind

/-- A byte that is a hexadecimal digit is a character, the same digit. -/
theorem exists_digit_of_encode {cs : List Char} {b : UInt8} {bytes : List UInt8}
    (h : encode cs = b :: bytes) (hb : Ascii.isHexDigit b = true) :
    ∃ c d rest, cs = c :: rest ∧ Text.hexValue? c = some d ∧ encode rest = bytes := by
  obtain ⟨d, hd⟩ := Option.isSome_iff_exists.mp hb
  rw [hexValue?_byte] at hd
  obtain ⟨c, rest, hcs, hc, hrest⟩ := exists_of_encode_eq_cons h (lt_of_digitOfCode? hd)
  exact ⟨c, d, rest, hcs, (hexValue?_char c).trans (hc ▸ hd), hrest⟩

/-- A hexadecimal digit is written as one byte, the same digit. -/
theorem encode_digit {c : Char} {d : Nat} (h : Text.hexValue? c = some d) :
    ∃ b, Ascii.isHexDigit b = true ∧ ∀ cs, encode (c :: cs) = b :: encode cs := by
  have hlt : c.toNat < 0x80 := lt_of_digitOfCode? h
  have hcode : c.val.toUInt8.toNat = c.toNat :=
    (UInt32.toNat_toUInt8 c.val).trans (Nat.mod_eq_of_lt (Nat.lt_trans hlt (by decide)))
  refine ⟨c.val.toUInt8, ?_, encode_cons_of_lt hlt⟩
  rw [Ascii.isHexDigit, hexValue?_byte, hcode, ← hexValue?_char, h]
  rfl

/-! ### The header -/

/-- The three bytes of a header are three characters. -/
theorem isHeaded_iff {text : List Char} :
    isHeaded text = true ↔ ∃ a b high low payload, text = a :: b :: ':' :: payload ∧
      Text.hexValue? a = some high ∧ Text.hexValue? b = some low := by
  constructor
  · intro h
    unfold isHeaded at h
    match hbytes : encode text with
    | x :: y :: z :: bytes =>
      simp only [hbytes, List.length_cons] at h
      rw [dif_pos (by omega)] at h
      simp only [List.getElem_cons_succ, List.getElem_cons_zero, List.take_succ_cons,
        List.take_zero, List.all_cons, List.all_nil, Bool.and_true, Bool.and_eq_true,
        beq_iff_eq] at h
      obtain ⟨rfl, hx, hy⟩ := h
      obtain ⟨a, high, rest, rfl, ha, hrest⟩ := exists_digit_of_encode hbytes hx
      obtain ⟨b, low, rest, rfl, hb, hrest⟩ := exists_digit_of_encode hrest hy
      obtain ⟨c, payload, rfl, hc, -⟩ := exists_of_encode_eq_cons hrest (by decide)
      obtain rfl : c = ':' := Char.toNat_inj.mp hc
      exact ⟨a, b, high, low, payload, rfl, ha, hb⟩
    | [] | [_] | [_, _] => simp [hbytes] at h
  · rintro ⟨a, b, high, low, payload, rfl, ha, hb⟩
    obtain ⟨x, hx, hax⟩ := encode_digit ha
    obtain ⟨y, hy, hby⟩ := encode_digit hb
    have hbytes : encode (a :: b :: ':' :: payload) = x :: y :: Ascii.colon :: encode payload := by
      rw [hax, hby, encode_cons_of_lt (by decide)]
      rfl
    simp [isHeaded, hbytes, hx, hy]

theorem length_encode_digits {a b : Char} {high low : Nat} (ha : Text.hexValue? a = some high)
    (hb : Text.hexValue? b = some low) : (encode [a, b]).length = 2 := by
  obtain ⟨x, -, hax⟩ := encode_digit ha
  obtain ⟨y, -, hby⟩ := encode_digit hb
  rw [hax, hby]
  rfl

theorem length_encode_header {a b : Char} {high low : Nat} (ha : Text.hexValue? a = some high)
    (hb : Text.hexValue? b = some low) : (encode [a, b, ':']).length = 3 := by
  show (encode ([a, b] ++ [':'])).length = 3
  rw [encode_append, List.length_append, length_encode_digits ha hb]
  rfl

section

variable {text : List Char} (headed : isHeaded text = true)
include headed

/-- The text can be cut behind the digits. -/
theorem isBoundary_two : IsBoundary text 2 := by
  obtain ⟨a, b, high, low, payload, rfl, ha, hb⟩ := isHeaded_iff.mp headed
  exact length_encode_digits ha hb ▸ isBoundary_append [a, b] (':' :: payload)

/-- The text can be cut behind the colon. -/
theorem isBoundary_three : IsBoundary text 3 := by
  obtain ⟨a, b, high, low, payload, rfl, ha, hb⟩ := isHeaded_iff.mp headed
  exact length_encode_header ha hb ▸ isBoundary_append [a, b, ':'] payload

end

/-- The digits of the tag: what stands in front of the byte offset 2. -/
def tagDigits (text : List Char) (headed : isHeaded text = true) : List Char :=
  before text 2 (isBoundary_two headed)

/-- What stands behind the colon, from the byte offset 3 on. -/
def payload (text : List Char) (headed : isHeaded text = true) : List Char :=
  behind text 3 (isBoundary_three headed)

section

variable {a b : Char} {high low : Nat} {rest : List Char} (ha : Text.hexValue? a = some high)
  (hb : Text.hexValue? b = some low)
include ha hb

theorem tagDigits_cons (headed : isHeaded (a :: b :: ':' :: rest) = true) :
    tagDigits (a :: b :: ':' :: rest) headed = [a, b] :=
  before_eq [a, b] (':' :: rest) (length_encode_digits ha hb) _

theorem payload_cons (headed : isHeaded (a :: b :: ':' :: rest) = true) :
    payload (a :: b :: ':' :: rest) headed = rest :=
  behind_eq [a, b, ':'] rest (length_encode_header ha hb) _

end

end QueryClient.Tagged
