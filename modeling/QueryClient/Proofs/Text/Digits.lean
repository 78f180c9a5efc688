import Mathlib.Algebra.Group.Nat.Defs
import Mathlib.Tactic.IntervalCases
import QueryClient.Text.Hex
import QueryClient.Text.Numeral

/-!
# Numbers read back from their digits

What `Text.intText` writes is read back by `Text.readInt?` (`readInt?_intText`), and what
`Text.hexText` writes by `Text.readHex?` (`readHex?_hexText`).
-/

namespace QueryClient.Text

/-! ## Decimal digits -/

theorem range_of_isDigit {c : Char} (h : isDigit c = true) :
    0x30 ≤ c.toNat ∧ c.toNat ≤ 0x39 := by
  simpa [isDigit, Char.isDigit, UInt32.le_iff_toNat_le] using h

/-- Every digit is one that a number below ten is written with. -/
theorem digitChar_of_isDigit {c : Char} (h : isDigit c = true) :
    ∃ n < 10, Nat.digitChar n = c := by
  have range := range_of_isDigit h
  have hc : Char.ofNat c.toNat = c := Char.ofNat_toNat c
  refine ⟨c.toNat - 0x30, by omega, ?_⟩
  rw [← hc]
  generalize c.toNat = n at range
  obtain ⟨hlow, hhigh⟩ := range
  interval_cases n <;> rfl

/-- A run of digits, possibly empty. -/
def Digits (cs : List Char) : Prop := ∀ c ∈ cs, isDigit c = true

theorem digits_nil : Digits [] := fun _ h => absurd h List.not_mem_nil

theorem digits_append_iff {front back : List Char} :
    Digits (front ++ back) ↔ Digits front ∧ Digits back := List.forall_mem_append

theorem Digits.not_mem {cs : List Char} (h : Digits cs) {c : Char} (hc : isDigit c = false) :
    c ∉ cs :=
  fun hmem => absurd (h c hmem) (by rw [hc]; exact Bool.false_ne_true)

theorem digits_replicate (n : Nat) : Digits (List.replicate n '0') := by
  intro c hc
  rw [List.eq_of_mem_replicate hc]
  rfl

theorem readNat?_eq_some_iff {cs : List Char} {n : Nat} :
    readNat? cs = some n ↔ Digits cs ∧ cs ≠ [] ∧ Nat.ofDigitChars 10 cs 0 = n := by
  unfold readNat?
  split
  · next h =>
    simp only [reduceCtorEq, false_iff]
    rintro ⟨digits, nonempty, -⟩
    have hall : cs.all isDigit = true := List.all_eq_true.mpr digits
    simp [hall, nonempty] at h
  · next h =>
    simp only [Bool.or_eq_true, List.isEmpty_iff, Bool.not_eq_true', not_or,
      Bool.not_eq_false] at h
    rw [Option.some_inj]
    exact ⟨fun hn => ⟨List.all_eq_true.mp h.2, h.1, hn⟩, fun hn => hn.2.2⟩

theorem natText_ne_nil (n : Nat) : natText n ≠ [] := Nat.toDigits_ne_nil

theorem isDigit_of_mem_natText {n : Nat} {c : Char} (h : c ∈ natText n) : isDigit c = true :=
  Nat.isDigit_of_mem_toDigits (by decide) (by decide) h

theorem readNat?_natText (n : Nat) : readNat? (natText n) = some n :=
  readNat?_eq_some_iff.mpr
    ⟨fun _ => isDigit_of_mem_natText, natText_ne_nil n, Nat.ofDigitChars_ten_toDigits⟩

theorem readNat?_padded (width n : Nat) : readNat? (padded width n) = some n := by
  refine readNat?_eq_some_iff.mpr ⟨digits_append_iff.mpr ⟨digits_replicate _, ?_⟩, ?_, ?_⟩
  · exact fun _ => isDigit_of_mem_natText
  · exact List.append_ne_nil_of_right_ne_nil _ (natText_ne_nil n)
  · rw [padded, Nat.ofDigitChars_append, Nat.ofDigitChars_replicate_zero, Nat.mul_zero]
    exact Nat.ofDigitChars_ten_toDigits

theorem length_padded {width n : Nat} (hwidth : 0 < width) (h : n < 10 ^ width) :
    (padded width n).length = width := by
  have hn : (natText n).length ≤ width := (Nat.length_toDigits_le_iff (by decide) hwidth).mpr h
  rw [padded, List.length_append, List.length_replicate]
  omega

/-- Digits alone are read without a sign. -/
theorem readInt?_of_digits {cs : List Char} (h : Digits cs) :
    readInt? cs = (readNat? cs).map fun n : Nat => (n : Int) := by
  unfold readInt?
  split
  · exact absurd (h '-' List.mem_cons_self) (by decide)
  · exact absurd (h '+' List.mem_cons_self) (by decide)
  · rfl

theorem readInt?_intText (n : Int) : readInt? (intText n) = some n := by
  unfold intText
  split
  · next hn =>
    simp only [readInt?, readNat?_natText, Option.map_some]
    exact congrArg some (by omega)
  · next hn =>
    rw [readInt?_of_digits fun _ => isDigit_of_mem_natText, readNat?_natText, Option.map_some]
    exact congrArg some (by omega)

theorem readWithin?_intText {low high n : Int} (hlow : low ≤ n) (hhigh : n < high) :
    readWithin? low high (intText n) = some n := by
  rw [readWithin?, readInt?_intText, Option.filter_some]
  simp [hlow, hhigh]

/-! ## Hexadecimal digits -/

theorem length_hexText (width n : Nat) : (hexText width n).length = width := by
  induction width generalizing n with
  | zero => rfl
  | succ width ih => rw [hexText, List.length_append, ih, List.length_singleton]

theorem hexValue?_digitChar : ∀ d < 16, hexValue? (Nat.digitChar d) = some d := by decide

/-- Digits are read from the left: what follows shifts what has been read. -/
theorem readHex?_append_digitChar {cs : List Char} {m d : Nat} (h : readHex? cs = some m)
    (hd : d < 16) : readHex? (cs ++ [Nat.digitChar d]) = some (16 * m + d) := by
  rw [readHex?, List.foldlM_append]
  rw [readHex?] at h
  simp [h, hexValue?_digitChar d hd]

theorem readHex?_hexText (width n : Nat) : readHex? (hexText width n) = some (n % 16 ^ width) := by
  induction width generalizing n with
  | zero => simp [hexText, readHex?, Nat.mod_one]
  | succ width ih =>
    rw [hexText, readHex?_append_digitChar (ih (n / 16)) (Nat.mod_lt _ (by decide))]
    rw [Nat.pow_succ', Nat.mod_mul]
    exact congrArg some (Nat.add_comm _ _)

/-- Digits without leading zeros are read in the same way. -/
theorem readHex?_toDigits (n : Nat) : readHex? (Nat.toDigits 16 n) = some n := by
  induction n using Nat.strongRecOn with
  | ind n ih =>
    rw [Nat.toDigits_eq_if (by decide)]
    split
    · next h => simp [readHex?, hexValue?_digitChar n h]
    · next h =>
      rw [readHex?_append_digitChar (ih (n / 16) (by omega)) (Nat.mod_lt _ (by decide))]
      exact congrArg some (Nat.div_add_mod n 16)

theorem hexValue?_lt {c : Char} {d : Nat} (h : hexValue? c = some d) : d < 16 := by
  unfold hexValue? at h
  simp only [Char.le_def, UInt32.le_iff_toNat_le] at h
  change (if 48 ≤ c.toNat ∧ c.toNat ≤ 57 then some (c.toNat - 48)
    else if 97 ≤ c.toNat ∧ c.toNat ≤ 102 then some (c.toNat - 97 + 10)
    else if 65 ≤ c.toNat ∧ c.toNat ≤ 70 then some (c.toNat - 65 + 10) else none) = some d at h
  split at h
  · have := Option.some.inj h
    omega
  · split at h
    · have := Option.some.inj h
      omega
    · split at h
      · have := Option.some.inj h
        omega
      · cases h

/-- A number is read from digits only, and as large as their count allows. The digits come behind
a number `m` that has been read. -/
theorem foldlM_hexValue? {cs : List Char} {m n : Nat}
    (h : cs.foldlM (fun n c => (hexValue? c).map fun d => 16 * n + d) m = some n) :
    (∀ c ∈ cs, hexValue? c ≠ none) ∧ n < (m + 1) * 16 ^ cs.length := by
  induction cs generalizing m with
  | nil =>
    obtain rfl := Option.some.inj h
    exact ⟨fun _ hc => absurd hc List.not_mem_nil, by simp⟩
  | cons c cs ih =>
    rw [List.foldlM_cons] at h
    obtain ⟨next, hnext, h⟩ := Option.bind_eq_some_iff.mp h
    obtain ⟨d, hd, rfl⟩ := Option.map_eq_some_iff.mp hnext
    obtain ⟨hcs, hn⟩ := ih h
    have hd16 := hexValue?_lt hd
    refine ⟨List.forall_mem_cons.mpr ⟨by rw [hd]; exact Option.some_ne_none d, hcs⟩, ?_⟩
    calc n < (16 * m + d + 1) * 16 ^ cs.length := hn
      _ ≤ ((m + 1) * 16) * 16 ^ cs.length := Nat.mul_le_mul_right _ (by omega)
      _ = (m + 1) * 16 ^ (cs.length + 1) := by rw [Nat.mul_assoc, ← Nat.pow_succ']

theorem readHex?_lt {cs : List Char} {n : Nat} (h : readHex? cs = some n) :
    n < 16 ^ cs.length := by
  have hn := (foldlM_hexValue? h).2
  rwa [Nat.zero_add, Nat.one_mul] at hn

theorem not_mem_of_readHex? {cs : List Char} {n : Nat} (h : readHex? cs = some n) {c : Char}
    (hc : hexValue? c = none) : c ∉ cs :=
  fun hmem => (foldlM_hexValue? h).1 c hmem hc

end QueryClient.Text
