import QueryClient.Getter
import QueryClient.Proofs.Decimal.Grammar

/-!
# Which texts are decimals

`Decimal.read` answers every text whose exponent can be handled: with a decimal if the text spells
one and its exponent and scale are in bounds (`Accepted`), and otherwise with a refusal. Two kinds of
texts overflow the 64-bit arithmetic instead. Main statement: `read_answers`.
-/

namespace QueryClient.Decimal

open Text

/-! ## What is made of the parts -/

namespace Parts

/-- The digits of the decimal. -/
def digits (p : Parts) : List Char :=
  significant (p.whole ++ p.fraction ++ List.replicate p.zeros '0')

/-- The decimal that is made of the parts. -/
def decimal (p : Parts) : Decimal :=
  ⟨p.negative && p.digits != ['0'], p.digits, p.places.toNat⟩

/-- The exponent and the scale are in bounds. -/
structure Fits (p : Parts) : Prop where
  exponent : p.exponent.natAbs ≤ 10000
  scale : p.places < 4294967296

end Parts

/-- The text spells a decimal, with an exponent and a scale that are in bounds. -/
def Accepted (cs : List Char) : Prop := ∃ p, Written cs p ∧ p.Fits

/-- The text spells a decimal with more digits behind the point than a 64-bit integer can count. -/
def Immense (cs : List Char) : Prop :=
  ∃ p, Written cs p ∧ p.exponent.natAbs ≤ 10000 ∧ 9223372036854775808 ≤ p.places

theorem ofParts_eq {p : Parts} (h : p.exponent.natAbs ≤ 10000) :
    ofParts p =
      if 9223372036854775808 ≤ p.places then .error .overflow
      else if scaleEnd ≤ p.places then .error .malformed
      else .ok p.decimal := by
  have hplaces : p.places = p.fraction.length - p.exponent := rfl
  rw [ofParts, narrow]
  by_cases hhigh : 9223372036854775808 ≤ p.places
  · rw [if_pos hhigh, if_neg (by omega)]
    rfl
  · rw [if_neg hhigh, if_pos (by omega)]
    rfl

/-! ## The outcomes -/

/-- An exponent that is in bounds leaves few zeros to be written. -/
theorem zeros_le {p : Parts} (h : p.exponent.natAbs ≤ 10000) : p.zeros ≤ 10000 := by
  have hzeros : p.zeros = (-p.places).toNat := rfl
  have hplaces : p.places = p.fraction.length - p.exponent := rfl
  omega

theorem read_of_written {cs : List Char} {p : Parts} (h : Written cs p)
    (hbound : p.exponent.natAbs ≤ 10000) : read cs = ofParts p := by
  rw [read, parts_eq_ok_iff.mpr ⟨h, hbound⟩]
  rfl

theorem read_eq_ok_iff {cs : List Char} {d : Decimal} :
    read cs = .ok d ↔ ∃ p, Written cs p ∧ p.Fits ∧ p.decimal = d := by
  have hend : scaleEnd = 4294967296 := rfl
  constructor
  · intro h
    cases hparts : parts cs with
    | error e =>
      rw [read, hparts] at h
      cases h
    | ok p =>
      obtain ⟨hwritten, hbound⟩ := parts_eq_ok_iff.mp hparts
      rw [read_of_written hwritten hbound, ofParts_eq hbound] at h
      split at h
      · cases h
      · split at h
        · cases h
        · exact ⟨p, hwritten, ⟨hbound, by omega⟩, Except.ok.inj h⟩
  · rintro ⟨p, hwritten, fits, rfl⟩
    have hscale := fits.scale
    rw [read_of_written hwritten fits.exponent, ofParts_eq fits.exponent, if_neg (by omega),
      if_neg (by omega)]

theorem read_eq_overflow_iff {cs : List Char} :
    read cs = .error .overflow ↔ LeastExponent cs ∨ Immense cs := by
  constructor
  · intro h
    cases hparts : parts cs with
    | error e =>
      rw [read, hparts] at h
      obtain rfl := Except.error.inj h
      exact .inl (parts_eq_overflow_iff.mp hparts)
    | ok p =>
      obtain ⟨hwritten, hbound⟩ := parts_eq_ok_iff.mp hparts
      rw [read_of_written hwritten hbound, ofParts_eq hbound] at h
      split at h
      · next hplaces => exact .inr ⟨p, hwritten, hbound, hplaces⟩
      · exfalso
        split at h <;> cases h
  · rintro (h | ⟨p, hwritten, hbound, hplaces⟩)
    · rw [read, parts_eq_overflow_iff.mpr h]
      rfl
    · rw [read_of_written hwritten hbound, ofParts_eq hbound, if_pos hplaces]

theorem exists_read_iff {cs : List Char} : (∃ d, read cs = .ok d) ↔ Accepted cs := by
  constructor
  · rintro ⟨d, h⟩
    obtain ⟨p, hwritten, fits, -⟩ := read_eq_ok_iff.mp h
    exact ⟨p, hwritten, fits⟩
  · rintro ⟨p, hwritten, fits⟩
    exact ⟨p.decimal, read_eq_ok_iff.mpr ⟨p, hwritten, fits, rfl⟩⟩

/-- The refusals are what is left. -/
theorem read_eq_malformed_iff {cs : List Char} :
    read cs = .error .malformed ↔ ¬Accepted cs ∧ ¬LeastExponent cs ∧ ¬Immense cs := by
  rw [← not_or, ← read_eq_overflow_iff, ← exists_read_iff]
  rcases hread : read cs with e | d
  · cases e <;> simp
  · simp

/-! ## How long a text has to be -/

theorem length_trim_le (cs : List Char) : (trim cs).length ≤ cs.length := by
  have hstart : (trimStart cs).length ≤ cs.length := (List.dropWhile_suffix isBlank).length_le
  have hend : ((trimStart cs).reverse.dropWhile isBlank).length ≤ (trimStart cs).reverse.length :=
    (List.dropWhile_suffix isBlank).length_le
  rw [List.length_reverse] at hend
  rw [trim, trimEnd, List.length_reverse]
  omega

theorem MantissaText.length_fraction_le {whole fraction cs : List Char}
    (h : MantissaText whole fraction cs) : fraction.length ≤ cs.length := by
  cases h with
  | bare => exact Nat.zero_le _
  | pointed =>
    rw [List.length_append, List.length_cons]
    omega

theorem Written.length_fraction_le {cs : List Char} {p : Parts} (h : Written cs p) :
    p.fraction.length ≤ cs.length := by
  have htrim := length_trim_le cs
  cases h with
  | of signs hm _ =>
    obtain ⟨front, hcs, -⟩ := exists_front_of_signedText signs
    have hlength := congrArg List.length hcs
    have hfraction := hm.length_fraction_le
    simp only [List.length_append] at hlength
    dsimp only
    omega

theorem Immense.length_le {cs : List Char} (h : Immense cs) :
    9223372036854775808 ≤ cs.length + 10000 := by
  obtain ⟨p, hwritten, hbound, hplaces⟩ := h
  have hlength := hwritten.length_fraction_le
  have hp : p.places = p.fraction.length - p.exponent := rfl
  omega

/-! ## The answers -/

/-- A text is read as a decimal if and only if it spells one with an exponent and a scale that are
in bounds; no more than ten thousand zeros are ever written behind its digits. Every other text is
refused, but for two kinds that overflow. One has the least 64-bit integer as its exponent. The
other would have to be longer than any memory. A string column read as a decimal does the same. -/
theorem read_answers (cs : List Char) :
    ((∃ d, read cs = .ok d) ↔ Accepted cs) ∧
    (read cs = .error .malformed ↔ ¬Accepted cs ∧ ¬LeastExponent cs ∧ ¬Immense cs) ∧
    (read cs = .error .overflow ↔ LeastExponent cs ∨ Immense cs) ∧
    (Immense cs → 9223372036854775808 ≤ cs.length + 10000) ∧
    (∀ p, parts cs = .ok p → p.zeros ≤ 10000) ∧
    ∀ column : Column,
      Getter.toDecimal (.string (String.ofList cs)) column =
        match read cs with
        | .ok d => some (.ok d)
        | .error .malformed => some (.error (.typeMismatch column.name "decimal" "string"))
        | .error .overflow => none := by
  refine ⟨exists_read_iff, read_eq_malformed_iff, read_eq_overflow_iff, Immense.length_le,
    fun p h => zeros_le (parts_eq_ok_iff.mp h).2, fun column => ?_⟩
  have htext : (Value.string (String.ofList cs)).text.toList = cs := by
    show (String.ofList (String.ofList cs).toList).toList = cs
    rw [String.toList_ofList, String.toList_ofList]
  rw [Getter.toDecimal, htext]
  rcases read cs with e | d
  · cases e <;> rfl
  · rfl

/-! ### The least exponent -/

/-- The exponent is nothing but far out of bounds, and the text is not refused. -/
theorem least_exponent_overflows :
    read "1e-9223372036854775808".toList = .error .overflow ∧
    Getter.toDecimal (.string "1e-9223372036854775808") ⟨"price", .string, true⟩ = none :=
  ⟨rfl, rfl⟩

/-- Its neighbours are. -/
example :
    read "1e-9223372036854775809".toList = .error .malformed ∧
    read "1e-9223372036854775807".toList = .error .malformed := ⟨rfl, rfl⟩

end QueryClient.Decimal
