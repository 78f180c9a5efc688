/-!
# Hangul syllables

A Hangul syllable is composed of a leading consonant, a vowel and perhaps a trailing consonant. All
syllables are arranged in this order, so composing and decomposing them is arithmetic on their
codes. Composing the parts of a syllable gives the syllable back (`compose?_of_decompose?_pair`).
-/

namespace QueryClient.Unicode.Hangul

/-- The first syllable. -/
def firstSyllable : Nat := 0xAC00

/-- The first of the 19 leading consonants. -/
def firstLeading : Nat := 0x1100

/-- The first of the 21 vowels. -/
def firstVowel : Nat := 0x1161

/-- The code in front of the 27 trailing consonants; it stands for none. -/
def noTrailing : Nat := 0x11A7

/-- How many syllables there are. -/
def count : Nat := 11172

/-- The parts of a syllable: a leading consonant and a vowel, or a syllable of these two and a
trailing consonant. -/
def decompose? (n : Nat) : Option (Nat × Nat) :=
  if firstSyllable ≤ n ∧ n < firstSyllable + count then
    let i := n - firstSyllable
    if i % 28 = 0 then some (firstLeading + i / 588, firstVowel + i % 588 / 28)
    else some (n - i % 28, noTrailing + i % 28)
  else none

/-- The syllable that two parts compose. -/
def compose? (a b : Nat) : Option Nat :=
  if firstLeading ≤ a ∧ a < firstLeading + 19 ∧ firstVowel ≤ b ∧ b < firstVowel + 21 then
    some (firstSyllable + ((a - firstLeading) * 21 + (b - firstVowel)) * 28)
  else if firstSyllable ≤ a ∧ a < firstSyllable + count ∧ (a - firstSyllable) % 28 = 0 ∧
      noTrailing < b ∧ b < noTrailing + 28 then
    some (a + (b - noTrailing))
  else none

/-- The parts of a syllable compose it. -/
theorem compose?_of_decompose?_pair {n a b : Nat} (h : decompose? n = some (a, b)) :
    compose? a b = some n := by
  unfold decompose? firstSyllable firstLeading firstVowel noTrailing count at h
  unfold compose? firstSyllable firstLeading firstVowel noTrailing count
  split at h
  · dsimp only at h
    split at h
    · simp only [Option.some.injEq, Prod.mk.injEq] at h
      obtain ⟨rfl, rfl⟩ := h
      rw [if_pos (by omega)]
      simp only [Option.some.injEq]
      omega
    · simp only [Option.some.injEq, Prod.mk.injEq] at h
      obtain ⟨rfl, rfl⟩ := h
      rw [if_neg (by omega), if_pos (by omega)]
      simp only [Option.some.injEq]
      omega
  · simp at h

end QueryClient.Unicode.Hangul
