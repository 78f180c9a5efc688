import QueryClient.Text.Ascii

/-!
# JSON text by its grammar

`Tree.read?` reads a byte sequence by the grammar of JSON alone: numbers and strings stay as
written, so a tree may still hold numbers out of range, unpaired surrogates or bytes that are no
UTF-8, and an object may repeat a name. Each reader returns what follows the part it has read,
which is always shorter than its input.
-/

namespace QueryClient.Json

/-- A number as written. -/
structure Numeral where
  /-- Whether a minus sign stands in front. -/
  negative : Bool
  /-- The digits in front of the point. -/
  whole : List UInt8
  /-- The digits after the point, none if there is no point. -/
  fraction : List UInt8
  /-- The sign and the digits of the exponent. -/
  exponent : Option (Bool × List UInt8)
  deriving DecidableEq

/-- A piece of a string: a byte that stands for itself, or an escape for a UTF-16 code unit. -/
inductive StringPart where
  | byte (b : UInt8)
  | unit (code : Nat)
  deriving DecidableEq

/-- A JSON text, parsed by the grammar. -/
inductive Tree where
  | null
  | bool (b : Bool)
  | number (n : Numeral)
  | string (parts : List StringPart)
  | array (items : List Tree)
  | object (members : List (List StringPart × Tree))

namespace Tree

/-- A part read from an input, and what follows it. -/
abbrev Reading (α : Type) (input : List UInt8) :=
  Option (α × { rest : List UInt8 // rest.length < input.length })

/-- Blank, tab, line feed or carriage return. -/
def isBlank (b : UInt8) : Bool := b == 0x20 || b == 0x09 || b == 0x0a || b == 0x0d

/-- The input without the blanks at its start. -/
def skipBlanks (input : List UInt8) : List UInt8 := input.dropWhile isBlank

theorem length_dropWhile_le {α : Type} (p : α → Bool) :
    ∀ l : List α, (l.dropWhile p).length ≤ l.length
  | [] => Nat.le_refl _
  | a :: l => by
    rw [List.dropWhile_cons]
    split
    · exact Nat.le_succ_of_le (length_dropWhile_le p l)
    · exact Nat.le_refl _

theorem length_skipBlanks_le (input : List UInt8) :
    (skipBlanks input).length ≤ input.length :=
  length_dropWhile_le _ _

/-! ### Literals -/

/-- What follows a literal at the start of the input. -/
def dropLiteral? : (literal input : List UInt8) → Option (List UInt8)
  | [], input => some input
  | _ :: _, [] => none
  | a :: literal, b :: input => if a = b then dropLiteral? literal input else none

theorem length_of_dropLiteral? {literal input rest : List UInt8}
    (h : dropLiteral? literal input = some rest) : rest.length ≤ input.length := by
  induction literal generalizing input with
  | nil => simp_all [dropLiteral?]
  | cons a literal ih =>
    cases input with
    | nil => simp [dropLiteral?] at h
    | cons b input =>
      simp only [dropLiteral?] at h
      split at h
      · exact Nat.le_succ_of_le (ih h)
      · simp at h

/-! ### Numbers -/

/-- The digits at the start of the input, and what follows them. -/
def spanDigits (input : List UInt8) : List UInt8 × List UInt8 :=
  (input.takeWhile Ascii.isDigit, input.dropWhile Ascii.isDigit)

theorem length_spanDigits_le (input : List UInt8) :
    (spanDigits input).2.length ≤ input.length :=
  length_dropWhile_le _ _

/-- The whole part: a zero alone, or digits that do not start with one. -/
def readWhole? (input : List UInt8) : Option (List UInt8 × List UInt8) :=
  match spanDigits input with
  | ([], _) => none
  | (first :: digits, rest) =>
    if first = Ascii.zero ∧ digits ≠ [] then none else some (first :: digits, rest)

/-- The fraction: nothing, or a point with at least one digit. -/
def readFraction? : (input : List UInt8) → Option (List UInt8 × List UInt8)
  | [] => some ([], [])
  | b :: tail =>
    if b = Ascii.point then
      match spanDigits tail with
      | ([], _) => none
      | (digits, rest) => some (digits, rest)
    else some ([], b :: tail)

/-- Whether an exponent is negative, and what follows its sign. -/
def exponentSign : (input : List UInt8) → Bool × List UInt8
  | [] => (false, [])
  | b :: tail =>
    if b = 0x2d then (true, tail) else if b = 0x2b then (false, tail) else (false, b :: tail)

/-- The exponent: nothing, or the letter with an optional sign and at least one digit. -/
def readExponent? : (input : List UInt8) → Option (Option (Bool × List UInt8) × List UInt8)
  | [] => some (none, [])
  | b :: tail =>
    if b = 0x65 ∨ b = 0x45 then
      match spanDigits (exponentSign tail).2 with
      | ([], _) => none
      | (digits, rest) => some (some ((exponentSign tail).1, digits), rest)
    else some (none, b :: tail)

theorem length_of_readWhole? {input digits rest : List UInt8}
    (h : readWhole? input = some (digits, rest)) : rest.length < input.length := by
  have hs : (spanDigits input).1 ++ (spanDigits input).2 = input := List.takeWhile_append_dropWhile
  unfold readWhole? at h
  split at h
  · simp at h
  · next heq =>
    split at h
    · simp at h
    · rw [heq] at hs
      simp only [Option.some.injEq, Prod.mk.injEq] at h
      obtain ⟨-, rfl⟩ := h
      rw [← hs]
      simp only [List.length_append, List.length_cons]
      omega

theorem length_of_readFraction? {input digits rest : List UInt8}
    (h : readFraction? input = some (digits, rest)) : rest.length ≤ input.length := by
  cases input with
  | nil => simp_all [readFraction?]
  | cons b tail =>
    have hs := length_spanDigits_le tail
    simp only [readFraction?] at h
    split at h
    · split at h
      · simp at h
      · next heq =>
        rw [heq] at hs
        simp only [Option.some.injEq, Prod.mk.injEq] at h
        obtain ⟨-, rfl⟩ := h
        exact Nat.le_succ_of_le hs
    · simp_all

theorem length_exponentSign_le (input : List UInt8) :
    (exponentSign input).2.length ≤ input.length := by
  unfold exponentSign
  split
  · exact Nat.le_refl _
  · split
    · simp
    · split <;> simp

theorem length_of_readExponent? {input rest : List UInt8} {e : Option (Bool × List UInt8)}
    (h : readExponent? input = some (e, rest)) : rest.length ≤ input.length := by
  cases input with
  | nil => simp_all [readExponent?]
  | cons b tail =>
    have hs := length_spanDigits_le (exponentSign tail).2
    have he := length_exponentSign_le tail
    simp only [readExponent?] at h
    split at h
    · split at h
      · simp at h
      · next heq =>
        rw [heq] at hs
        simp only [Option.some.injEq, Prod.mk.injEq] at h
        obtain ⟨-, rfl⟩ := h
        exact Nat.le_succ_of_le (Nat.le_trans hs he)
    · simp_all

/-- A number without its sign. -/
def readUnsigned? (negative : Bool) (input : List UInt8) : Option (Numeral × List UInt8) := do
  let (whole, afterWhole) ← readWhole? input
  let (fraction, afterFraction) ← readFraction? afterWhole
  let (exponent, rest) ← readExponent? afterFraction
  return (⟨negative, whole, fraction, exponent⟩, rest)

theorem length_of_readUnsigned? {negative : Bool} {input rest : List UInt8} {n : Numeral}
    (h : readUnsigned? negative input = some (n, rest)) : rest.length < input.length := by
  simp only [readUnsigned?, bind, Option.bind_eq_some_iff, Prod.exists, pure, Option.some.injEq,
    Prod.mk.injEq] at h
  obtain ⟨_, _, h1, _, _, h2, _, _, h3, -, rfl⟩ := h
  have := length_of_readWhole? h1
  have := length_of_readFraction? h2
  have := length_of_readExponent? h3
  omega

/-! ### Strings -/

/-- The code unit of a single-letter escape. -/
def escapeCode? (b : UInt8) : Option Nat :=
  if b = 0x22 then some 0x22
  else if b = 0x5c then some 0x5c
  else if b = 0x2f then some 0x2f
  else if b = 0x62 then some 0x08
  else if b = 0x66 then some 0x0c
  else if b = 0x6e then some 0x0a
  else if b = 0x72 then some 0x0d
  else if b = 0x74 then some 0x09
  else none

/-- The number written by four hexadecimal digits. -/
def hexQuad? (a b c d : UInt8) : Option Nat := do
  let w ← Ascii.hexValue? a
  let x ← Ascii.hexValue? b
  let y ← Ascii.hexValue? c
  let z ← Ascii.hexValue? d
  return ((w * 16 + x) * 16 + y) * 16 + z

/-- The pieces of a string, from behind its opening quote to its closing one, and what follows.
Control characters have to be escaped. -/
def readString? : (input : List UInt8) → Option (List StringPart × List UInt8)
  | [] => none
  | b :: tail =>
    if b = Ascii.quote then some ([], tail)
    else if b = Ascii.backslash then
      match tail with
      | [] => none
      | e :: rest =>
        if e = 0x75 then
          match rest with
          | h1 :: h2 :: h3 :: h4 :: more =>
            match hexQuad? h1 h2 h3 h4 with
            | some code => (readString? more).map fun r => (.unit code :: r.1, r.2)
            | none => none
          | _ => none
        else
          match escapeCode? e with
          | some code => (readString? rest).map fun r => (.unit code :: r.1, r.2)
          | none => none
    else if b < 0x20 then none
    else (readString? tail).map fun r => (.byte b :: r.1, r.2)

theorem length_of_readString? {input rest : List UInt8} {parts : List StringPart}
    (h : readString? input = some (parts, rest)) : rest.length < input.length := by
  fun_induction readString? input generalizing parts <;> simp_all <;> grind

/-! ### Values -/

/-- A value without children at the start of the input. -/
def readScalar? (input : List UInt8) : Option (Tree × List UInt8) :=
  match input with
  | [] => none
  | b :: tail =>
    if b = Ascii.quote then (readString? tail).map fun r => (.string r.1, r.2)
    else if b = Ascii.minus then (readUnsigned? true tail).map fun r => (.number r.1, r.2)
    else if Ascii.isDigit b then
      match readUnsigned? false (b :: tail) with
      | some (n, rest) => some (.number n, rest)
      | none => none
    else if b = 0x6e then (dropLiteral? [0x75, 0x6c, 0x6c] tail).map fun r => (.null, r)
    else if b = 0x74 then (dropLiteral? [0x72, 0x75, 0x65] tail).map fun r => (.bool true, r)
    else if b = 0x66 then
      (dropLiteral? [0x61, 0x6c, 0x73, 0x65] tail).map fun r => (.bool false, r)
    else none

theorem length_of_readScalar? {input rest : List UInt8} {t : Tree}
    (h : readScalar? input = some (t, rest)) : rest.length < input.length := by
  unfold readScalar? at h
  split at h
  · simp at h
  · next b tail =>
    simp only [List.length_cons]
    split at h
    · simp only [Option.map_eq_some_iff, Prod.mk.injEq, Prod.exists] at h
      obtain ⟨_, _, hr, -, rfl⟩ := h
      exact Nat.lt_succ_of_lt (length_of_readString? hr)
    split at h
    · simp only [Option.map_eq_some_iff, Prod.mk.injEq, Prod.exists] at h
      obtain ⟨_, _, hr, -, rfl⟩ := h
      exact Nat.lt_succ_of_lt (length_of_readUnsigned? hr)
    split at h
    · split at h
      · next hr =>
        simp only [Option.some.injEq, Prod.mk.injEq] at h
        obtain ⟨-, rfl⟩ := h
        exact length_of_readUnsigned? hr
      · simp at h
    split at h
    · simp only [Option.map_eq_some_iff, Prod.mk.injEq] at h
      obtain ⟨_, hr, -, rfl⟩ := h
      exact Nat.lt_succ_of_le (length_of_dropLiteral? hr)
    split at h
    · simp only [Option.map_eq_some_iff, Prod.mk.injEq] at h
      obtain ⟨_, hr, -, rfl⟩ := h
      exact Nat.lt_succ_of_le (length_of_dropLiteral? hr)
    split at h
    · simp only [Option.map_eq_some_iff, Prod.mk.injEq] at h
      obtain ⟨_, hr, -, rfl⟩ := h
      exact Nat.lt_succ_of_le (length_of_dropLiteral? hr)
    · simp at h

mutual

/-- A value at the start of the input, which has no blanks in front of it. -/
def readValue? (input : List UInt8) : Reading Tree input :=
  match input with
  | [] => none
  | b :: tail =>
    if b = Ascii.openBracket then
      match h : skipBlanks tail with
      | [] => none
      | c :: rest =>
        have hlen : rest.length < tail.length := by
          have := length_skipBlanks_le tail
          rw [h, List.length_cons] at this
          omega
        if c = Ascii.closeBracket then some (.array [], ⟨rest, Nat.lt_succ_of_lt hlen⟩)
        else
          match readItems? tail with
          | some (items, ⟨after, ha⟩) => some (.array items, ⟨after, Nat.lt_succ_of_lt ha⟩)
          | none => none
    else if b = Ascii.openBrace then
      match h : skipBlanks tail with
      | [] => none
      | c :: rest =>
        have hlen : rest.length < tail.length := by
          have := length_skipBlanks_le tail
          rw [h, List.length_cons] at this
          omega
        if c = Ascii.closeBrace then some (.object [], ⟨rest, Nat.lt_succ_of_lt hlen⟩)
        else
          match readMembers? tail with
          | some (members, ⟨after, ha⟩) =>
            some (.object members, ⟨after, Nat.lt_succ_of_lt ha⟩)
          | none => none
    else
      match h : readScalar? (b :: tail) with
      | some (t, rest) => some (t, ⟨rest, length_of_readScalar? h⟩)
      | none => none
termination_by (input.length, 0)
decreasing_by all_goals exact Prod.Lex.left _ _ (Nat.lt_succ_self _)

/-- One or more values with commas between them and a closing bracket after them. -/
def readItems? (input : List UInt8) : Reading (List Tree) input :=
  match readValue? (skipBlanks input) with
  | none => none
  | some (t, ⟨rest, hr⟩) =>
    have hin := length_skipBlanks_le input
    match h : skipBlanks rest with
    | [] => none
    | c :: more =>
      have hlen : more.length < input.length := by
        have := length_skipBlanks_le rest
        rw [h, List.length_cons] at this
        omega
      if c = Ascii.closeBracket then some ([t], ⟨more, hlen⟩)
      else if c = Ascii.comma then
        match readItems? more with
        | some (items, ⟨after, ha⟩) => some (t :: items, ⟨after, Nat.lt_trans ha hlen⟩)
        | none => none
      else none
termination_by (input.length, 1)
decreasing_by
  · rcases Nat.lt_or_eq_of_le (length_skipBlanks_le input) with hlt | heq
    · exact Prod.Lex.left _ _ hlt
    · rw [heq]
      exact Prod.Lex.right _ Nat.zero_lt_one
  · exact Prod.Lex.left _ _ hlen

/-- One or more members with commas between them and a closing brace after them. -/
def readMembers? (input : List UInt8) : Reading (List (List StringPart × Tree)) input :=
  match hname : skipBlanks input with
  | [] => none
  | q :: afterQuote =>
    if q = Ascii.quote then
      match hstr : readString? afterQuote with
      | none => none
      | some (name, afterName) =>
        match hcolon : skipBlanks afterName with
        | [] => none
        | k :: afterColon =>
          have hstart : afterColon.length < input.length := by
            have h1 := length_skipBlanks_le input
            have h2 := length_of_readString? hstr
            have h3 := length_skipBlanks_le afterName
            rw [hname, List.length_cons] at h1
            rw [hcolon, List.length_cons] at h3
            omega
          if k = Ascii.colon then
            match readValue? (skipBlanks afterColon) with
            | none => none
            | some (t, ⟨rest, hr⟩) =>
              have hv := length_skipBlanks_le afterColon
              match h : skipBlanks rest with
              | [] => none
              | c :: more =>
                have hlen : more.length < input.length := by
                  have := length_skipBlanks_le rest
                  rw [h, List.length_cons] at this
                  omega
                if c = Ascii.closeBrace then some ([(name, t)], ⟨more, hlen⟩)
                else if c = Ascii.comma then
                  match readMembers? more with
                  | some (members, ⟨after, ha⟩) =>
                    some ((name, t) :: members, ⟨after, Nat.lt_trans ha hlen⟩)
                  | none => none
                else none
          else none
    else none
termination_by (input.length, 1)
decreasing_by
  · exact Prod.Lex.left _ _ (Nat.lt_of_le_of_lt (length_skipBlanks_le afterColon) hstart)
  · exact Prod.Lex.left _ _ hlen

end

/-- The tree of a byte sequence that is one value with blanks around it. -/
def read? (input : List UInt8) : Option Tree :=
  match readValue? (skipBlanks input) with
  | some (t, ⟨rest, _⟩) => if (skipBlanks rest).isEmpty then some t else none
  | none => none

end Tree

end QueryClient.Json
