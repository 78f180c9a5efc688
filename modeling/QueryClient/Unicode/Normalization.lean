import QueryClient.Unicode.CombiningClass
import QueryClient.Unicode.Decomposition

/-!
# Canonical composition

A text may be spelled in several ways: a letter with an accent is one character or two, and marks
may stand in different orders. `normalize` brings a text to the spelling in which as much as
possible is composed: it takes all characters apart, puts the marks in order, and puts together
what composes. A text in ASCII is left as it is (`normalize_of_ascii`).
-/

namespace QueryClient.Unicode

/-! ### Taking apart -/

/-- How often the parts of a character may have parts themselves. -/
def decompositionDepth : Nat := 3

/-- The characters that a character stands for, taken apart at most `depth` times. -/
def decompose : (depth : Nat) → Char → List Char
  | 0, c => [c]
  | depth + 1, c =>
    match parts? c with
    | none => [c]
    | some parts => parts.flatMap (decompose depth)

/-! ### Order of marks -/

/-- Put a character in front of a text whose marks are in order. A mark goes behind those of lower
classes. -/
def placeMark (c : Char) : List Char → List Char
  | [] => [c]
  | d :: rest =>
    if 0 < combiningClass d ∧ combiningClass d < combiningClass c then d :: placeMark c rest
    else c :: d :: rest

/-- Put the marks behind each starter in the order of their classes. -/
def orderMarks (cs : List Char) : List Char := cs.foldr placeMark []

/-! ### Putting together -/

/-- Compose a text behind a starter and those marks behind it, the last one first, that do not
compose with it. A character composes with the starter unless a mark between them is of its class
or a higher one. -/
def composeAfter (starter : Char) (marks : List Char) : List Char → List Char
  | [] => starter :: marks.reverse
  | c :: rest =>
    let blocked :=
      match marks with
      | [] => false
      | mark :: _ => combiningClass c ≤ combiningClass mark
    match if blocked then none else composite? starter c with
    | some whole => composeAfter whole marks rest
    | none =>
      if isStarter c then starter :: (marks.reverse ++ composeAfter c [] rest)
      else composeAfter starter (c :: marks) rest

/-- Compose a text whose marks are in order. -/
def compose : List Char → List Char
  | [] => []
  | c :: rest => if isStarter c then composeAfter c [] rest else c :: compose rest

/-- The composed spelling of a text. -/
def normalize (cs : List Char) : List Char :=
  compose (orderMarks (cs.flatMap (decompose decompositionDepth)))

/-! ### Texts in ASCII -/

theorem combiningClass_of_ascii {c : Char} (h : c.toNat < 0x80) : combiningClass c = 0 := by
  rw [combiningClass, if_pos (by omega)]

theorem decompose_of_ascii {c : Char} (h : c.toNat < 0x80) (depth : Nat) :
    decompose depth c = [c] := by
  cases depth with
  | zero => rfl
  | succ depth => rw [decompose, parts?, if_pos (by omega)]

theorem composite?_of_ascii (a : Char) {b : Char} (h : b.toNat < 0x80) : composite? a b = none := by
  rw [composite?, if_pos (by omega)]

theorem flatMap_decompose_of_ascii {cs : List Char} (h : ∀ c ∈ cs, c.toNat < 0x80) (depth : Nat) :
    cs.flatMap (decompose depth) = cs := by
  induction cs with
  | nil => rfl
  | cons c rest ih =>
    rw [List.flatMap_cons, decompose_of_ascii (h c List.mem_cons_self),
      ih fun d hd => h d (List.mem_cons_of_mem c hd)]
    rfl

theorem orderMarks_of_ascii {cs : List Char} (h : ∀ c ∈ cs, c.toNat < 0x80) :
    orderMarks cs = cs := by
  induction cs with
  | nil => rfl
  | cons c rest ih =>
    have hrest : orderMarks rest = rest := ih fun d hd => h d (List.mem_cons_of_mem c hd)
    rw [orderMarks, List.foldr_cons, ← orderMarks, hrest]
    cases rest with
    | nil => rfl
    | cons d rest =>
      have hd : combiningClass d = 0 :=
        combiningClass_of_ascii (h d (List.mem_cons_of_mem c List.mem_cons_self))
      rw [placeMark, if_neg (by omega)]

theorem composeAfter_of_ascii (starter : Char) {cs : List Char} (h : ∀ c ∈ cs, c.toNat < 0x80) :
    composeAfter starter [] cs = starter :: cs := by
  induction cs generalizing starter with
  | nil => rfl
  | cons c rest ih =>
    have hc := h c List.mem_cons_self
    have hrest := ih c fun d hd => h d (List.mem_cons_of_mem c hd)
    simp [composeAfter, composite?_of_ascii starter hc, isStarter, combiningClass_of_ascii hc, hrest]

theorem compose_of_ascii {cs : List Char} (h : ∀ c ∈ cs, c.toNat < 0x80) : compose cs = cs := by
  cases cs with
  | nil => rfl
  | cons c rest =>
    have hc := combiningClass_of_ascii (h c List.mem_cons_self)
    rw [compose, isStarter, if_pos (by simp [hc])]
    exact composeAfter_of_ascii c fun d hd => h d (List.mem_cons_of_mem c hd)

/-- A text in ASCII is its own composed spelling. -/
theorem normalize_of_ascii {cs : List Char} (h : ∀ c ∈ cs, c.toNat < 0x80) : normalize cs = cs := by
  rw [normalize, flatMap_decompose_of_ascii h, orderMarks_of_ascii h, compose_of_ascii h]

end QueryClient.Unicode
