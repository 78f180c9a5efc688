import Mathlib.Data.List.Forall2
import QueryClient.Json.Tree

/-!
# The grammar of JSON texts

What a JSON text is, as a relation on bytes and apart from any reader. A container is written as a
list of items with blanks around them and commas between them (`Enclosed`), which holds for the
elements of an array and the members of an object alike.

The grammar asks nothing of the bytes of a string but that the quote, the backslash and the control
characters are escaped. What a string spells is another matter: `Spells` says it, and is silent on
bytes that are no UTF-8 and on lone surrogates.
-/

namespace QueryClient.Json

/-! ## Leaves -/

/-- A run of blanks. -/
def Blanks (bs : List UInt8) : Prop := ∀ b ∈ bs, Tree.isBlank b = true

theorem blanks_nil : Blanks [] := fun _ h => absurd h List.not_mem_nil

/-- At least one digit. -/
def Digits (bs : List UInt8) : Prop := bs ≠ [] ∧ ∀ b ∈ bs, Ascii.isDigit b = true

/-- The whole part of a number: digits without a leading zero. -/
def WholeText (bs : List UInt8) : Prop := Digits bs ∧ (bs.head? = some Ascii.zero → bs.length = 1)

/-- The fraction of a number, if there is one. -/
inductive FractionText : List UInt8 → Prop
  | none : FractionText []
  | digits {bs} : Digits bs → FractionText (Ascii.point :: bs)

/-- The exponent of a number, if there is one: an `e` of either case, a sign and digits. -/
inductive ExponentText : List UInt8 → Prop
  | none : ExponentText []
  | digits {e sign bs} : e = 0x65 ∨ e = 0x45 → sign = [] ∨ sign = [0x2b] ∨ sign = [0x2d] →
      Digits bs → ExponentText (e :: (sign ++ bs))

/-- A literal or a number. -/
inductive ScalarText : List UInt8 → Prop
  | null : ScalarText [0x6e, 0x75, 0x6c, 0x6c]
  | true : ScalarText [0x74, 0x72, 0x75, 0x65]
  | false : ScalarText [0x66, 0x61, 0x6c, 0x73, 0x65]
  | number {sign whole fraction exponent} : sign = [] ∨ sign = [Ascii.minus] → WholeText whole →
      FractionText fraction → ExponentText exponent →
      ScalarText (sign ++ (whole ++ (fraction ++ exponent)))

/-- What stands between the quotes of a string. -/
inductive StringText : List UInt8 → Prop
  | nil : StringText []
  | plain {b rest} : 0x20 ≤ b → b ≠ Ascii.quote → b ≠ Ascii.backslash → StringText rest →
      StringText (b :: rest)
  | escape {e code rest} : Tree.escapeCode? e = some code → StringText rest →
      StringText (Ascii.backslash :: e :: rest)
  | unit {p q r s code rest} : Tree.hexQuad? p q r s = some code → StringText rest →
      StringText (Ascii.backslash :: 0x75 :: p :: q :: r :: s :: rest)

/-! ## Containers -/

/-- At least one item, with blanks around the items, commas between them and a bracket behind. -/
inductive ItemsTail (close : UInt8) : List (List UInt8) → List UInt8 → Prop
  | last {l item r} : Blanks l → Blanks r → ItemsTail close [item] (l ++ (item ++ (r ++ [close])))
  | more {l item r items tail} : Blanks l → Blanks r → ItemsTail close items tail →
      ItemsTail close (item :: items) (l ++ (item ++ (r ++ Ascii.comma :: tail)))

/-- What follows the opening bracket of a container with the given items. -/
inductive Enclosed (close : UInt8) : List (List UInt8) → List UInt8 → Prop
  | empty {l} : Blanks l → Enclosed close [] (l ++ [close])
  | items {items tail} : ItemsTail close items tail → Enclosed close items tail

/-- A member of an object, given what stands between the quotes of its name and its value. -/
inductive MemberText (name value : List UInt8) : List UInt8 → Prop
  | mk {l r} : Blanks l → Blanks r →
      MemberText name value
        (Ascii.quote :: (name ++ Ascii.quote :: (l ++ Ascii.colon :: (r ++ value))))

/-- The text of a value. -/
inductive ValueText : List UInt8 → Prop
  | scalar {t} : ScalarText t → ValueText t
  | string {s} : StringText s → ValueText (Ascii.quote :: (s ++ [Ascii.quote]))
  | array {items tail} : (∀ item ∈ items, ValueText item) →
      Enclosed Ascii.closeBracket items tail → ValueText (Ascii.openBracket :: tail)
  | object {members texts tail} : (∀ m ∈ members, StringText m.1) →
      (∀ m ∈ members, ValueText m.2) →
      List.Forall₂ (fun (m : List UInt8 × List UInt8) t => MemberText m.1 m.2 t) members texts →
      Enclosed Ascii.closeBrace texts tail → ValueText (Ascii.openBrace :: tail)

/-- The text of an array with the given elements. -/
def ArrayText (elements : List (List UInt8)) (text : List UInt8) : Prop :=
  (∀ e ∈ elements, ValueText e) ∧
    ∃ tail, Enclosed Ascii.closeBracket elements tail ∧ text = Ascii.openBracket :: tail

theorem ArrayText.valueText {elements : List (List UInt8)} {text : List UInt8}
    (h : ArrayText elements text) : ValueText text := by
  obtain ⟨helements, tail, htail, rfl⟩ := h
  exact .array helements htail

/-! ## What strings spell -/

/-- What stands between the quotes of a string, and the characters that it spells. -/
inductive Spells : List UInt8 → List Char → Prop
  | nil : Spells [] []
  | plain {c bs cs} : ' ' ≤ c → c ≠ '"' → c ≠ '\\' → Spells bs cs →
      Spells (String.utf8EncodeChar c ++ bs) (c :: cs)
  | escape {e code bs cs} : Tree.escapeCode? e = some code → Spells bs cs →
      Spells (Ascii.backslash :: e :: bs) (Char.ofNat code :: cs)
  /-- The code unit of a character. -/
  | unit {p q r s code bs cs} : Tree.hexQuad? p q r s = some code →
      code < 0xD800 ∨ 0xDFFF < code → Spells bs cs →
      Spells (Ascii.backslash :: 0x75 :: p :: q :: r :: s :: bs) (Char.ofNat code :: cs)
  /-- The two surrogates of a character. -/
  | pair {p q r s p' q' r' s' high low bs cs} : Tree.hexQuad? p q r s = some high →
      Tree.hexQuad? p' q' r' s' = some low → 0xD800 ≤ high → high < 0xDC00 → 0xDC00 ≤ low →
      low ≤ 0xDFFF → Spells bs cs →
      Spells
        (Ascii.backslash :: 0x75 :: p :: q :: r :: s ::
          Ascii.backslash :: 0x75 :: p' :: q' :: r' :: s' :: bs)
        (Char.ofNat ((high - 0xD800) * 0x400 + (low - 0xDC00) + 0x10000) :: cs)

/-- A member of an object, by what its name spells and the text of its value. -/
def IsMember (m : String × List UInt8) (text : List UInt8) : Prop :=
  ValueText m.2 ∧ ∃ name, Spells name m.1.toList ∧ MemberText name m.2 text

/-- The text of an object with the given members, in order. -/
def ObjectText (members : List (String × List UInt8)) (text : List UInt8) : Prop :=
  ∃ texts l tail r, Blanks l ∧ Blanks r ∧ text = l ++ Ascii.openBrace :: (tail ++ r) ∧
    Enclosed Ascii.closeBrace texts tail ∧ List.Forall₂ IsMember members texts

end QueryClient.Json
