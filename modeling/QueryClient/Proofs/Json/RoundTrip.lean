import QueryClient.Json.Printer
import QueryClient.Proofs.Json.Spelling
import QueryClient.Proofs.Members
import QueryClient.Proofs.Text.Digits

/-!
# Values are read back from their compact text

`Json.bytes` is the compact text of a value, byte by byte. It is a text by the grammar
(`valueText_bytes`), and the strict reader makes the value of it again (`read?_bytes`), unless it
nests too deep or has a double in it, whose last bit may be lost.
-/

namespace QueryClient

/-! ## Digits -/

namespace Text

/-- A decimal digit in UTF-8 is the byte of its code. -/
theorem utf8EncodeChar_of_isDigit {c : Char} (h : isDigit c = true) :
    ∃ b, String.utf8EncodeChar c = [b] ∧ b.toNat = c.toNat := by
  have range := range_of_isDigit h
  have low : c.val.toNat ≤ 0x7f := by
    show c.toNat ≤ 0x7f
    omega
  refine ⟨UInt8.ofNat c.toNat, ?_, ?_⟩
  · unfold String.utf8EncodeChar
    simp only [low, if_true]
    rfl
  · rw [UInt8.toNat_ofNat']
    omega

/-- Digits and their bytes, one by one. -/
theorem forall₂_encode {cs : List Char} (h : ∀ c ∈ cs, isDigit c = true) :
    List.Forall₂ (fun (c : Char) (b : UInt8) => b.toNat = c.toNat) cs (Utf8.encode cs) := by
  induction cs with
  | nil => exact .nil
  | cons c cs ih =>
    obtain ⟨b, hbytes, hb⟩ := utf8EncodeChar_of_isDigit (h c List.mem_cons_self)
    have rest := ih fun d hd => h d (List.mem_cons_of_mem c hd)
    rw [Utf8.encode, List.flatMap_cons, hbytes]
    exact .cons hb rest

/-- The digits of a number, as bytes. -/
def digitBytes (n : Nat) : List UInt8 := Utf8.encode (natText n)

theorem forall₂_digitBytes (n : Nat) :
    List.Forall₂ (fun (c : Char) (b : UInt8) => b.toNat = c.toNat) (natText n) (digitBytes n) :=
  forall₂_encode fun _ => isDigit_of_mem_natText

theorem isDigit_of_mem_digitBytes {n : Nat} {b : UInt8} (h : b ∈ digitBytes n) :
    Ascii.isDigit b = true := by
  obtain ⟨c, hc, hb⟩ := List.mem_flatMap.mp h
  have digit := isDigit_of_mem_natText hc
  have range := range_of_isDigit digit
  obtain ⟨b', hbytes, hb'⟩ := utf8EncodeChar_of_isDigit digit
  rw [hbytes, List.mem_singleton] at hb
  rw [hb]
  simp [Ascii.isDigit, UInt8.le_iff_toNat_le, hb', range]

theorem foldl_digitBytes (n : Nat) :
    (digitBytes n).foldl (fun v d => v * 10 + Ascii.digitValue d) 0 = n := by
  have read : (natText n).foldl (fun v c => 10 * v + (c.toNat - '0'.toNat)) 0 = n :=
    Nat.ofDigitChars_ten_toDigits
  have same : ∀ {cs : List Char} {bs : List UInt8} (v : Nat),
      List.Forall₂ (fun (c : Char) (b : UInt8) => b.toNat = c.toNat) cs bs →
      bs.foldl (fun v d => v * 10 + Ascii.digitValue d) v =
        cs.foldl (fun v c => 10 * v + (c.toNat - '0'.toNat)) v := by
    intro cs bs v h
    induction h generalizing v with
    | nil => rfl
    | @cons c b cs bs hb _ ih =>
      rw [List.foldl_cons, List.foldl_cons, ih, Ascii.digitValue, hb, Nat.mul_comm]
      rfl
  rw [same 0 (forall₂_digitBytes n), read]

theorem eq_zero_of_digitChar : ∀ d < 10, Nat.digitChar d = '0' → d = 0 := by decide

/-- Only the zero starts with one. -/
theorem eq_zero_of_head_natText {n : Nat} (h : (natText n).head? = some '0') : n = 0 := by
  induction n using Nat.strongRecOn with
  | _ n ih =>
    rcases Nat.lt_or_ge n 10 with hn | hn
    · rw [natText, Nat.toDigits_of_lt_base hn] at h
      exact eq_zero_of_digitChar n hn (Option.some.inj h)
    · have split : natText n = natText (n / 10) ++ [Nat.digitChar (n % 10)] :=
        Nat.toDigits_of_base_le (by decide) hn
      obtain ⟨c, cs, hcs⟩ := List.exists_cons_of_ne_nil (natText_ne_nil (n / 10))
      have front : (natText (n / 10)).head? = some '0' := by
        rw [split, hcs] at h
        rw [hcs]
        exact h
      have := ih (n / 10) (by omega) front
      omega

end Text

namespace Json

open Text (digitBytes natText)

/-- The digits of a number are the whole part of one by the grammar. -/
theorem wholeText_digitBytes (n : Nat) : WholeText (digitBytes n) := by
  have pairs := Text.forall₂_digitBytes n
  obtain ⟨c, cs, hcs⟩ := List.exists_cons_of_ne_nil (Text.natText_ne_nil n)
  rw [hcs] at pairs
  obtain ⟨b, bs, hb, hrest, hbs⟩ := List.forall₂_cons_left_iff.mp pairs
  refine ⟨⟨?_, fun b => Text.isDigit_of_mem_digitBytes⟩, fun h => ?_⟩
  · rw [hbs]
    exact List.cons_ne_nil b bs
  · rw [hbs, List.head?_cons, Option.some.injEq] at h
    have zero : c = '0' := by
      rw [h] at hb
      exact Char.toNat_inj.mp hb.symm
    have none_else : n = 0 := Text.eq_zero_of_head_natText (by rw [hcs, zero]; rfl)
    rw [none_else]
    rfl

/-! ## Numbers -/

/-- What comes next does not go on with a number. -/
def EndsNumber (rest : List UInt8) : Prop :=
  ∀ b, rest.head? = some b →
    Ascii.isDigit b = false ∧ b ≠ Ascii.point ∧ ¬(b = 0x65 ∨ b = 0x45)

theorem endsNumber_nil : EndsNumber [] := by
  intro b h
  exact nomatch h

theorem endsNumber_cons {b : UInt8} (h : b = Ascii.comma ∨ b = Ascii.closeBracket ∨
    b = Ascii.closeBrace) (rest : List UInt8) : EndsNumber (b :: rest) := by
  intro b' hb'
  obtain rfl := Option.some.inj hb'
  rcases h with rfl | rfl | rfl <;> decide

theorem readUnsigned?_digitBytes (negative : Bool) (n : Nat) {rest : List UInt8}
    (hrest : EndsNumber rest) :
    Tree.readUnsigned? negative (digitBytes n ++ rest) =
      some (⟨negative, digitBytes n, [], none⟩, rest) := by
  obtain ⟨⟨nonempty, digits⟩, leading⟩ := wholeText_digitBytes n
  have stop : rest.takeWhile Ascii.isDigit = [] ∧ rest.dropWhile Ascii.isDigit = rest := by
    cases rest with
    | nil => exact ⟨rfl, rfl⟩
    | cons b rest =>
      have hb := (hrest b rfl).1
      simp [hb]
  have span : Tree.spanDigits (digitBytes n ++ rest) = (digitBytes n, rest) := by
    rw [Tree.spanDigits, List.takeWhile_append_of_pos digits, List.dropWhile_append_of_pos digits,
      stop.1, stop.2, List.append_nil]
  have whole : Tree.readWhole? (digitBytes n ++ rest) = some (digitBytes n, rest) := by
    obtain ⟨b, bs, hbs⟩ := List.exists_cons_of_ne_nil nonempty
    rw [Tree.readWhole?, span, hbs]
    refine if_neg ?_
    rintro ⟨rfl, hne⟩
    have single := leading (by rw [hbs]; rfl)
    rw [hbs, List.length_cons, Nat.succ.injEq, List.length_eq_zero_iff] at single
    exact hne single
  have fraction : Tree.readFraction? rest = some ([], rest) := by
    cases rest with
    | nil => rfl
    | cons b rest => exact if_neg (hrest b rfl).2.1
  have exponent : Tree.readExponent? rest = some (none, rest) := by
    cases rest with
    | nil => rfl
    | cons b rest => exact if_neg (hrest b rfl).2.2
  simp [Tree.readUnsigned?, whole, fraction, exponent]

/-- An integer is read back from its digits and its sign. -/
theorem numberOf?_digitBytes (w : Whole) :
    numberOf? ⟨decide (w.val < 0), digitBytes w.val.natAbs, [], none⟩ = some (.int w) := by
  have whole : wholeOf? ⟨decide (w.val < 0), digitBytes w.val.natAbs, [], none⟩ = some w := by
    have fits : Whole.ofInt? w.val = some w := dif_pos ⟨w.low, w.high⟩
    unfold wholeOf?
    simp only [and_self, if_true, Text.foldl_digitBytes]
    by_cases hneg : w.val < 0
    · have abs : (w.val.natAbs : Int) = -w.val := by omega
      have nonzero : ¬(-w.val = 0) := by omega
      simp only [hneg, decide_true, if_true, abs, nonzero, if_false, Int.neg_neg, fits]
    · have abs : (w.val.natAbs : Int) = w.val := by omega
      simp only [hneg, decide_false, if_false, abs, fits, Bool.false_eq_true]
  rw [numberOf?, whole]

/-! ## Strings -/

/-- The byte of a hexadecimal digit. -/
def hexByte (d : Nat) : UInt8 := UInt8.ofNat (Nat.digitChar d).toNat

/-- The code of a control character in four hexadecimal digits. -/
theorem encode_hexText_control : ∀ n < 0x20,
    Text.Utf8.encode ('\\' :: 'u' :: Text.hexText 4 n) =
      [Ascii.backslash, 0x75, 0x30, 0x30, hexByte (n / 16), hexByte (n % 16)] ∧
    Tree.hexQuad? 0x30 0x30 (hexByte (n / 16)) (hexByte (n % 16)) = some n := by
  decide

/-- What an escaped character spells. -/
theorem spells_escape (c : Char) {bs : List UInt8} {cs : List Char} (h : Spells bs cs) :
    Spells (Text.Utf8.encode (escape c) ++ bs) (c :: cs) := by
  unfold escape
  split
  · next hc =>
    subst hc
    exact @Spells.escape 0x22 0x22 _ _ rfl h
  split
  · next hc =>
    subst hc
    exact @Spells.escape 0x5c 0x5c _ _ rfl h
  split
  · next hc =>
    subst hc
    exact @Spells.escape 0x62 0x08 _ _ rfl h
  split
  · next hc =>
    subst hc
    exact @Spells.escape 0x66 0x0c _ _ rfl h
  split
  · next hc =>
    subst hc
    exact @Spells.escape 0x6e 0x0a _ _ rfl h
  split
  · next hc =>
    subst hc
    exact @Spells.escape 0x72 0x0d _ _ rfl h
  split
  · next hc =>
    subst hc
    exact @Spells.escape 0x74 0x09 _ _ rfl h
  split
  · next hc =>
    obtain ⟨hbytes, hquad⟩ := encode_hexText_control c.toNat hc
    have spelled := Spells.unit hquad (Or.inl (by omega)) h
    rw [hbytes]
    rwa [Char.ofNat_toNat] at spelled
  · next hquote hbackslash _ _ _ _ _ hc =>
    have printable : ' ' ≤ c := Nat.not_lt.mp hc
    have spelled := Spells.plain printable hquote hbackslash h
    rwa [Text.Utf8.encode, List.flatMap_singleton]

/-- What stands between the quotes of a string, as bytes. -/
def spelling (s : String) : List UInt8 := Text.Utf8.encode (s.toList.flatMap escape)

/-- The text between the quotes spells the string. -/
theorem spells_spelling (s : String) : Spells (spelling s) s.toList := by
  unfold spelling
  induction s.toList with
  | nil => exact .nil
  | cons c cs ih =>
    have spelled := spells_escape c ih
    rwa [List.flatMap_cons, Text.Utf8.encode, List.flatMap_append]

theorem stringOf?_of_bytes {parts : List StringPart} {s : String}
    (h : stringBytes? parts = some (Text.Utf8.encode s.toList)) : stringOf? parts = some s := by
  rw [stringOf?, h, Option.bind_some, Text.Utf8.decode?_encode, Option.map_some,
    String.ofList_toList]

/-- A string is read back from behind its opening quote. -/
theorem readString?_spelling (s : String) (rest : List UInt8) : ∃ parts,
    Tree.readString? (spelling s ++ Ascii.quote :: rest) = some (parts, rest) ∧
      stringOf? parts = some s := by
  obtain ⟨parts, hread, hbytes⟩ := readString?_of_spells (spells_spelling s) rest
  exact ⟨parts, hread, stringOf?_of_bytes hbytes⟩

/-! ## Reading with what follows

The readers carry the proof that what follows is shorter. It is left out here, so that what is read
and what follows are said in one equation. -/

namespace Tree

/-- What a reader makes of its input, and what follows. -/
def outcome {α : Type} {input : List UInt8} (r : Reading α input) : Option (α × List UInt8) :=
  r.map fun read => (read.1, read.2.val)

theorem eq_of_outcome {α : Type} {input : List UInt8} {r : Reading α input} {a : α}
    {rest : List UInt8} (h : outcome r = some (a, rest)) : ∃ hlen, r = some (a, ⟨rest, hlen⟩) := by
  obtain ⟨⟨a', rest', hlen⟩, rfl, heq⟩ := Option.map_eq_some_iff.mp h
  obtain ⟨rfl, rfl⟩ := Prod.mk.inj heq
  exact ⟨hlen, rfl⟩

theorem skipBlanks_cons {b : UInt8} (h : isBlank b = false) (bs : List UInt8) :
    skipBlanks (b :: bs) = b :: bs := by
  simp [skipBlanks, h]

theorem outcome_scalar {b : UInt8} {tail rest : List UInt8} {t : Tree}
    (hbracket : b ≠ Ascii.openBracket) (hbrace : b ≠ Ascii.openBrace)
    (h : readScalar? (b :: tail) = some (t, rest)) :
    outcome (readValue? (b :: tail)) = some (t, rest) := by
  rw [readValue?_of_readScalar? hbracket hbrace h]
  rfl

theorem outcome_emptyArray (rest : List UInt8) :
    outcome (readValue? (Ascii.openBracket :: Ascii.closeBracket :: rest)) =
      some (.array [], rest) := by
  have skip : skipBlanks (Ascii.closeBracket :: rest) = Ascii.closeBracket :: rest :=
    skipBlanks_cons rfl rest
  rw [readValue?.eq_def]
  simp only [if_true]
  split
  · next h => exact absurd (skip.symm.trans h) (List.cons_ne_nil _ _)
  · next c more h =>
    obtain ⟨rfl, rfl⟩ := List.cons.inj (skip.symm.trans h)
    rfl

theorem outcome_array {b : UInt8} {tail after : List UInt8} {items : List Tree}
    (hblank : isBlank b = false) (hclose : b ≠ Ascii.closeBracket)
    (h : outcome (readItems? (b :: tail)) = some (items, after)) :
    outcome (readValue? (Ascii.openBracket :: b :: tail)) = some (.array items, after) := by
  have skip := skipBlanks_cons hblank tail
  obtain ⟨hlen, hitems⟩ := eq_of_outcome h
  rw [readValue?.eq_def]
  simp only [if_true]
  split
  · next h => exact absurd (skip.symm.trans h) (List.cons_ne_nil _ _)
  · next c more h =>
    obtain ⟨rfl, rfl⟩ := List.cons.inj (skip.symm.trans h)
    simp only [hclose, if_false, hitems]
    rfl

/-- Behind an item stands the closing bracket, or a comma and further items. -/
theorem outcome_readItems? {input more : List UInt8} {t : Tree} {c : UInt8}
    (hblank : isBlank c = false)
    (h : outcome (readValue? (skipBlanks input)) = some (t, c :: more)) :
    outcome (readItems? input) =
      if c = Ascii.closeBracket then some ([t], more)
      else if c = Ascii.comma then
        (outcome (readItems? more)).map fun read => (t :: read.1, read.2)
      else none := by
  have skip := skipBlanks_cons hblank more
  obtain ⟨hlen, hvalue⟩ := eq_of_outcome h
  rw [readItems?.eq_def]
  simp only [hvalue]
  split
  · next h => exact absurd (skip.symm.trans h) (List.cons_ne_nil _ _)
  next c' more' h =>
  obtain ⟨rfl, rfl⟩ := List.cons.inj (skip.symm.trans h)
  split
  · rfl
  · split
    · cases readItems? more with
      | none => rfl
      | some read => rfl
    · rfl

theorem outcome_emptyObject (rest : List UInt8) :
    outcome (readValue? (Ascii.openBrace :: Ascii.closeBrace :: rest)) =
      some (.object [], rest) := by
  have skip : skipBlanks (Ascii.closeBrace :: rest) = Ascii.closeBrace :: rest :=
    skipBlanks_cons rfl rest
  have hne : Ascii.openBrace ≠ Ascii.openBracket := by decide
  rw [readValue?.eq_def]
  simp only [hne, if_false, if_true]
  split
  · next h => exact absurd (skip.symm.trans h) (List.cons_ne_nil _ _)
  · next c more h =>
    obtain ⟨rfl, rfl⟩ := List.cons.inj (skip.symm.trans h)
    rfl

theorem outcome_object {tail after : List UInt8} {members : List (List StringPart × Tree)}
    (h : outcome (readMembers? (Ascii.quote :: tail)) = some (members, after)) :
    outcome (readValue? (Ascii.openBrace :: Ascii.quote :: tail)) =
      some (.object members, after) := by
  have skip : skipBlanks (Ascii.quote :: tail) = Ascii.quote :: tail := skipBlanks_cons rfl tail
  have hne : Ascii.openBrace ≠ Ascii.openBracket := by decide
  have hclose : Ascii.quote ≠ Ascii.closeBrace := by decide
  obtain ⟨hlen, hmembers⟩ := eq_of_outcome h
  rw [readValue?.eq_def]
  simp only [hne, if_false, if_true]
  split
  · next h => exact absurd (skip.symm.trans h) (List.cons_ne_nil _ _)
  · next c more h =>
    obtain ⟨rfl, rfl⟩ := List.cons.inj (skip.symm.trans h)
    simp only [hclose, if_false, hmembers]
    rfl

/-- Behind a member stands the closing brace, or a comma and further members. -/
theorem outcome_readMembers? {tail afterColon more : List UInt8} {name : List StringPart} {t : Tree}
    {c : UInt8} (hname : readString? tail = some (name, Ascii.colon :: afterColon))
    (hblank : isBlank c = false)
    (h : outcome (readValue? (skipBlanks afterColon)) = some (t, c :: more)) :
    outcome (readMembers? (Ascii.quote :: tail)) =
      if c = Ascii.closeBrace then some ([(name, t)], more)
      else if c = Ascii.comma then
        (outcome (readMembers? more)).map fun read => ((name, t) :: read.1, read.2)
      else none := by
  have start : skipBlanks (Ascii.quote :: tail) = Ascii.quote :: tail := skipBlanks_cons rfl tail
  have colon : skipBlanks (Ascii.colon :: afterColon) = Ascii.colon :: afterColon :=
    skipBlanks_cons rfl afterColon
  have skip := skipBlanks_cons hblank more
  obtain ⟨hlen, hvalue⟩ := eq_of_outcome h
  rw [readMembers?.eq_def]
  split
  · next h => exact absurd (start.symm.trans h) (List.cons_ne_nil _ _)
  next q afterQuote h =>
  obtain ⟨rfl, rfl⟩ := List.cons.inj (start.symm.trans h)
  simp only [if_true]
  split
  · next h =>
    rw [hname] at h
    cases h
  next name' afterName h =>
  obtain ⟨rfl, rfl⟩ := Prod.mk.inj (Option.some.inj (hname.symm.trans h))
  split
  · next h => exact absurd (colon.symm.trans h) (List.cons_ne_nil _ _)
  next k afterColon' h =>
  obtain ⟨rfl, rfl⟩ := List.cons.inj (colon.symm.trans h)
  simp only [if_true, hvalue]
  split
  · next h => exact absurd (skip.symm.trans h) (List.cons_ne_nil _ _)
  next c' more' h =>
  obtain ⟨rfl, rfl⟩ := List.cons.inj (skip.symm.trans h)
  split
  · rfl
  · split
    · cases readMembers? more with
      | none => rfl
      | some read => rfl
    · rfl

end Tree

/-! ## Compact texts -/

/-- The compact text of a value, as bytes. -/
def bytes (j : Json) : List UInt8 := Text.Utf8.encode j.chars

/-- The elements of an array, with commas between them. -/
def bytesItems (items : List Json) : List UInt8 := Text.Utf8.encode (charsItems items)

/-- The members of an object, with commas between them. -/
def bytesMembers (members : List (String × Json)) : List UInt8 :=
  Text.Utf8.encode (charsMembers members)

theorem bytes_int (w : Whole) :
    bytes (.int w) =
      (if w.val < 0 then [Ascii.minus] else []) ++ digitBytes w.val.natAbs := by
  rw [bytes, chars, Text.intText]
  split
  · rfl
  · rfl

theorem bytes_string (s : String) :
    bytes (.string s) = Ascii.quote :: (spelling s ++ [Ascii.quote]) := by
  rw [bytes, chars, quoted, spelling]
  show Ascii.quote :: Text.Utf8.encode (_ ++ _) = _
  rw [Text.Utf8.encode_append]
  rfl

theorem bytes_array (items : List Json) :
    bytes (.array items) = Ascii.openBracket :: (bytesItems items ++ [Ascii.closeBracket]) := by
  rw [bytes, chars, bytesItems]
  show Ascii.openBracket :: Text.Utf8.encode (_ ++ _) = _
  rw [Text.Utf8.encode_append]
  rfl

theorem bytes_object (members : List (String × Json)) :
    bytes (.object members) =
      Ascii.openBrace :: (bytesMembers members ++ [Ascii.closeBrace]) := by
  rw [bytes, chars, bytesMembers]
  show Ascii.openBrace :: Text.Utf8.encode (_ ++ _) = _
  rw [Text.Utf8.encode_append]
  rfl

theorem bytesItems_cons (j : Json) {rest : List Json} (h : rest ≠ []) :
    bytesItems (j :: rest) = bytes j ++ Ascii.comma :: bytesItems rest := by
  obtain ⟨k, rest, rfl⟩ := List.exists_cons_of_ne_nil h
  rw [bytesItems, charsItems, Text.Utf8.encode_append]
  rfl

/-- A member's text: its name in quotes, a colon and its value. -/
def memberBytes (name : String) (j : Json) : List UInt8 :=
  Ascii.quote :: (spelling name ++ Ascii.quote :: Ascii.colon :: bytes j)

theorem bytesMembers_singleton (name : String) (j : Json) :
    bytesMembers [(name, j)] = memberBytes name j := by
  rw [bytesMembers, charsMembers, Text.Utf8.encode_append, quoted, memberBytes, spelling]
  show Ascii.quote :: Text.Utf8.encode (_ ++ _) ++ _ = _
  rw [Text.Utf8.encode_append, List.cons_append, List.append_assoc]
  rfl

theorem bytesMembers_cons (name : String) (j : Json) {rest : List (String × Json)}
    (h : rest ≠ []) :
    bytesMembers ((name, j) :: rest) = memberBytes name j ++ Ascii.comma :: bytesMembers rest := by
  obtain ⟨m, rest, rfl⟩ := List.exists_cons_of_ne_nil h
  rw [← bytesMembers_singleton, bytesMembers, charsMembers, Text.Utf8.encode_append, bytesMembers,
    charsMembers, Text.Utf8.encode_append]
  rfl

/-! ## What can be read back -/

mutual

/-- No number anywhere in the value is a double. -/
def Integral : Json → Prop
  | .double _ => False
  | .array items => IntegralItems items
  | .object members => IntegralMembers members
  | _ => True

/-- No number in the elements is a double. -/
def IntegralItems : List Json → Prop
  | [] => True
  | j :: rest => j.Integral ∧ IntegralItems rest

/-- No number in the members is a double. -/
def IntegralMembers : List (String × Json) → Prop
  | [] => True
  | (_, j) :: rest => j.Integral ∧ IntegralMembers rest

end

mutual

/-- How deep the containers of a value nest. -/
def nesting : Json → Nat
  | .array items => nestingItems items + 1
  | .object members => nestingMembers members + 1
  | _ => 0

/-- How deep the containers in the elements nest. -/
def nestingItems : List Json → Nat
  | [] => 0
  | j :: rest => max j.nesting (nestingItems rest)

/-- How deep the containers in the members nest. -/
def nestingMembers : List (String × Json) → Nat
  | [] => 0
  | (_, j) :: rest => max j.nesting (nestingMembers rest)

end

theorem ne_of_isDigit {b c : UInt8} (h : Ascii.isDigit b = true) (hc : Ascii.isDigit c = false) :
    b ≠ c := by
  rintro rfl
  rw [h] at hc
  exact Bool.false_ne_true hc.symm

theorem isBlank_of_isDigit {b : UInt8} (h : Ascii.isDigit b = true) : Tree.isBlank b = false := by
  simp [Tree.isBlank, ne_of_isDigit h (c := 0x20) rfl, ne_of_isDigit h (c := 0x09) rfl,
    ne_of_isDigit h (c := 0x0a) rfl, ne_of_isDigit h (c := 0x0d) rfl]

/-- A value's text starts with no blank and not with the end of an array. -/
theorem head_bytes (j : Json) (h : j.Integral) :
    ∃ b tail, bytes j = b :: tail ∧ Tree.isBlank b = false ∧ b ≠ Ascii.closeBracket := by
  cases j with
  | null => exact ⟨_, _, rfl, rfl, by decide⟩
  | bool b => cases b <;> exact ⟨_, _, rfl, rfl, by decide⟩
  | int w =>
    rw [bytes_int]
    split
    · exact ⟨_, _, rfl, rfl, by decide⟩
    · obtain ⟨⟨nonempty, digits⟩, -⟩ := wholeText_digitBytes w.val.natAbs
      obtain ⟨b, bs, hbs⟩ := List.exists_cons_of_ne_nil nonempty
      have digit := digits b (hbs ▸ List.mem_cons_self)
      exact ⟨b, bs, hbs, isBlank_of_isDigit digit, ne_of_isDigit digit rfl⟩
  | double x => exact h.elim
  | string s => exact ⟨_, _, bytes_string s, rfl, by decide⟩
  | array items => exact ⟨_, _, bytes_array items, rfl, by decide⟩
  | object members => exact ⟨_, _, bytes_object members, rfl, by decide⟩

/-! ## Reading a value back -/

/-- What the tree reader makes of a text, and what follows, is a tree of the value. -/
def ReadsBack (j : Json) (text rest : List UInt8) : Prop :=
  ∃ t, Tree.outcome (Tree.readValue? (text ++ rest)) = some (t, rest) ∧
    ∀ d, j.nesting ≤ d → ofTree? d t = some j

theorem readsBack_int (w : Whole) {rest : List UInt8} (hrest : EndsNumber rest) :
    ReadsBack (.int w) (bytes (.int w)) rest := by
  refine ⟨.number ⟨decide (w.val < 0), digitBytes w.val.natAbs, [], none⟩, ?_, ?_⟩
  · rw [bytes_int]
    by_cases hneg : w.val < 0
    · have hquote : Ascii.minus ≠ Ascii.quote := by decide
      rw [if_pos hneg]
      refine Tree.outcome_scalar (by decide) (by decide) ?_
      rw [Tree.readScalar?, if_neg hquote, if_pos rfl]
      show (Tree.readUnsigned? true (digitBytes _ ++ rest)).map _ = _
      rw [readUnsigned?_digitBytes true _ hrest]
      simp [hneg]
    · obtain ⟨⟨nonempty, digits⟩, -⟩ := wholeText_digitBytes w.val.natAbs
      obtain ⟨b, bs, hbs⟩ := List.exists_cons_of_ne_nil nonempty
      have digit := digits b (hbs ▸ List.mem_cons_self)
      have read := readUnsigned?_digitBytes false w.val.natAbs hrest
      rw [hbs, List.cons_append] at read
      rw [if_neg hneg, List.nil_append, hbs, List.cons_append]
      refine Tree.outcome_scalar (ne_of_isDigit digit rfl) (ne_of_isDigit digit rfl) ?_
      rw [Tree.readScalar?, if_neg (ne_of_isDigit digit rfl), if_neg (ne_of_isDigit digit rfl),
        if_pos digit, read]
      simp [hneg]
  · intro d _
    rw [ofTree?, numberOf?_digitBytes]

theorem readsBack_string (s : String) (rest : List UInt8) :
    ReadsBack (.string s) (bytes (.string s)) rest := by
  obtain ⟨parts, hread, hstring⟩ := readString?_spelling s rest
  refine ⟨.string parts, ?_, ?_⟩
  · rw [bytes_string, List.cons_append, List.append_assoc]
    refine Tree.outcome_scalar (by decide) (by decide) ?_
    rw [Tree.readScalar?, if_pos rfl]
    show (Tree.readString? (spelling s ++ Ascii.quote :: rest)).map _ = _
    rw [hread]
    rfl
  · intro d _
    rw [ofTree?, hstring]
    rfl

theorem skipBlanks_bytes {j : Json} (h : j.Integral) (rest : List UInt8) :
    Tree.skipBlanks (bytes j ++ rest) = bytes j ++ rest := by
  obtain ⟨b, tail, hj, hblank, -⟩ := head_bytes j h
  rw [hj]
  exact Tree.skipBlanks_cons hblank _

/-- The text of elements starts with the first of them. -/
theorem bytesItems_eq (j : Json) (rest : List Json) :
    ∃ more, bytesItems (j :: rest) = bytes j ++ more := by
  by_cases h : rest = []
  · subst h
    exact ⟨[], (List.append_nil _).symm⟩
  · exact ⟨_, bytesItems_cons j h⟩

theorem bytesMembers_eq (name : String) (j : Json) (rest : List (String × Json)) :
    ∃ more, bytesMembers ((name, j) :: rest) = Ascii.quote :: more := by
  by_cases h : rest = []
  · subst h
    exact ⟨_, bytesMembers_singleton name j⟩
  · exact ⟨_, bytesMembers_cons name j h⟩

mutual

theorem readsBack_bytes : ∀ (j : Json), j.WellFormed → j.Integral → ∀ {rest : List UInt8},
    EndsNumber rest → ReadsBack j (bytes j) rest
  | .null, _, _, _, _ =>
    ⟨.null, Tree.outcome_scalar (by decide) (by decide) rfl, fun _ _ => rfl⟩
  | .bool true, _, _, _, _ =>
    ⟨.bool true, Tree.outcome_scalar (by decide) (by decide) rfl, fun _ _ => rfl⟩
  | .bool false, _, _, _, _ =>
    ⟨.bool false, Tree.outcome_scalar (by decide) (by decide) rfl, fun _ _ => rfl⟩
  | .int w, _, _, _, hrest => readsBack_int w hrest
  | .double _, _, integral, _, _ => integral.elim
  | .string s, _, _, rest, _ => readsBack_string s rest
  | .array [], _, _, rest, _ => by
    refine ⟨.array [], Tree.outcome_emptyArray rest, fun d hd => ?_⟩
    cases d with
    | zero => exact absurd hd (Nat.not_succ_le_zero _)
    | succ d => rfl
  | .array (j :: js), wf, integral, rest, _ => by
    obtain ⟨ts, hread, hof⟩ := readItems?_bytesItems (j :: js) (List.cons_ne_nil j js) wf integral rest
    refine ⟨.array ts, ?_, fun d hd => ?_⟩
    · obtain ⟨more, hmore⟩ := bytesItems_eq j js
      obtain ⟨b, tail, hj, hblank, hclose⟩ := head_bytes j integral.1
      rw [bytes_array, List.cons_append, List.append_assoc]
      rw [hmore, hj] at hread ⊢
      exact Tree.outcome_array hblank hclose hread
    · cases d with
      | zero => exact absurd hd (Nat.not_succ_le_zero _)
      | succ d => rw [ofTree?, hof d (Nat.le_of_succ_le_succ hd), Option.map_some]
  | .object [], _, _, rest, _ => by
    refine ⟨.object [], Tree.outcome_emptyObject rest, fun d hd => ?_⟩
    cases d with
    | zero => exact absurd hd (Nat.not_succ_le_zero _)
    | succ d => rfl
  | .object ((name, j) :: rest'), wf, integral, rest, _ => by
    obtain ⟨ts, hread, hof⟩ :=
      readMembers?_bytesMembers ((name, j) :: rest') (List.cons_ne_nil _ _) wf.2 integral rest
    refine ⟨.object ts, ?_, fun d hd => ?_⟩
    · obtain ⟨more, hmore⟩ := bytesMembers_eq name j rest'
      rw [bytes_object, List.cons_append, List.append_assoc]
      rw [hmore] at hread ⊢
      exact Tree.outcome_object hread
    · cases d with
      | zero => exact absurd hd (Nat.not_succ_le_zero _)
      | succ d =>
        rw [ofTree?, hof d (Nat.le_of_succ_le_succ hd), Option.map_some, ofMembers,
          Members.collect_of_nodup wf.1]

theorem readItems?_bytesItems : ∀ (items : List Json), items ≠ [] → WellFormedItems items →
    IntegralItems items → ∀ rest : List UInt8, ∃ ts,
      Tree.outcome (Tree.readItems? (bytesItems items ++ Ascii.closeBracket :: rest)) =
        some (ts, rest) ∧
      ∀ d, nestingItems items ≤ d → ofTrees? d ts = some items
  | [], nonempty, _, _, _ => absurd rfl nonempty
  | j :: js, _, wf, integral, rest => by
    by_cases hjs : js = []
    · subst hjs
      obtain ⟨t, hread, hof⟩ := readsBack_bytes j wf.1 integral.1
        (endsNumber_cons (.inr (.inl rfl)) rest)
      refine ⟨[t], ?_, fun d hd => ?_⟩
      · rw [← skipBlanks_bytes integral.1] at hread
        exact Tree.outcome_readItems? rfl hread
      · simp [ofTrees?, hof d (Nat.le_trans (Nat.le_max_left _ _) hd)]
    · obtain ⟨ts, hreads, hofs⟩ := readItems?_bytesItems js hjs wf.2 integral.2 rest
      obtain ⟨t, hread, hof⟩ := readsBack_bytes j wf.1 integral.1
        (endsNumber_cons (.inl rfl) (bytesItems js ++ Ascii.closeBracket :: rest))
      refine ⟨t :: ts, ?_, fun d hd => ?_⟩
      · rw [← skipBlanks_bytes integral.1] at hread
        rw [bytesItems_cons j hjs, List.append_assoc, List.cons_append,
          Tree.outcome_readItems? rfl hread, if_neg (by decide), if_pos rfl, hreads]
        rfl
      · have hfirst := hof d (Nat.le_trans (Nat.le_max_left _ _) hd)
        have hothers := hofs d (Nat.le_trans (Nat.le_max_right _ _) hd)
        simp [ofTrees?, hfirst, hothers]

theorem readMembers?_bytesMembers : ∀ (members : List (String × Json)), members ≠ [] →
    WellFormedMembers members → IntegralMembers members → ∀ rest : List UInt8, ∃ ts,
      Tree.outcome (Tree.readMembers? (bytesMembers members ++ Ascii.closeBrace :: rest)) =
        some (ts, rest) ∧
      ∀ d, nestingMembers members ≤ d → entriesOf? d ts = some members
  | [], nonempty, _, _, _ => absurd rfl nonempty
  | (name, j) :: js, _, wf, integral, rest => by
    by_cases hjs : js = []
    · subst hjs
      obtain ⟨t, hread, hof⟩ := readsBack_bytes j wf.1 integral.1
        (endsNumber_cons (.inr (.inr rfl)) rest)
      obtain ⟨parts, hname, hstring⟩ := readString?_spelling name
        (Ascii.colon :: (bytes j ++ Ascii.closeBrace :: rest))
      refine ⟨[(parts, t)], ?_, fun d hd => ?_⟩
      · rw [← skipBlanks_bytes integral.1] at hread
        rw [bytesMembers_singleton, memberBytes, List.cons_append, List.append_assoc]
        exact Tree.outcome_readMembers? hname rfl hread
      · simp [entriesOf?, hstring, hof d (Nat.le_trans (Nat.le_max_left _ _) hd)]
    · obtain ⟨ts, hreads, hofs⟩ := readMembers?_bytesMembers js hjs wf.2 integral.2 rest
      obtain ⟨t, hread, hof⟩ := readsBack_bytes j wf.1 integral.1
        (endsNumber_cons (.inl rfl) (bytesMembers js ++ Ascii.closeBrace :: rest))
      obtain ⟨parts, hname, hstring⟩ := readString?_spelling name
        (Ascii.colon :: (bytes j ++ Ascii.comma :: (bytesMembers js ++ Ascii.closeBrace :: rest)))
      refine ⟨(parts, t) :: ts, ?_, fun d hd => ?_⟩
      · rw [← skipBlanks_bytes integral.1] at hread
        have read := Tree.outcome_readMembers? hname rfl hread
        rw [if_neg (by decide), if_pos rfl, hreads] at read
        rw [bytesMembers_cons name j hjs, memberBytes, List.append_assoc, List.cons_append,
          List.append_assoc]
        exact read
      · have hfirst := hof d (Nat.le_trans (Nat.le_max_left _ _) hd)
        have hothers := hofs d (Nat.le_trans (Nat.le_max_right _ _) hd)
        simp [entriesOf?, hstring, hfirst, hothers]

end

/-- **The strict reader makes a value of its compact text again**, if it has no double in it and
does not nest too deep. -/
theorem read?_bytes {j : Json} (wf : j.WellFormed) (integral : j.Integral)
    (shallow : j.nesting ≤ depthLimit) : read? (bytes j) = some j := by
  obtain ⟨t, hread, hof⟩ := readsBack_bytes j wf integral endsNumber_nil
  rw [← skipBlanks_bytes integral, List.append_nil] at hread
  obtain ⟨hlen, hvalue⟩ := Tree.eq_of_outcome hread
  have tree : Tree.read? (bytes j) = some t := by
    rw [Tree.read?, hvalue]
    rfl
  rw [read?, tree, Option.bind_some, hof depthLimit shallow]

/-! ## The compact text by the grammar -/

theorem itemsTail_bytesItems : ∀ {items : List Json}, items ≠ [] →
    ItemsTail Ascii.closeBracket (items.map bytes) (bytesItems items ++ [Ascii.closeBracket])
  | [], nonempty => absurd rfl nonempty
  | j :: js, _ => by
    by_cases hjs : js = []
    · subst hjs
      exact .last blanks_nil blanks_nil
    · rw [bytesItems_cons j hjs, List.append_assoc]
      exact .more blanks_nil blanks_nil (itemsTail_bytesItems hjs)

theorem itemsTail_bytesMembers : ∀ {members : List (String × Json)}, members ≠ [] →
    ItemsTail Ascii.closeBrace (members.map fun m => memberBytes m.1 m.2)
      (bytesMembers members ++ [Ascii.closeBrace])
  | [], nonempty => absurd rfl nonempty
  | (name, j) :: rest, _ => by
    by_cases hrest : rest = []
    · subst hrest
      rw [bytesMembers_singleton]
      exact .last blanks_nil blanks_nil
    · rw [bytesMembers_cons name j hrest, List.append_assoc]
      exact .more blanks_nil blanks_nil (itemsTail_bytesMembers hrest)

/-- The elements of a compact array, with its closing bracket. -/
theorem enclosed_bytesItems (items : List Json) :
    Enclosed Ascii.closeBracket (items.map bytes) (bytesItems items ++ [Ascii.closeBracket]) := by
  by_cases h : items = []
  · subst h
    exact .empty blanks_nil
  · exact .items (itemsTail_bytesItems h)

theorem enclosed_bytesMembers (members : List (String × Json)) :
    Enclosed Ascii.closeBrace (members.map fun m => memberBytes m.1 m.2)
      (bytesMembers members ++ [Ascii.closeBrace]) := by
  by_cases h : members = []
  · subst h
    exact .empty blanks_nil
  · exact .items (itemsTail_bytesMembers h)

theorem memberText_memberBytes (name : String) (j : Json) :
    MemberText (spelling name) (bytes j) (memberBytes name j) := .mk blanks_nil blanks_nil

theorem scalarText_int (w : Whole) : ScalarText (bytes (.int w)) := by
  have sign : (if w.val < 0 then [Ascii.minus] else []) = [] ∨
      (if w.val < 0 then [Ascii.minus] else []) = [Ascii.minus] := by
    split
    · exact .inr rfl
    · exact .inl rfl
  have text := ScalarText.number sign (wholeText_digitBytes w.val.natAbs) .none .none
  rwa [List.append_nil, List.append_nil, ← bytes_int] at text

mutual

/-- The compact text of a value is a text by the grammar. -/
theorem valueText_bytes : ∀ (j : Json), j.Integral → ValueText (bytes j)
  | .null, _ => .scalar .null
  | .bool true, _ => .scalar .true
  | .bool false, _ => .scalar .false
  | .int w, _ => .scalar (scalarText_int w)
  | .double _, integral => integral.elim
  | .string s, _ => by
    rw [bytes_string]
    exact .string (spells_spelling s).stringText
  | .array items, integral => by
    rw [bytes_array]
    exact .array (valueText_bytesItems items integral) (enclosed_bytesItems items)
  | .object members, integral => by
    rw [bytes_object]
    refine @ValueText.object (members.map fun m => (spelling m.1, bytes m.2)) _ _ ?_ ?_ ?_
      (enclosed_bytesMembers members)
    · intro m hm
      obtain ⟨member, -, rfl⟩ := List.mem_map.mp hm
      exact (spells_spelling member.1).stringText
    · intro m hm
      obtain ⟨member, hmember, rfl⟩ := List.mem_map.mp hm
      exact valueText_bytesMembers members integral member hmember
    · rw [List.forall₂_map_left_iff, List.forall₂_map_right_iff, List.forall₂_same]
      intro m _
      exact memberText_memberBytes m.1 m.2

theorem valueText_bytesItems : ∀ (items : List Json), IntegralItems items →
    ∀ text ∈ items.map bytes, ValueText text
  | [], _, _, h => absurd h List.not_mem_nil
  | j :: js, integral, text, h => by
    rcases List.mem_cons.mp h with rfl | h
    · exact valueText_bytes j integral.1
    · exact valueText_bytesItems js integral.2 text h

theorem valueText_bytesMembers : ∀ (members : List (String × Json)), IntegralMembers members →
    ∀ m ∈ members, ValueText (bytes m.2)
  | [], _, _, h => absurd h List.not_mem_nil
  | (name, j) :: rest, integral, m, h => by
    rcases List.mem_cons.mp h with rfl | h
    · exact valueText_bytes j integral.1
    · exact valueText_bytesMembers rest integral.2 m h

end

theorem arrayText_bytes {items : List Json} (integral : IntegralItems items) :
    ArrayText (items.map bytes) (bytes (.array items)) :=
  ⟨valueText_bytesItems items integral, _, enclosed_bytesItems items, bytes_array items⟩

theorem objectText_bytes {members : List (String × Json)} (integral : IntegralMembers members) :
    ObjectText (members.map fun m => (m.1, bytes m.2)) (bytes (.object members)) := by
  refine ⟨_, [], _, [], blanks_nil, blanks_nil, ?_, enclosed_bytesMembers members, ?_⟩
  · rw [bytes_object, List.append_nil]
    rfl
  · rw [List.forall₂_map_left_iff, List.forall₂_map_right_iff, List.forall₂_same]
    intro m hm
    exact ⟨valueText_bytesMembers members integral m hm, spelling m.1, spells_spelling m.1,
      memberText_memberBytes m.1 m.2⟩

end Json

end QueryClient
