import QueryClient.Proofs.Stream.Span

/-!
# What reads as an array is written as one

The scanner does not parse: it counts brackets of either kind alike and stops a number at any
delimiter. It is the strict reader of the elements and the commas between them that keep what is no
array from being delivered as one. `Listing` is an array as it is written, with each element a text
of its own. Main statement: `listing_of_returns`.
-/

namespace QueryClient.ElementStream

open Scan

/-! ## Arrays as they are written -/

/-- What follows an element: the closing bracket, or a comma with the next element and what follows
that. -/
inductive Continued : List (List UInt8) → List UInt8 → Prop
  | close {r} : Gap r → Continued [] (r ++ [Ascii.closeBracket])
  | comma {r l e es tail} : Gap r → Gap l → Continued es tail →
      Continued (e :: es) (r ++ Ascii.comma :: (l ++ (e ++ tail)))

/-- What follows the opening bracket of an array with the given elements. -/
inductive Listing : List (List UInt8) → List UInt8 → Prop
  | empty {l} : Gap l → Listing [] (l ++ [Ascii.closeBracket])
  | elements {l e es tail} : Gap l → Continued es tail → Listing (e :: es) (l ++ (e ++ tail))

/-- The text is read as the value. -/
def Parses (e : List UInt8) (v : Json) : Prop := Json.read? e = some v

/-- Call after call the stream returns the values, and then the end. -/
def Returns (s : ElementStream) (vs : List Json) : Prop :=
  ∀ n ≤ vs.length, (s.skip n).next.1 = .ok vs[n]?

theorem Returns.head {s : ElementStream} {v : Json} {vs : List Json} (h : s.Returns (v :: vs)) :
    s.next.1 = .ok (some v) :=
  h 0 (Nat.zero_le _)

theorem Returns.tail {s : ElementStream} {v : Json} {vs : List Json} (h : s.Returns (v :: vs)) :
    s.next.2.Returns vs := by
  intro n hn
  exact h (n + 1) (Nat.succ_le_succ hn)

theorem Returns.end {s : ElementStream} (h : s.Returns []) : s.next.1 = .ok none :=
  h 0 (Nat.le_refl _)

/-! ## From what is returned to what is written -/

/-- Behind an element, by induction on the values that are returned: a call that returns one has
taken a comma and an element, and the call that returns the end has taken the closing bracket. -/
theorem continued_of_returns {s : ElementStream} {vs : List Json} {bs : List UInt8}
    (hs : s.position = .rest) (hbs : s.input.Brings bs) (h : s.Returns vs) :
    ∃ es tail after, bs = tail ++ after ∧ Continued es tail ∧ List.Forall₂ Parses es vs := by
  induction vs generalizing s bs with
  | nil =>
    have hdone : s.position ≠ .done := by
      rw [hs]
      decide
    obtain ⟨_, after, rfl, -, r, hr, rfl⟩ := finds_end hbs hdone h.end
    exact ⟨[], _, after, rfl, .close hr, .nil⟩
  | cons v vs ih =>
    obtain ⟨e, front, rest, rfl, hj, hposition, hfound, hread⟩ := finds_element hbs h.head
    rw [hs] at hfound
    obtain ⟨r, _, hr, ⟨l, hl, rfl⟩, rfl⟩ := hfound
    obtain ⟨es, tail, after, rfl, htail, hvalues⟩ := ih hposition hj.brings h.tail
    refine ⟨e :: es, _, after, ?_, .comma hr hl htail, .cons hread hvalues⟩
    simp

theorem listing_of_first {s : ElementStream} {vs : List Json} {bs : List UInt8}
    (hs : s.position = .first) (hbs : s.input.Brings bs) (h : s.Returns vs) :
    ∃ es tail after, bs = tail ++ after ∧ Listing es tail ∧ List.Forall₂ Parses es vs := by
  cases vs with
  | nil =>
    have hdone : s.position ≠ .done := by
      rw [hs]
      decide
    obtain ⟨_, after, rfl, -, l, hl, rfl⟩ := finds_end hbs hdone h.end
    exact ⟨[], _, after, rfl, .empty hl, .nil⟩
  | cons v vs =>
    obtain ⟨e, front, rest, rfl, hj, hposition, hfound, hread⟩ := finds_element hbs h.head
    rw [hs] at hfound
    obtain ⟨l, _, hl, rfl, rfl⟩ := hfound
    obtain ⟨es, tail, after, rfl, htail, hvalues⟩ :=
      continued_of_returns hposition hj.brings h.tail
    refine ⟨e :: es, _, after, ?_, .elements hl htail, .cons hread hvalues⟩
    simp

/-- **Whatever the bytes are, values that are returned up to the end without a failure are written
behind the opening bracket as an array**: with one comma between neighbours and none at either end,
and each of them the reading of its own text. -/
theorem listing_of_returns {field : String} {policy : TransientPolicy} {i j : Input}
    {body : List UInt8} {s : ElementStream} {vs : List Json} (hbody : i.Brings body)
    (hlocate : locate field policy i = .ok s j) (h : s.Returns vs) :
    ∃ before es tail after, body = before ++ Ascii.openBracket :: (tail ++ after) ∧
      s.input.Brings (tail ++ after) ∧ Listing es tail ∧ List.Forall₂ Parses es vs := by
  have htakes := takes_locate field policy hbody
  rw [hlocate] at htakes
  obtain rfl := of_locate field hlocate
  cases htakes with
  | result heq hj hbracket =>
    obtain ⟨before, rfl⟩ := hbracket
    obtain ⟨es, tail, after, rfl, hlisting, hvalues⟩ := listing_of_first rfl hj.brings h
    refine ⟨before, es, tail, after, ?_, hj.brings, hlisting, hvalues⟩
    rw [heq, List.append_assoc]
    rfl

/-! ### An array with a form feed in it, in a text that is no text of an object -/

def strayText : List UInt8 := Text.Utf8.encode "\x7b\"rows\":[\x0c1 ,\"x\"]],".toList

/-- The text behind a number of its bytes. -/
def strayAt (offset looked : Nat) : Input := ⟨strayText.drop offset, [], none, offset, looked⟩

def strayRows : List Json := [.int (.ofInt64 1), .string "x"]

/-- A stream in the text, given the bytes of the input behind which it stands. -/
def stray (offset looked : Nat) (position : Position) : ElementStream :=
  ⟨strayAt offset looked, .never, position⟩

theorem spells_rows : Json.Spells (Text.Utf8.encode "rows".toList) "rows".toList :=
  .plain (c := 'r') (by decide) (by decide) (by decide)
    (.plain (c := 'o') (by decide) (by decide) (by decide)
      (.plain (c := 'w') (by decide) (by decide) (by decide)
        (.plain (c := 's') (by decide) (by decide) (by decide) .nil)))

theorem locate_stray :
    locate "rows" .never (.ofRefills [.bytes strayText]) =
      .ok (stray 9 9 .first) (strayAt 9 9) := by
  have hobject : skipBlanks .never (.ofRefills [.bytes strayText]) = .ok () (strayAt 0 1) := by
    with_unfolding_all rfl
  have hbrace : expect Ascii.openBrace .never (strayAt 0 1) = .ok () (strayAt 1 1) := rfl
  have hmember : skipBlanks .never (strayAt 1 1) = .ok () (strayAt 1 2) := by
    with_unfolding_all rfl
  have hquote : peek .never (strayAt 1 2) = .ok (some Ascii.quote) (strayAt 1 2) := rfl
  have hname : stringTail .never (strayAt 1 2).consume =
      .ok (Text.Utf8.encode "rows\"".toList) (strayAt 7 7) := by
    with_unfolding_all rfl
  have hfield : literalText? (Ascii.quote :: Text.Utf8.encode "rows\"".toList) = some "rows" := by
    rw [← String.ofList_toList (s := "rows")]
    exact literalText?_of_spells spells_rows
  have hcolon : colon .never (strayAt 7 7) = .ok () (strayAt 8 9) := by with_unfolding_all rfl
  have harray : enterArray "rows" .never (strayAt 8 9) = .ok () (strayAt 9 9) := rfl
  exact locate_of_steps hobject hbrace hmember hquote hname hfield hcolon harray

theorem next_stray_first :
    (stray 9 9 .first).next = (answer (some [0x31]), stray 11 12 .rest) := by
  have htext : nextText .first .never (strayAt 9 9) = .ok (some [0x31]) (strayAt 11 12) := by
    with_unfolding_all rfl
  exact next_of_text (by decide) htext

theorem next_stray_second :
    (stray 11 12 .rest).next = (answer (some [0x22, 0x78, 0x22]), stray 16 16 .rest) := by
  have htext : nextText .rest .never (strayAt 11 12) =
      .ok (some [0x22, 0x78, 0x22]) (strayAt 16 16) := by
    with_unfolding_all rfl
  exact next_of_text (by decide) htext

theorem next_stray_third : (stray 16 16 .rest).next = (answer none, stray 17 17 .done) := by
  have htext : nextText .rest .never (strayAt 16 16) = .ok none (strayAt 17 17) := by
    with_unfolding_all rfl
  exact next_of_end (by decide) htext

theorem answer_one : answer (some [0x31]) = .ok (some (.int (.ofInt64 1))) :=
  answer_bytes (v := .int (.ofInt64 1)) trivial trivial (by decide)

theorem answer_x : answer (some [0x22, 0x78, 0x22]) = .ok (some (.string "x")) :=
  answer_bytes (v := .string "x") trivial trivial (by decide)

theorem returns_stray : (stray 9 9 .first).Returns strayRows := by
  intro n hn
  match n with
  | 0 =>
    show (stray 9 9 .first).next.1 = _
    rw [next_stray_first]
    exact answer_one
  | 1 =>
    show (stray 9 9 .first).next.2.next.1 = _
    rw [next_stray_first, next_stray_second]
    exact answer_x
  | 2 =>
    show (stray 9 9 .first).next.2.next.2.next.1 = _
    rw [next_stray_first, next_stray_second, next_stray_third]
    rfl
  | n + 3 => exact absurd hn (by simp [strayRows])

theorem listing_stray :
    let i : Input := .ofRefills [.bytes strayText]
    i.Brings strayText ∧ locate "rows" .never i = .ok (stray 9 9 .first) (strayAt 9 9) ∧
      (stray 9 9 .first).Returns strayRows ∧
      ∃ before es tail after, strayText = before ++ Ascii.openBracket :: (tail ++ after) ∧
        (strayAt 9 9).Brings (tail ++ after) ∧ Listing es tail ∧
        List.Forall₂ Parses es strayRows := by
  intro i
  have hi : i.Brings strayText := Input.brings_ofRefills rfl
  exact ⟨hi, locate_stray, returns_stray, listing_of_returns hi locate_stray returns_stray⟩

end QueryClient.ElementStream
