import QueryClient.Stream.Input

/-!
# What an input still brings

However an input is cut into refills, it brings the same bytes one after the other. `Brings` is that
flat view: looking at the next byte does not change it (`peek_of_brings_cons`), and stepping over
the byte takes it away.
-/

namespace QueryClient.Input

/-- What a list of refills brings, byte by byte and with the failures on the way. -/
def brought : List Refill → List (Except IoFailure UInt8)
  | [] => []
  | .bytes bs :: refills => bs.map .ok ++ brought refills
  | .failure f :: refills => .error f :: brought refills

/-- What is ahead of an input, byte by byte and with the failures on the way. -/
def ahead (i : Input) : List (Except IoFailure UInt8) := i.buffer.map .ok ++ brought i.refills

/-- The input brings the bytes and then ends, without a failure. -/
structure Brings (i : Input) (bs : List UInt8) : Prop where
  ahead : i.ahead = bs.map .ok
  ending : i.ending = none

theorem brings_ofRefills {refills : List Refill} {bs : List UInt8}
    (h : brought refills = bs.map .ok) : (ofRefills refills).Brings bs := ⟨h, rfl⟩

/-- Refilling an empty buffer changes where the next bytes are, not which they are. -/
theorem settle_of_brought_cons {buffer : List UInt8} {refills : List Refill} {b : UInt8}
    {rest : List (Except IoFailure UInt8)}
    (h : buffer.map .ok ++ brought refills = .ok b :: rest) :
    ∃ buffer' refills', settle buffer refills = (none, b :: buffer', refills') ∧
      buffer'.map .ok ++ brought refills' = rest := by
  fun_induction settle buffer refills with
  | case1 c cs refills =>
    simp only [List.map_cons, List.cons_append, List.cons.injEq, Except.ok.injEq] at h
    obtain ⟨rfl, rfl⟩ := h
    exact ⟨cs, refills, rfl, rfl⟩
  | case2 => simp [brought] at h
  | case3 bs refills ih => exact ih h
  | case4 f refills => simp [brought] at h

theorem settle_of_brought_nil {buffer : List UInt8} {refills : List Refill}
    (h : buffer.map Except.ok ++ brought refills = []) :
    ∃ refills', settle buffer refills = (none, [], refills') ∧ brought refills' = [] := by
  fun_induction settle buffer refills with
  | case1 c cs refills => simp at h
  | case2 => exact ⟨[], rfl, rfl⟩
  | case3 bs refills ih => exact ih h
  | case4 f refills => simp [brought] at h

/-- The next byte is the first of those that the input brings. -/
theorem peek_of_brings_cons {i : Input} {b : UInt8} {bs : List UInt8} (h : i.Brings (b :: bs)) :
    ∃ j, i.peek = (.ok (some b), j) ∧ j.Brings (b :: bs) ∧ j.consume.Brings bs := by
  obtain ⟨buffer, refills, hsettle, hrest⟩ := settle_of_brought_cons h.ahead
  unfold peek
  rw [hsettle]
  refine ⟨_, rfl, ⟨?_, h.ending⟩, ⟨hrest, h.ending⟩⟩
  show .ok b :: (buffer.map .ok ++ brought refills) = _
  rw [hrest]
  rfl

theorem peek_of_brings_nil {i : Input} (h : i.Brings []) :
    ∃ j, i.peek = (.ok none, j) ∧ j.Brings [] := by
  obtain ⟨refills, hsettle, hrest⟩ := settle_of_brought_nil h.ahead
  refine ⟨⟨[], refills, i.ending, i.offset, max i.looked (i.offset + 1)⟩, ?_, ⟨hrest, h.ending⟩⟩
  unfold peek
  rw [hsettle, h.ending]

end QueryClient.Input
