import QueryClient.Config.Basic

/-!
# Buffered input

An `Input` is read byte by byte from a buffer that is refilled when it runs empty. A refill brings
bytes or fails. `Input.peek` looks at the next byte and `Input.consume` steps over it; nothing else
reads. `Input.looked` remembers how far the input has been looked at, which is what another party
can observe of a read that is still going on.
-/

namespace QueryClient

/-- What one refill of the buffer brings. -/
inductive Refill where
  | bytes (bs : List UInt8)
  | failure (f : IoFailure)

/-- An input with one byte of lookahead. -/
structure Input where
  /-- The bytes at hand. -/
  buffer : List UInt8
  /-- The refills to come. -/
  refills : List Refill
  /-- What every refill after those brings: the end of the input, or a failure. -/
  ending : Option IoFailure
  /-- How many bytes have been consumed. -/
  offset : Nat
  /-- One past the greatest offset that has been looked at. -/
  looked : Nat

/-- A failure that reading meets at an offset, every time or only once. -/
structure Fault where
  start : Nat
  failure : IoFailure
  once : Bool

namespace Input

/-- The bytes that a list of refills brings. -/
def count : List Refill → Nat
  | [] => 0
  | .bytes bs :: refills => bs.length + count refills
  | .failure _ :: refills => count refills

/-- How many bytes can still be read. -/
def size (i : Input) : Nat := i.buffer.length + count i.refills

/-- Refill an empty buffer. A failure met on the way is used up. -/
def settle : List UInt8 → List Refill → Option IoFailure × List UInt8 × List Refill
  | b :: bs, refills => (none, b :: bs, refills)
  | [], [] => (none, [], [])
  | [], .bytes bs :: refills => settle bs refills
  | [], .failure f :: refills => (some f, [], refills)

/-- Look at the next byte; nothing at the end of the input. -/
def peek (i : Input) : Except IoFailure (Option UInt8) × Input :=
  let seen := max i.looked (i.offset + 1)
  match settle i.buffer i.refills with
  | (some f, buffer, refills) => (.error f, { i with buffer, refills, looked := seen })
  | (none, b :: buffer, refills) =>
    (.ok (some b), { i with buffer := b :: buffer, refills, looked := seen })
  | (none, [], refills) =>
    let found : Except IoFailure (Option UInt8) :=
      match i.ending with
      | some f => .error f
      | none => .ok none
    (found, { i with buffer := [], refills, looked := seen })

/-- Step over the byte that was looked at. -/
def consume (i : Input) : Input := { i with buffer := i.buffer.tail, offset := i.offset + 1 }

theorem size_settle (buffer : List UInt8) (refills : List Refill) :
    (settle buffer refills).2.1.length + count (settle buffer refills).2.2 =
      buffer.length + count refills := by
  fun_induction settle buffer refills <;> simp_all [count]

theorem size_peek (i : Input) : i.peek.2.size = i.size := by
  have h := size_settle i.buffer i.refills
  unfold peek
  split <;> simp_all [size]

/-- A byte that was seen is in the buffer. -/
theorem buffer_of_peek {i j : Input} {b : UInt8} (h : i.peek = (.ok (some b), j)) :
    j.buffer.head? = some b := by
  unfold peek at h
  split at h
  · simp at h
  · simp only [Prod.mk.injEq, Except.ok.injEq, Option.some.injEq] at h
    obtain ⟨rfl, rfl⟩ := h
    rfl
  · simp only [Prod.mk.injEq] at h
    split at h <;> simp at h

/-- Stepping over a byte that was seen leaves fewer bytes to read. -/
theorem size_consume_lt {i j : Input} {b : UInt8} (h : i.peek = (.ok (some b), j)) :
    j.consume.size < i.size := by
  have hs := size_peek i
  rw [h] at hs
  have hb := buffer_of_peek h
  simp only [size] at hs
  simp only [size, consume, List.length_tail]
  cases hj : j.buffer with
  | nil => simp [hj] at hb
  | cons c cs =>
    simp only [hj, List.length_cons] at hs ⊢
    omega

/-! ### Inputs from bytes -/

/-- Split bytes into refills of `size` bytes, the last one shorter; a size of zero stands for a
single refill. -/
def chunked (size : Nat) (bs : List UInt8) : List Refill :=
  if size = 0 ∨ bs.length ≤ size then [.bytes bs]
  else .bytes (bs.take size) :: chunked size (bs.drop size)
termination_by bs.length
decreasing_by
  rw [List.length_drop]
  omega

/-- The input that brings the given refills and then ends. -/
def ofRefills (refills : List Refill) : Input := ⟨[], refills, none, 0, 0⟩

/-- The input that brings `body` in refills of `size` bytes and meets `fault` on the way. A fault
beyond the end of the body is never met. -/
def ofBytes (size : Nat) (body : List UInt8) (fault : Option Fault) : Input :=
  match fault with
  | none => ofRefills (chunked size body)
  | some f =>
    if body.length < f.start then ofRefills (chunked size body)
    else
      let before := chunked size (body.take f.start)
      if f.once then
        ofRefills (before ++ .failure f.failure :: chunked size (body.drop f.start))
      else { ofRefills before with ending := some f.failure }

end Input

end QueryClient
