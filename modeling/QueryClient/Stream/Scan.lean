import QueryClient.Json.Reader
import QueryClient.Stream.Input
import QueryClient.Text.Ascii

/-!
# Scanning JSON text byte by byte

A `Scan` reads from an `Input` and ends with a result or a failure; bytes it has consumed stay
consumed either way. Values are stepped over by counting brackets and heeding strings, so that only
the bytes of the value at hand are kept: whether they are JSON is for its reader to say.
-/

namespace QueryClient

/-- Reading from an input, with the failures of the input told as the policy says. -/
abbrev Scan (α : Type) := TransientPolicy → Input → EStateM.Result ClientError Input α

namespace Scan

/-- The failure of a text that ends too early. -/
def truncated : ClientError := .protocol "unexpected end of response"

/-- The byte at which the input stands; nothing at its end. -/
def peek : Scan (Option UInt8) := fun policy i =>
  match i.peek with
  | (.ok b, j) => .ok b j
  | (.error f, j) => .error (policy.ioError f "failed to read result") j

/-- The next byte, stepped over. -/
def require : Scan UInt8 := fun policy i =>
  match peek policy i with
  | .ok (some b) j => .ok b j.consume
  | .ok none j => .error truncated j
  | .error e j => .error e j

theorem size_of_peek {policy : TransientPolicy} {i j : Input} {b : UInt8}
    (h : peek policy i = .ok (some b) j) : j.consume.size < i.size := by
  unfold peek at h
  split at h
  · next hp =>
    simp only [EStateM.Result.ok.injEq] at h
    obtain ⟨rfl, rfl⟩ := h
    exact Input.size_consume_lt hp
  · simp at h

theorem size_of_require {policy : TransientPolicy} {i j : Input} {b : UInt8}
    (h : require policy i = .ok b j) : j.size < i.size := by
  unfold require at h
  split at h
  · next hp =>
    simp only [EStateM.Result.ok.injEq] at h
    obtain ⟨-, rfl⟩ := h
    exact size_of_peek hp
  · simp at h
  · simp at h

/-- Step over blanks. -/
def skipBlanks (policy : TransientPolicy) (i : Input) : EStateM.Result ClientError Input Unit :=
  match h : peek policy i with
  | .ok (some b) j =>
    have := size_of_peek h
    if Ascii.isBlank b then skipBlanks policy j.consume else .ok () j
  | .ok none j => .ok () j
  | .error e j => .error e j
termination_by i.size

/-- Step over one particular byte. -/
def expect (wanted : UInt8) : Scan Unit := fun policy i =>
  match require policy i with
  | .ok found j =>
    if found = wanted then .ok () j
    else
      .error (.protocol ("expected '" ++ String.singleton (Ascii.toChar wanted) ++
        "' but found '" ++ String.singleton (Ascii.toChar found) ++ "'")) j
  | .error e j => .error e j

/-- Put bytes in front of those that a scan has kept. -/
def keep (bs : List UInt8) :
    EStateM.Result ClientError Input (List UInt8) → EStateM.Result ClientError Input (List UInt8)
  | .ok kept j => .ok (bs ++ kept) j
  | .error e j => .error e j

/-- Step to the end of a string whose opening quote has been stepped over. Returns its bytes, the
closing quote included. -/
def stringTail (policy : TransientPolicy) (i : Input) :
    EStateM.Result ClientError Input (List UInt8) :=
  match h : require policy i with
  | .error e j => .error e j
  | .ok b j =>
    have := size_of_require h
    if b = Ascii.backslash then
      match h' : require policy j with
      | .error e k => .error e k
      | .ok c k =>
        have := size_of_require h'
        keep [b, c] (stringTail policy k)
    else if b = Ascii.quote then .ok [b] j
    else keep [b] (stringTail policy j)
termination_by i.size

theorem keep_eq_ok {bs kept : List UInt8} {r : EStateM.Result ClientError Input (List UInt8)}
    {j : Input} (h : keep bs r = .ok kept j) : ∃ tail, r = .ok tail j ∧ kept = bs ++ tail := by
  cases r with
  | ok tail k =>
    simp only [keep, EStateM.Result.ok.injEq] at h
    exact ⟨tail, by rw [h.2], h.1.symm⟩
  | error e k => simp [keep] at h

/-- A string takes at least its closing quote from the input. -/
theorem size_of_stringTail {policy : TransientPolicy} {i j : Input} {bs : List UInt8}
    (h : stringTail policy i = .ok bs j) : j.size < i.size := by
  fun_induction stringTail policy i generalizing bs with
  | case1 => simp at h
  | case2 => simp at h
  | case3 =>
    rename_i ih
    obtain ⟨tail, ht, -⟩ := keep_eq_ok h
    have := ih ht
    omega
  | case4 => simp_all
  | case5 =>
    rename_i ih
    obtain ⟨tail, ht, -⟩ := keep_eq_ok h
    have := ih ht
    omega

/-- Step to the end of a container with `depth` brackets open. Returns its bytes, the last closing
bracket included. Brackets of either kind count alike. -/
def containerTail (policy : TransientPolicy) (depth : Nat) (i : Input) :
    EStateM.Result ClientError Input (List UInt8) :=
  if depth = 0 then .ok [] i
  else
    match h : require policy i with
    | .error e j => .error e j
    | .ok b j =>
      have := size_of_require h
      if b = Ascii.quote then
        match h' : stringTail policy j with
        | .error e k => .error e k
        | .ok text k =>
          have := size_of_stringTail h'
          keep (b :: text) (containerTail policy depth k)
      else if b = Ascii.openBrace ∨ b = Ascii.openBracket then
        keep [b] (containerTail policy (depth + 1) j)
      else if b = Ascii.closeBrace ∨ b = Ascii.closeBracket then
        keep [b] (containerTail policy (depth - 1) j)
      else keep [b] (containerTail policy depth j)
termination_by i.size

/-- A byte after which a number or a literal has ended. -/
def endsScalar (b : UInt8) : Bool :=
  b == Ascii.comma || b == Ascii.closeBrace || b == Ascii.closeBracket || Ascii.isBlank b

/-- Step to the end of a number or a literal. Returns its bytes. -/
def scalarTail (policy : TransientPolicy) (i : Input) :
    EStateM.Result ClientError Input (List UInt8) :=
  match h : peek policy i with
  | .ok (some b) j =>
    have := size_of_peek h
    if endsScalar b then .ok [] j else keep [b] (scalarTail policy j.consume)
  | .ok none j => .ok [] j
  | .error e j => .error e j
termination_by i.size

/-- Step over one value. Returns its bytes. -/
def value : Scan (List UInt8) := fun policy i =>
  match peek policy i with
  | .error e j => .error e j
  | .ok none j => .error truncated j
  | .ok (some b) j =>
    if b = Ascii.quote then keep [b] (stringTail policy j.consume)
    else if b = Ascii.openBrace ∨ b = Ascii.openBracket then
      keep [b] (containerTail policy 1 j.consume)
    else scalarTail policy j

/-- The text of a string literal. -/
def literalText? (bytes : List UInt8) : Option String :=
  match Json.Tree.read? bytes with
  | some (.string parts) => Json.stringOf? parts
  | _ => none

/-- Step over the name of a member. -/
def fieldName : Scan String := fun policy i =>
  match peek policy i with
  | .error e j => .error e j
  | .ok b j =>
    if b = some Ascii.quote then
      match stringTail policy j.consume with
      | .error e k => .error e k
      | .ok bytes k =>
        match literalText? (Ascii.quote :: bytes) with
        | some name => .ok name k
        | none => .error (.protocol "malformed field name") k
    else .error (.protocol "expected field name") j

/-- Step over a blank-separated colon. -/
def colon : Scan Unit := fun policy i =>
  match skipBlanks policy i with
  | .error e j => .error e j
  | .ok () j =>
    match expect Ascii.colon policy j with
    | .error e k => .error e k
    | .ok () k => skipBlanks policy k

/-! ### No scan gives bytes back -/

/-- The input that a scan leaves, be it with a result or a failure. -/
def left {α : Type} : EStateM.Result ClientError Input α → Input
  | .ok _ j => j
  | .error _ j => j

theorem left_keep (bs : List UInt8) (r : EStateM.Result ClientError Input (List UInt8)) :
    left (keep bs r) = left r := by
  cases r <;> rfl

theorem size_left_peek (policy : TransientPolicy) (i : Input) :
    (left (peek policy i)).size = i.size := by
  have h := Input.size_peek i
  unfold peek
  split <;> simp_all [left]

theorem size_left_require (policy : TransientPolicy) (i : Input) :
    (left (require policy i)).size ≤ i.size := by
  have h := size_left_peek policy i
  unfold require
  split
  · next hp => exact Nat.le_of_lt (size_of_peek hp)
  · next hp => exact Nat.le_of_eq (by simpa [hp, left] using h)
  · next hp => exact Nat.le_of_eq (by simpa [hp, left] using h)

theorem size_left_skipBlanks (policy : TransientPolicy) (i : Input) :
    (left (skipBlanks policy i)).size ≤ i.size := by
  fun_induction skipBlanks policy i with
  | case1 => omega
  | _ => have := size_left_peek policy; grind [left]

theorem size_left_stringTail (policy : TransientPolicy) (i : Input) :
    (left (stringTail policy i)).size ≤ i.size := by
  have := size_left_require policy
  fun_induction stringTail policy i <;> grind [left, left_keep]

theorem size_left_containerTail (policy : TransientPolicy) (depth : Nat) (i : Input) :
    (left (containerTail policy depth i)).size ≤ i.size := by
  have := size_left_require policy
  have := size_left_stringTail policy
  fun_induction containerTail policy depth i <;> grind [left, left_keep]

theorem size_left_scalarTail (policy : TransientPolicy) (i : Input) :
    (left (scalarTail policy i)).size ≤ i.size := by
  have := size_left_peek policy
  fun_induction scalarTail policy i <;> grind [left, left_keep]

theorem size_left_value (policy : TransientPolicy) (i : Input) :
    (left (value policy i)).size ≤ i.size := by
  have := size_left_peek policy i
  unfold value
  split
  · grind [left]
  · grind [left]
  · next j h =>
    have hj : j.size = i.size := by grind [left]
    have hlt := size_of_peek h
    split
    · rw [left_keep]
      exact Nat.le_of_lt (Nat.lt_of_le_of_lt (size_left_stringTail policy _) hlt)
    · split
      · rw [left_keep]
        exact Nat.le_of_lt (Nat.lt_of_le_of_lt (size_left_containerTail policy _ _) hlt)
      · rw [← hj]
        exact size_left_scalarTail policy j

theorem size_left_expect (wanted : UInt8) (policy : TransientPolicy) (i : Input) :
    (left (expect wanted policy i)).size ≤ i.size := by
  have := size_left_require policy i
  unfold expect
  grind [left]

theorem size_left_colon (policy : TransientPolicy) (i : Input) :
    (left (colon policy i)).size ≤ i.size := by
  have hi := size_left_skipBlanks policy i
  unfold colon
  split
  · next h => simpa [h, left] using hi
  · next j h =>
    simp only [h, left] at hi
    have hj := size_left_expect Ascii.colon policy j
    split
    · next h' =>
      simp only [h', left] at hj
      exact Nat.le_trans hj hi
    · next k h' =>
      simp only [h', left] at hj
      exact Nat.le_trans (size_left_skipBlanks policy k) (Nat.le_trans hj hi)

/-- A name takes at least its opening quote from the input. -/
theorem size_of_fieldName {policy : TransientPolicy} {i j : Input} {name : String}
    (h : fieldName policy i = .ok name j) : j.size < i.size := by
  unfold fieldName at h
  split at h
  · simp at h
  · next b k hb =>
    split at h
    · next hq =>
      subst hq
      have := size_of_peek hb
      split at h
      · simp at h
      · next hs =>
        have := size_of_stringTail hs
        grind
    · simp at h

end Scan

end QueryClient
