import QueryClient.Proofs.Stream.Elements

/-!
# Scans as sequences of steps

`andThen` goes on with the result of a scan where the scan has left the input. Every scan is written
here as a first step and what comes after it, down to looking at one byte, so that a property that
holds of single steps and is kept by `andThen` holds of every scan.

A loop calls itself with fewer bytes ahead, hence the induction on their number (`bySize`).
-/

namespace QueryClient.Scan

variable {α β : Type} (policy : TransientPolicy) (i : Input)

/-- Go on with the result of a scan where the scan has left the input. -/
def andThen (r : EStateM.Result ClientError Input α)
    (k : α → Input → EStateM.Result ClientError Input β) : EStateM.Result ClientError Input β :=
  match r with
  | .ok a j => k a j
  | .error e j => .error e j

@[simp] theorem andThen_ok (a : α) (j : Input)
    (k : α → Input → EStateM.Result ClientError Input β) : andThen (.ok a j) k = k a j := rfl

@[simp] theorem andThen_error (e : ClientError) (j : Input)
    (k : α → Input → EStateM.Result ClientError Input β) : andThen (.error e j) k = .error e j :=
  rfl

/-- Induction on the number of bytes that an input can still bring. -/
theorem bySize {motive : Input → Prop} (step : ∀ i, (∀ j, j.size < i.size → motive j) → motive i)
    (i : Input) : motive i :=
  (measure Input.size).wf.induction i step

/-! ## The steps of a scan -/

theorem keep_eq (bs : List UInt8) (r : EStateM.Result ClientError Input (List UInt8)) :
    keep bs r = andThen r fun kept j => .ok (bs ++ kept) j := by
  cases r <;> rfl

theorem require_eq :
    require policy i = andThen (peek policy i) fun
      | some b, j => .ok b j.consume
      | none, j => .error truncated j := by
  unfold require
  split <;> simp_all

theorem skipBlanks_eq :
    skipBlanks policy i = andThen (peek policy i) fun
      | some b, j => if Ascii.isBlank b then skipBlanks policy j.consume else .ok () j
      | none, j => .ok () j := by
  rw [skipBlanks]
  split <;> simp_all

/-- The failure of a scan that finds another byte than it has to. -/
def unexpected (wanted found : UInt8) : ClientError :=
  .protocol ("expected '" ++ String.singleton (Ascii.toChar wanted) ++
    "' but found '" ++ String.singleton (Ascii.toChar found) ++ "'")

theorem expect_eq (wanted : UInt8) :
    expect wanted policy i = andThen (require policy i) fun found j =>
      if found = wanted then .ok () j else .error (unexpected wanted found) j := by
  unfold expect
  split <;> simp_all [unexpected]

theorem stringTail_eq :
    stringTail policy i = andThen (require policy i) fun b j =>
      if b = Ascii.backslash then
        andThen (require policy j) fun c k => keep [b, c] (stringTail policy k)
      else if b = Ascii.quote then .ok [b] j
      else keep [b] (stringTail policy j) := by
  cases h : require policy i with
  | ok b j =>
    rw [stringTail_of_require h]
    grind [andThen]
  | error e j =>
    rw [stringTail]
    split <;> simp_all

theorem containerTail_zero : containerTail policy 0 i = .ok [] i := by
  rw [containerTail, if_pos rfl]

theorem containerTail_succ (depth : Nat) :
    containerTail policy (depth + 1) i = andThen (require policy i) fun b j =>
      if b = Ascii.quote then
        andThen (stringTail policy j) fun text k =>
          keep (b :: text) (containerTail policy (depth + 1) k)
      else if IsOpening b then keep [b] (containerTail policy (depth + 2) j)
      else if IsClosing b then keep [b] (containerTail policy depth j)
      else keep [b] (containerTail policy (depth + 1) j) := by
  cases h : require policy i with
  | ok b j =>
    rw [containerTail_of_require h]
    grind [andThen, IsOpening, IsClosing]
  | error e j =>
    rw [containerTail, if_neg (Nat.succ_ne_zero depth)]
    split <;> simp_all

theorem scalarTail_eq :
    scalarTail policy i = andThen (peek policy i) fun
      | some b, j => if endsScalar b then .ok [] j else keep [b] (scalarTail policy j.consume)
      | none, j => .ok [] j := by
  rw [scalarTail]
  split <;> simp_all

theorem value_eq :
    value policy i = andThen (peek policy i) fun
      | some b, j =>
        if b = Ascii.quote then keep [b] (stringTail policy j.consume)
        else if IsOpening b then keep [b] (containerTail policy 1 j.consume)
        else scalarTail policy j
      | none, j => .error truncated j := by
  unfold value
  grind [andThen, IsOpening]

theorem fieldName_eq :
    fieldName policy i = andThen (peek policy i) fun b j =>
      if b = some Ascii.quote then
        andThen (stringTail policy j.consume) fun bytes k =>
          match literalText? (Ascii.quote :: bytes) with
          | some name => .ok name k
          | none => .error (.protocol "malformed field name") k
      else .error (.protocol "expected field name") j := by
  unfold fieldName
  grind [andThen]

theorem colon_eq :
    colon policy i = andThen (skipBlanks policy i) fun _ j =>
      andThen (expect Ascii.colon policy j) fun _ k => skipBlanks policy k := by
  unfold colon
  grind [andThen]

/-- Looking again shows the same byte. -/
theorem peek_of_peek {policy : TransientPolicy} {i j : Input} {b : UInt8}
    (h : peek policy i = .ok (some b) j) : peek policy j = .ok (some b) j := by
  unfold peek Input.peek at h ⊢
  grind [Input.settle]

end QueryClient.Scan

namespace QueryClient.ElementStream

open Scan

variable (field : String) (policy : TransientPolicy) (i : Input)

/-! ## The steps of a stream -/

theorem enterArray_eq :
    enterArray field policy i = andThen (peek policy i) fun b j =>
      if b = some Ascii.openBracket then .ok () j.consume
      else .error (.protocol ("'" ++ field ++ "' is not an array")) j := by
  unfold enterArray
  grind [andThen]

/-- At a member the search goes into its value or past it. -/
def atMember : Scan Unit := fun policy i =>
  andThen (fieldName policy i) fun name j =>
    andThen (colon policy j) fun _ k =>
      if name = field then enterArray field policy k
      else andThen (value policy k) fun _ l => seekField field policy l

theorem seekField_steps :
    seekField field policy i = andThen (skipBlanks policy i) fun _ j =>
      andThen (peek policy j) fun b k =>
        if b = some Ascii.closeBrace then
          .error (.protocol ("'" ++ field ++ "' not found in response")) k
        else if b = some Ascii.comma then seekField field policy k.consume
        else atMember field policy k := by
  rw [seekField_eq]
  unfold atMember
  cases skipBlanks policy i with
  | error e j => rfl
  | ok _ j =>
    simp only [andThen_ok]
    cases peek policy j with
    | error e k => rfl
    | ok b k => grind [andThen]

/-- The search for the array, as far as the input goes. -/
def search : Scan Unit := fun policy i =>
  andThen (skipBlanks policy i) fun _ j =>
    andThen (expect Ascii.openBrace policy j) fun _ k => seekField field policy k

theorem locate_search :
    locate field policy i =
      andThen (search field policy i) fun _ j => .ok ⟨j, policy, .first⟩ j := by
  unfold locate search
  grind [andThen]

/-- The steps to an array that is the first member of its object. -/
theorem locate_of_steps {field : String} {policy : TransientPolicy} {i i₁ i₂ i₃ i₄ i₅ i₆ i₇ : Input}
    {name : List UInt8} (hobject : skipBlanks policy i = .ok () i₁)
    (hbrace : expect Ascii.openBrace policy i₁ = .ok () i₂)
    (hmember : skipBlanks policy i₂ = .ok () i₃)
    (hquote : peek policy i₃ = .ok (some Ascii.quote) i₄)
    (hname : stringTail policy i₄.consume = .ok name i₅)
    (hfield : literalText? (Ascii.quote :: name) = some field)
    (hcolon : colon policy i₅ = .ok () i₆) (harray : enterArray field policy i₆ = .ok () i₇) :
    locate field policy i = .ok ⟨i₇, policy, .first⟩ i₇ := by
  have hat : fieldName policy i₄ = .ok field i₅ := by
    have hagain : peek policy i₄ = .ok (some Ascii.quote) i₄ := peek_of_peek hquote
    rw [fieldName_eq, hagain]
    simp only [andThen_ok, if_true, hname, hfield]
  have hbrace' : some Ascii.quote ≠ some Ascii.closeBrace := by decide
  have hcomma' : some Ascii.quote ≠ some Ascii.comma := by decide
  have hseek : seekField field policy i₂ = .ok () i₇ := by
    rw [seekField_steps, hmember, andThen_ok, hquote, andThen_ok, if_neg hbrace', if_neg hcomma']
    unfold atMember
    rw [hat, andThen_ok, hcolon, andThen_ok, if_pos rfl, harray]
  rw [locate_search]
  unfold search
  rw [hobject, andThen_ok, hbrace, andThen_ok, hseek, andThen_ok]

/-- The array of the first member is found whatever stands in it. -/
theorem locate_leading {field : String} (policy : TransientPolicy) {i : Input}
    {name tail : List UInt8} (hname : Json.Spells name field.toList)
    (h : i.Brings (Ascii.openBrace :: Ascii.quote ::
      (name ++ Ascii.quote :: Ascii.colon :: Ascii.openBracket :: tail))) :
    ∃ j, locate field policy i = .ok ⟨j, policy, .first⟩ j ∧ j.Brings tail := by
  obtain ⟨i₁, hobject, h₁⟩ := skipBlanks_solid policy (solid_cons rfl) h
  obtain ⟨i₂, hbrace, h₂⟩ := expect_cons policy h₁
  obtain ⟨i₃, hmember, h₃⟩ := skipBlanks_solid policy (solid_cons rfl) h₂
  obtain ⟨i₄, hquote, -, h₄⟩ := peek_cons policy h₃
  obtain ⟨i₅, htail, h₅⟩ := stringTail_stringText policy hname.stringText h₄
  have hfield := literalText?_of_spells hname
  rw [String.ofList_toList] at hfield
  obtain ⟨i₆, hcolon, h₆⟩ :=
    colon_blanks policy Json.blanks_nil Json.blanks_nil (solid_cons rfl) h₅
  obtain ⟨i₇, harray, h₇⟩ := enterArray_array field policy h₆
  exact ⟨i₇, locate_of_steps hobject hbrace hmember hquote htail hfield hcolon harray, h₇⟩

/-- What comes before an element: a comma and blanks, unless it is the first one. -/
def lead (position : Position) : Scan Unit := fun policy i =>
  if position = .rest then andThen (expect Ascii.comma policy i) fun _ j => skipBlanks policy j
  else .ok () i

theorem nextText_eq (position : Position) :
    nextText position policy i = andThen (skipBlanks policy i) fun _ j =>
      andThen (peek policy j) fun b k =>
        if b = some Ascii.closeBracket then .ok none k.consume
        else
          andThen (lead position policy k) fun _ l =>
            andThen (value policy l) fun bytes m => .ok (some bytes) m := by
  unfold nextText lead
  grind [andThen]

/-! ## What a turn of the search takes -/

/-- A member takes at least the opening quote of its name from the input. -/
theorem size_of_member {policy : TransientPolicy} {i j k l : Input} {name : String}
    {bytes : List UInt8} (hname : fieldName policy i = .ok name j)
    (hcolon : colon policy j = .ok () k) (hvalue : value policy k = .ok bytes l) :
    l.size < i.size := by
  have hj := size_of_fieldName hname
  have hk : k.size ≤ j.size := by simpa [hcolon, left] using size_left_colon policy j
  have hl : l.size ≤ k.size := by simpa [hvalue, left] using size_left_value policy k
  omega

/-- Blanks and a look at what comes after them give no bytes back. -/
theorem size_of_blanks_peek {policy : TransientPolicy} {i j k : Input} {b : Option UInt8}
    (hblanks : skipBlanks policy i = .ok () j) (hpeek : peek policy j = .ok b k) :
    k.size ≤ i.size := by
  have hj : j.size ≤ i.size := by simpa [hblanks, left] using size_left_skipBlanks policy i
  have hk : k.size = j.size := by simpa [hpeek, left] using size_left_peek policy j
  omega

/-- A byte behind blanks takes at least itself from the input. -/
theorem size_of_blanks_byte {policy : TransientPolicy} {i j k : Input} {b : UInt8}
    (hblanks : skipBlanks policy i = .ok () j) (hpeek : peek policy j = .ok (some b) k) :
    k.consume.size < i.size := by
  have hj : j.size ≤ i.size := by simpa [hblanks, left] using size_left_skipBlanks policy i
  exact Nat.lt_of_lt_of_le (size_of_peek hpeek) hj

end QueryClient.ElementStream
