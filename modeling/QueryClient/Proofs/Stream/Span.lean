import QueryClient.Proofs.Json.RoundTrip
import QueryClient.Proofs.Stream.Steps

/-!
# What a scan takes from its input

From an input that brings bytes without a failure a scan takes some off the front, whatever these
bytes are. `Takes fits i bs r` says of the outcome `r` that a result came with a front of `bs` that
fits it, and that a failure is one of the protocol. Main statement: `next_of_brings`, which tells
all that a call for the next element may do.
-/

namespace QueryClient

/-- An input behind bytes that have been stepped over, and what it still brings. -/
structure Input.After (i : Input) (front rest : List UInt8) (j : Input) : Prop where
  brings : j.Brings rest
  offset : j.offset = i.offset + front.length

theorem Input.Brings.after {i : Input} {bs : List UInt8} (h : i.Brings bs) : i.After [] bs i :=
  ⟨h, rfl⟩

theorem Input.After.trans {i j k : Input} {front middle rest rest' : List UInt8}
    (hj : i.After front rest j) (hk : j.After middle rest' k) :
    i.After (front ++ middle) rest' k := by
  refine ⟨hk.brings, ?_⟩
  rw [hk.offset, hj.offset, List.length_append, Nat.add_assoc]

namespace Scan

variable {α β : Type} (policy : TransientPolicy) {i j : Input} {bs front rest : List UInt8}

/-- The outcome of a scan, given the bytes that its input brings: it has taken a front of them,
which fits the result, or it has failed on the way. -/
inductive Takes (fits : α → List UInt8 → Prop) (i : Input) (bs : List UInt8) :
    EStateM.Result ClientError Input α → Prop
  | result {a front rest j} : bs = front ++ rest → i.After front rest j → fits a front →
      Takes fits i bs (.ok a j)
  | failure {message front rest j} : bs = front ++ rest → i.After front rest j →
      Takes fits i bs (.error (.protocol message) j)

variable {fits : α → List UInt8 → Prop} {fits' : β → List UInt8 → Prop}
  {r : EStateM.Result ClientError Input α}

theorem takes_ok {a : α} (h : i.Brings bs) (ha : fits a []) : Takes fits i bs (.ok a i) :=
  .result rfl h.after ha

theorem takes_error {message : String} (h : i.Brings bs) :
    Takes fits i bs (.error (.protocol message) i) :=
  .failure rfl h.after

theorem Takes.imp {fits₂ : α → List UInt8 → Prop} (h : Takes fits i bs r)
    (himp : ∀ a front, fits a front → fits₂ a front) : Takes fits₂ i bs r := by
  cases h with
  | result hbs hj ha => exact .result hbs hj (himp _ _ ha)
  | failure hbs hj => exact .failure hbs hj

/-- What is taken behind a front is taken with it. -/
theorem Takes.behind (hj : i.After front rest j)
    (h : Takes (fun a back => fits a (front ++ back)) j rest r) :
    Takes fits i (front ++ rest) r := by
  cases h with
  | result hrest hk ha =>
    subst hrest
    exact .result (List.append_assoc ..).symm (hj.trans hk) ha
  | failure hrest hk =>
    subst hrest
    exact .failure (List.append_assoc ..).symm (hj.trans hk)

theorem Takes.andThen {k : α → Input → EStateM.Result ClientError Input β} (h : Takes fits i bs r)
    (hk : ∀ a front rest j, r = .ok a j → i.After front rest j → fits a front →
      Takes (fun b back => fits' b (front ++ back)) j rest (k a j)) :
    Takes fits' i bs (andThen r k) := by
  cases h with
  | result hbs hj ha =>
    subst hbs
    exact .behind hj (hk _ _ _ _ rfl hj ha)
  | failure hbs hj => exact .failure hbs hj

theorem Takes.keep {r : EStateM.Result ClientError Input (List UInt8)} (h : Takes Eq i bs r)
    (cs : List UInt8) : Takes (fun kept back => kept = cs ++ back) i bs (keep cs r) := by
  cases h with
  | result hbs hj ha => exact .result hbs hj (congrArg (cs ++ ·) ha)
  | failure hbs hj => exact .failure hbs hj

/-! ## Single bytes -/

theorem offset_peek (i : Input) : (left (peek policy i)).offset = i.offset := by
  unfold peek Input.peek
  grind [left]

theorem peek_of_brings (h : i.Brings bs) :
    (bs = [] ∧ ∃ j, peek policy i = .ok none j ∧ i.After [] [] j) ∨
      ∃ b rest j, bs = b :: rest ∧ peek policy i = .ok (some b) j ∧ i.After [] (b :: rest) j ∧
        i.After [b] rest j.consume := by
  have hoffset := offset_peek policy i
  cases bs with
  | nil =>
    obtain ⟨j, hpeek, hj⟩ := peek_nil policy h
    rw [hpeek] at hoffset
    exact .inl ⟨rfl, j, hpeek, hj, hoffset⟩
  | cons b rest =>
    obtain ⟨j, hpeek, hj, hconsume⟩ := peek_cons policy h
    rw [hpeek] at hoffset
    exact .inr ⟨b, rest, j, rfl, hpeek, ⟨hj, hoffset⟩, hconsume, congrArg (· + 1) hoffset⟩

/-- A scan that looks at the next byte first. -/
theorem Takes.peek {k : Option UInt8 → Input → EStateM.Result ClientError Input α}
    (h : i.Brings bs)
    (hnone : ∀ j, Scan.peek policy i = .ok none j → i.After [] [] j → Takes fits j [] (k none j))
    (hsome : ∀ b rest j, Scan.peek policy i = .ok (some b) j → i.After [] (b :: rest) j →
      i.After [b] rest j.consume → Takes fits i (b :: rest) (k (some b) j)) :
    Takes fits i bs (Scan.andThen (Scan.peek policy i) k) := by
  rcases peek_of_brings policy h with ⟨rfl, j, hpeek, hj⟩ | ⟨b, rest, j, rfl, hpeek, hj, hconsume⟩
  · rw [hpeek]
    exact .behind hj (hnone j hpeek hj)
  · rw [hpeek]
    exact hsome b rest j hpeek hj hconsume

theorem takes_require (h : i.Brings bs) :
    Takes (fun b front => front = [b]) i bs (require policy i) := by
  rw [require_eq]
  apply Takes.peek policy h
  · intro j _ hj
    exact takes_error hj.brings
  · intro b rest j _ _ hconsume
    exact .behind hconsume (takes_ok hconsume.brings rfl)

theorem takes_expect (wanted : UInt8) (h : i.Brings bs) :
    Takes (fun _ front => front = [wanted]) i bs (expect wanted policy i) := by
  rw [expect_eq]
  apply (takes_require policy h).andThen
  rintro found front rest j - hj rfl
  split
  · next hfound =>
    rw [hfound]
    exact takes_ok hj.brings rfl
  · exact takes_error hj.brings

/-! ## Blanks -/

/-- A run of ASCII blanks. The form feed is one of them, though it is none of JSON's. -/
def Gap (bs : List UInt8) : Prop := ∀ b ∈ bs, Ascii.isBlank b = true

theorem gap_nil : Gap [] := fun _ h => absurd h List.not_mem_nil

theorem gap_cons {b : UInt8} (hb : Ascii.isBlank b = true) (h : Gap bs) : Gap (b :: bs) := by
  intro c hc
  rcases List.mem_cons.mp hc with rfl | hc
  · exact hb
  · exact h c hc

theorem takes_skipBlanks (h : i.Brings bs) :
    Takes (fun _ front => Gap front) i bs (skipBlanks policy i) := by
  induction i using bySize generalizing bs with
  | step i ih =>
    rw [skipBlanks_eq]
    apply Takes.peek policy h
    · intro j _ hj
      exact takes_ok hj.brings gap_nil
    · intro b rest j hpeek hj hconsume
      dsimp only
      split
      · next hb =>
        have hrest := ih j.consume (size_of_peek hpeek) hconsume.brings
        exact .behind hconsume (hrest.imp fun _ back hback => gap_cons hb hback)
      · exact .behind hj (takes_ok hj.brings gap_nil)

/-! ## Values -/

theorem takes_stringTail (h : i.Brings bs) : Takes Eq i bs (stringTail policy i) := by
  induction i using bySize generalizing bs with
  | step i ih =>
    rw [stringTail_eq]
    apply (takes_require policy h).andThen
    rintro b front rest j hrequire hj rfl
    have hsize := size_of_require hrequire
    split
    · apply (takes_require policy hj.brings).andThen
      rintro c front rest k hrequire' hk rfl
      have hsize' := size_of_require hrequire'
      exact (ih k (Nat.lt_trans hsize' hsize) hk.brings).keep [b, c]
    · split
      · exact takes_ok hj.brings rfl
      · exact (ih j hsize hj.brings).keep [b]

theorem takes_containerTail (depth : Nat) (h : i.Brings bs) :
    Takes Eq i bs (containerTail policy depth i) := by
  induction i using bySize generalizing depth bs with
  | step i ih =>
    cases depth with
    | zero =>
      rw [containerTail_zero]
      exact takes_ok h rfl
    | succ depth =>
      rw [containerTail_succ]
      apply (takes_require policy h).andThen
      rintro b front rest j hrequire hj rfl
      have hsize := size_of_require hrequire
      split
      · apply (takes_stringTail policy hj.brings).andThen
        rintro text front rest k hstring hk rfl
        have hsize' := size_of_stringTail hstring
        exact (ih k (Nat.lt_trans hsize' hsize) _ hk.brings).keep (b :: text)
      · -- a bracket of either kind or any other byte, which only the count tells apart
        split
        · exact (ih j hsize _ hj.brings).keep [b]
        · split
          · exact (ih j hsize _ hj.brings).keep [b]
          · exact (ih j hsize _ hj.brings).keep [b]

theorem takes_scalarTail (h : i.Brings bs) : Takes Eq i bs (scalarTail policy i) := by
  induction i using bySize generalizing bs with
  | step i ih =>
    rw [scalarTail_eq]
    apply Takes.peek policy h
    · intro j _ hj
      exact takes_ok hj.brings rfl
    · intro b rest j hpeek hj hconsume
      dsimp only
      split
      · exact .behind hj (takes_ok hj.brings rfl)
      · exact .behind hconsume ((ih j.consume (size_of_peek hpeek) hconsume.brings).keep [b])

/-- The bytes that a value's scan returns are the ones that it has taken. -/
theorem takes_value (h : i.Brings bs) : Takes Eq i bs (value policy i) := by
  rw [value_eq]
  apply Takes.peek policy h
  · intro j _ hj
    exact takes_error hj.brings
  · intro b rest j _ hj hconsume
    dsimp only
    split
    · exact .behind hconsume ((takes_stringTail policy hconsume.brings).keep [b])
    · split
      · exact .behind hconsume ((takes_containerTail policy 1 hconsume.brings).keep [b])
      · exact .behind hj (takes_scalarTail policy hj.brings)

/-! ## Names -/

theorem takes_fieldName (h : i.Brings bs) :
    Takes (fun _ _ => True) i bs (fieldName policy i) := by
  rw [fieldName_eq]
  apply Takes.peek policy h
  · intro j _ hj
    exact takes_error hj.brings
  · intro b rest j _ hj hconsume
    split
    · apply Takes.behind hconsume
      apply (takes_stringTail policy hconsume.brings).andThen
      intro bytes front rest k _ hk _
      split
      · exact takes_ok hk.brings trivial
      · exact takes_error hk.brings
    · exact .behind hj (takes_error hj.brings)

theorem takes_colon (h : i.Brings bs) : Takes (fun _ _ => True) i bs (colon policy i) := by
  rw [colon_eq]
  apply (takes_skipBlanks policy h).andThen
  intro _ front rest j _ hj _
  apply (takes_expect policy _ hj.brings).andThen
  intro _ front rest k _ hk _
  exact (takes_skipBlanks policy hk.brings).imp fun _ _ _ => trivial

end Scan

namespace ElementStream

open Scan

variable (field : String) (policy : TransientPolicy) {i : Input} {bs : List UInt8}

/-! ## Finding the array -/

/-- The last byte that has been taken is an opening square bracket. -/
def Bracketed (front : List UInt8) : Prop := ∃ before, front = before ++ [Ascii.openBracket]

theorem Bracketed.append {back : List UInt8} (h : Bracketed back) (front : List UInt8) :
    Bracketed (front ++ back) := by
  obtain ⟨before, rfl⟩ := h
  exact ⟨front ++ before, (List.append_assoc ..).symm⟩

theorem takes_enterArray (h : i.Brings bs) :
    Takes (fun _ front => Bracketed front) i bs (enterArray field policy i) := by
  rw [enterArray_eq]
  apply Takes.peek policy h
  · intro j _ hj
    exact takes_error hj.brings
  · intro b rest j _ hj hconsume
    split
    · next hb =>
      obtain rfl := Option.some.inj hb
      exact .behind hconsume (takes_ok hconsume.brings ⟨[], rfl⟩)
    · exact .behind hj (takes_error hj.brings)

theorem takes_atMember (h : i.Brings bs)
    (hpast : ∀ j rest, j.size < i.size → j.Brings rest →
      Takes (fun _ front => Bracketed front) j rest (seekField field policy j)) :
    Takes (fun _ front => Bracketed front) i bs (atMember field policy i) := by
  apply (takes_fieldName policy h).andThen
  intro name front rest j hname hj _
  apply (takes_colon policy hj.brings).andThen
  intro _ front' rest k hcolon hk _
  split
  · have hback := takes_enterArray field policy hk.brings
    exact hback.imp fun _ back h => (h.append front').append front
  · apply (takes_value policy hk.brings).andThen
    intro bytes front'' rest l hvalue hl _
    have hback := hpast l rest (size_of_member hname hcolon hvalue) hl.brings
    exact hback.imp fun _ back h => ((h.append front'').append front').append front

/-- The search ends behind an opening square bracket. -/
theorem takes_seekField (h : i.Brings bs) :
    Takes (fun _ front => Bracketed front) i bs (seekField field policy i) := by
  induction i using bySize generalizing bs with
  | step i ih =>
    rw [seekField_steps]
    apply (takes_skipBlanks policy h).andThen
    intro _ front rest j hblanks hj _
    have hsize {b k} := size_of_blanks_peek (b := b) (k := k) hblanks
    apply Takes.imp _ fun _ back (h : Bracketed back) => h.append front
    apply Takes.peek policy hj.brings
    · intro k hpeek hk
      exact takes_atMember field policy hk.brings fun l rest hl hrest =>
        ih l (Nat.lt_of_lt_of_le hl (hsize hpeek)) hrest
    · intro b rest k hpeek hk hconsume
      split
      · exact .behind hk (takes_error hk.brings)
      · split
        · have hback := ih k.consume (size_of_blanks_byte hblanks hpeek) hconsume.brings
          exact .behind hconsume (hback.imp fun _ back h => h.append [b])
        · apply Takes.behind hk
          exact takes_atMember field policy hk.brings fun l rest hl hrest =>
            ih l (Nat.lt_of_lt_of_le hl (hsize hpeek)) hrest

theorem takes_search (h : i.Brings bs) :
    Takes (fun _ front => Bracketed front) i bs (search field policy i) := by
  apply (takes_skipBlanks policy h).andThen
  intro _ front rest j _ hj _
  apply (takes_expect policy _ hj.brings).andThen
  intro _ front' rest k _ hk _
  have hseek := takes_seekField field policy hk.brings
  exact hseek.imp fun _ back hback => (hback.append front').append front

theorem of_locate {policy : TransientPolicy} {s : ElementStream} {j : Input}
    (h : locate field policy i = .ok s j) : s = ⟨j, policy, .first⟩ := by
  unfold locate at h
  grind

/-- The input of a stream that has been found stands behind the opening bracket of its array. -/
theorem takes_locate (h : i.Brings bs) :
    Takes (fun _ front => Bracketed front) i bs (locate field policy i) := by
  rw [locate_search]
  apply (takes_search field policy h).andThen
  intro _ front rest j _ hj hbracket
  apply takes_ok hj.brings
  rwa [List.append_nil]

/-! ## Reading elements -/

/-- What has to come before an element, if only blanks have been stepped over. -/
def Leads : Position → List UInt8 → Prop
  | .rest, l => ∃ gap, Gap gap ∧ l = Ascii.comma :: gap
  | _, l => l = []

/-- What a call for the next element takes, given the bytes of the element that it finds. -/
def Finds (position : Position) : Option (List UInt8) → List UInt8 → Prop
  | none, front => ∃ r, Gap r ∧ front = r ++ [Ascii.closeBracket]
  | some e, front => ∃ r l, Gap r ∧ Leads position l ∧ front = r ++ (l ++ e)

theorem takes_lead (position : Position) (h : i.Brings bs) :
    Takes (fun _ front => Leads position front) i bs (lead position policy i) := by
  unfold lead
  cases position with
  | first => exact takes_ok h rfl
  | done => exact takes_ok h rfl
  | rest =>
    rw [if_pos rfl]
    apply (takes_expect policy _ h).andThen
    rintro _ front rest j _ hj rfl
    exact (takes_skipBlanks policy hj.brings).imp fun _ gap hgap => ⟨gap, hgap, rfl⟩

theorem takes_nextText (position : Position) (h : i.Brings bs) :
    Takes (Finds position) i bs (nextText position policy i) := by
  rw [nextText_eq]
  apply (takes_skipBlanks policy h).andThen
  intro _ r rest j _ hj hr
  have helement {k : Input} {rest : List UInt8} (hk : k.Brings rest) :
      Takes (fun found back => Finds position found (r ++ back)) k rest
        (andThen (lead position policy k) fun _ l =>
          andThen (value policy l) fun bytes m => .ok (some bytes) m) := by
    apply (takes_lead policy position hk).andThen
    intro _ l rest m _ hm hl
    apply (takes_value policy hm.brings).andThen
    rintro e _ rest n _ hn rfl
    exact takes_ok hn.brings ⟨r, l, hr, hl, by rw [List.append_nil]⟩
  apply Takes.peek policy hj.brings
  · intro k _ hk
    exact helement hk.brings
  · intro b rest k _ hk hconsume
    split
    · next hb =>
      obtain rfl := Option.some.inj hb
      exact .behind hconsume (takes_ok hconsume.brings ⟨r, hr, rfl⟩)
    · exact .behind hk (helement hk.brings)

/-- All that a call for the next element may do, given the bytes that the input brings. -/
inductive Reads (s : ElementStream) (bs : List UInt8) :
    Result (Option Json) × ElementStream → Prop
  /-- The end has been met before. -/
  | spent : s.position = .done → Reads s bs (.ok none, s)
  | close {front rest j} : s.position ≠ .done → bs = front ++ rest → s.input.After front rest j →
      Finds s.position none front → Reads s bs (.ok none, { s with input := j, position := .done })
  | element {e v front rest j} : s.position ≠ .done → bs = front ++ rest →
      s.input.After front rest j → Finds s.position (some e) front → Json.read? e = some v →
      Reads s bs (.ok (some v), { s with input := j, position := .rest })
  | failure {message front rest j position} : bs = front ++ rest → s.input.After front rest j →
      Reads s bs (.error (.protocol message), { s with input := j, position := position })

theorem next_of_error {s : ElementStream} {e : ClientError} {j : Input} (hs : s.position ≠ .done)
    (h : nextText s.position s.policy s.input = .error e j) :
    s.next = (.error e, { s with input := j }) := by
  unfold next
  rw [if_neg hs, h]

/-- A value is read back from the text that is written for it. -/
theorem answer_bytes {v : Json} (wf : v.WellFormed) (integral : v.Integral)
    (shallow : v.nesting ≤ Json.depthLimit) : answer (some v.bytes) = .ok (some v) := by
  simp only [answer, Json.read?_bytes wf integral shallow]

theorem next_of_done {s : ElementStream} (hs : s.position = .done) : s.next = (.ok none, s) := by
  unfold next
  rw [if_pos hs]

/-- **A call for the next element takes an element with what comes before it, or the end, and
otherwise fails with a failure of the protocol.** -/
theorem next_of_brings (s : ElementStream) (h : s.input.Brings bs) : Reads s bs s.next := by
  by_cases hs : s.position = .done
  · rw [next_of_done hs]
    exact .spent hs
  · have htakes := takes_nextText s.policy s.position h
    cases htext : nextText s.position s.policy s.input with
    | error e j =>
      rw [htext] at htakes
      rw [next_of_error hs htext]
      cases htakes with
      | failure hbs hj => exact .failure hbs hj
    | ok found j =>
      rw [htext] at htakes
      cases htakes with
      | result hbs hj hfound =>
        cases found with
        | none =>
          rw [next_of_end hs htext]
          exact .close hs hbs hj hfound
        | some e =>
          rw [next_of_text hs htext]
          cases hread : Json.read? e with
          | none =>
            have hanswer : answer (some e) = .error (.protocol "malformed result row") := by
              simp only [answer, hread]
            rw [hanswer]
            exact .failure hbs hj
          | some v =>
            have hanswer : answer (some e) = .ok (some v) := by
              simp only [answer, hread]
            rw [hanswer]
            exact .element hs hbs hj hfound hread

/-- A call takes a front of the bytes, whatever comes of it. -/
theorem after_next (s : ElementStream) (h : s.input.Brings bs) :
    ∃ front rest, bs = front ++ rest ∧ s.input.After front rest s.next.2.input := by
  have hreads := next_of_brings s h
  generalize s.next = out at hreads
  cases hreads with
  | spent => exact ⟨[], bs, rfl, h.after⟩
  | close _ hbs hj => exact ⟨_, _, hbs, hj⟩
  | element _ hbs hj => exact ⟨_, _, hbs, hj⟩
  | failure hbs hj => exact ⟨_, _, hbs, hj⟩

theorem finds_end {s : ElementStream} (h : s.input.Brings bs) (hs : s.position ≠ .done)
    (hnext : s.next.1 = .ok none) :
    ∃ front rest, bs = front ++ rest ∧ s.input.After front rest s.next.2.input ∧
      Finds s.position none front := by
  have hreads := next_of_brings s h
  generalize s.next = out at hreads hnext
  cases hreads with
  | spent hdone => exact absurd hdone hs
  | close _ hbs hj hfound => exact ⟨_, _, hbs, hj, hfound⟩
  | element => exact nomatch hnext
  | failure => exact nomatch hnext

theorem finds_element {s : ElementStream} {v : Json} (h : s.input.Brings bs)
    (hnext : s.next.1 = .ok (some v)) :
    ∃ e front rest, bs = front ++ rest ∧ s.input.After front rest s.next.2.input ∧
      s.next.2.position = .rest ∧ Finds s.position (some e) front ∧ Json.read? e = some v := by
  have hreads := next_of_brings s h
  generalize s.next = out at hreads hnext
  cases hreads with
  | spent => exact nomatch hnext
  | close => exact nomatch hnext
  | failure => exact nomatch hnext
  | element _ hbs hj hfound hread =>
    obtain rfl := Option.some.inj (Except.ok.inj hnext)
    exact ⟨_, _, _, hbs, hj, rfl, hfound, hread⟩

end ElementStream
end QueryClient
