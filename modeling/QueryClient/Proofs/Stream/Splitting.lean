import QueryClient.Proofs.Stream.Resumption

/-!
# Reading is incremental

However the bytes of a body are split into refills, a stream answers alike, and up to an offset it
answers alike over all bodies that begin alike. Both come from one comparison: an input that is cut
off at an offset goes along with every input that brings the same bytes up to there
(`Strike.Twin`), for as long as neither is read that far. Main statement: `reading_incremental`.
-/

namespace QueryClient

/-! ## Bodies in pieces -/

/-- A way of splitting a body into refills of the buffer, none of them empty. -/
structure Splitting (body : List UInt8) where
  pieces : List (List UInt8)
  solid : ∀ piece ∈ pieces, piece ≠ []
  whole : pieces.flatten = body

namespace Splitting

variable {body : List UInt8}

/-- The input that brings the pieces one after the other. -/
def input (p : Splitting body) : Input := .ofRefills (p.pieces.map .bytes)

theorem brought_bytes (pieces : List (List UInt8)) :
    Input.brought (pieces.map .bytes) = pieces.flatten.map .ok := by
  induction pieces with
  | nil => rfl
  | cons piece pieces ih =>
    rw [List.map_cons, Input.brought, ih, List.flatten_cons, List.map_append]

/-- A body that comes in one piece. -/
def entire (body : List UInt8) (h : body ≠ []) : Splitting body where
  pieces := [body]
  solid := by simpa using h
  whole := List.flatten_singleton

/-- A body that comes byte by byte. -/
def bytewise (body : List UInt8) : Splitting body where
  pieces := body.map fun b => [b]
  solid := by simp
  whole := by rw [← List.flatMap_def, List.flatMap_singleton']

theorem brings_input (p : Splitting body) : p.input.Brings body := by
  apply Input.brings_ofRefills
  rw [brought_bytes, p.whole]

end Splitting

namespace ElementStream

open Scan

variable {x : Strike} {s s₀ : ElementStream} {i i₀ : Input}

/-! ## What a number of calls answer -/

/-- The answers of the first calls of `next`, each with whether the end has been reached then. -/
def answers : Nat → ElementStream → List (Result (Option Json) × Bool)
  | 0, _ => []
  | n + 1, s => (s.next.1, s.next.2.isDone) :: answers n s.next.2

variable (field : String) (policy : TransientPolicy)

/-- Find an array and make a number of calls. -/
def reading (i : Input) (n : Nat) : Result (List (Result (Option Json) × Bool)) :=
  match locate field policy i with
  | .ok s _ => .ok (s.answers n)
  | .error e _ => .error e

/-- The offset at which the input stands after that. -/
def reach (i : Input) (n : Nat) : Nat :=
  match locate field policy i with
  | .ok s _ => (s.skip n).input.offset
  | .error _ j => j.offset

/-! ## Beside an input that is cut off -/

/-- A call goes along on both streams, or takes both of them as far as the fault. -/
theorem next_alike_or_past (h : Paired x s s₀) :
    (s.next.1 = s₀.next.1 ∧ Paired x s.next.2 s₀.next.2) ∨
      x.fault.start ≤ s.next.2.input.offset ∧ x.fault.start ≤ s₀.next.2.input.offset := by
  have hbeside := next_of_paired h
  generalize s.next = out at hbeside ⊢
  generalize s₀.next = out₀ at hbeside ⊢
  cases hbeside with
  | alike ht => exact .inl ⟨rfl, ht⟩
  | fault hstruck hpassed => exact .inr ⟨Nat.le_of_eq hstruck.stops.offset.symm, hpassed.offset⟩

/-- If one of two streams is not read as far as the fault, they answer alike. -/
theorem answers_of_paired (h : Paired x s s₀) {n : Nat}
    (hshort : (s.skip n).input.offset < x.fault.start ∨
      (s₀.skip n).input.offset < x.fault.start) :
    s.answers n = s₀.answers n ∧ (s.skip n).input.offset = (s₀.skip n).input.offset := by
  induction n generalizing s s₀ with
  | zero => exact ⟨rfl, h.input.offset⟩
  | succ n ih =>
    rw [skip, skip] at hshort
    rw [answers, answers, skip, skip]
    rcases next_alike_or_past h with ⟨hanswer, ht⟩ | ⟨hpast, hpast₀⟩
    · obtain ⟨hanswers, hoffset⟩ := ih ht hshort
      have hdone : s.next.2.isDone = s₀.next.2.isDone := by rw [isDone, isDone, ht.position]
      rw [hanswer, hdone, hanswers]
      exact ⟨rfl, hoffset⟩
    · -- no call goes back, so both would be read beyond the fault
      have honward := (onward_skip ((policy_next s).trans h.policy) n).offset
      have honward₀ := (onward_skip ((policy_next s₀).trans h.policy₀) n).offset
      omega

theorem offset_search_le_reach (i : Input) (n : Nat) :
    (left (search field x.policy i)).offset ≤ reach field x.policy i n := by
  unfold reach
  rw [locate_search]
  cases search field x.policy i with
  | ok _ j => exact (onward_skip (s := ⟨j, x.policy, .first⟩) rfl n).offset
  | error e j => exact Nat.le_refl j.offset

theorem reading_of_twin (h : x.Twin i i₀) {n : Nat}
    (hshort : reach field x.policy i n < x.fault.start ∨
      reach field x.policy i₀ n < x.fault.start) :
    reading field x.policy i n = reading field x.policy i₀ n ∧
      reach field x.policy i n = reach field x.policy i₀ n := by
  have hsearch := (Strike.lockstep_search field).parallel i h
  have hle := offset_search_le_reach (x := x) field i n
  have hle₀ := offset_search_le_reach (x := x) field i₀ n
  unfold reading reach at *
  rw [locate_search] at *
  rw [locate_search] at *
  generalize search field x.policy i = r at hsearch hshort hle ⊢
  generalize search field x.policy i₀ = r₀ at hsearch hshort hle₀ ⊢
  cases hsearch with
  | @result _ j j₀ htwin =>
    have hpaired : Paired x ⟨j, x.policy, .first⟩ ⟨j₀, x.policy, .first⟩ := ⟨htwin, rfl, rfl, rfl⟩
    obtain ⟨hanswers, hoffset⟩ := answers_of_paired hpaired hshort
    exact ⟨congrArg Except.ok hanswers, hoffset⟩
  | failure htwin => exact ⟨rfl, htwin.offset⟩
  | @fault j r₀ hstruck hpassed =>
    have hpast : x.fault.start ≤ j.offset := Nat.le_of_eq hstruck.stops.offset.symm
    rcases hshort with hshort | hshort
    · exact absurd (Nat.le_trans hpast hle) (Nat.not_le_of_lt hshort)
    · exact absurd (Nat.le_trans hpassed.offset hle₀) (Nat.not_le_of_lt hshort)

/-! ## Bodies that begin alike -/

/-- The input is lost for good at an offset. -/
def cutOff (offset : Nat) : Fault := ⟨offset, ⟨.other, none⟩, false⟩

/-- A body that is cut off there is the same for all bodies that begin alike. -/
theorem ofBytes_cutOff {body body' : List UInt8} {offset : Nat}
    (h : body'.take offset = body.take offset) :
    Input.ofBytes 0 body' (some (cutOff offset)) = .ofBytes 0 body (some (cutOff offset)) := by
  have hlength := congrArg List.length h
  rw [List.length_take, List.length_take] at hlength
  by_cases hbody : body.length < offset
  · have hbody' : body'.length < offset := by omega
    rw [List.take_of_length_le (Nat.le_of_lt hbody'),
      List.take_of_length_le (Nat.le_of_lt hbody)] at h
    rw [h]
  · have hbody' : ¬body'.length < offset := by omega
    simp only [Input.ofBytes, cutOff, hbody, hbody', if_false, Bool.false_eq_true, h]

theorem twin_cutOff {body : List UInt8} (p : Splitting body) (offset : Nat) :
    Strike.Twin ⟨cutOff offset, body.drop offset, policy⟩
      (.ofBytes 0 body (some (cutOff offset))) p.input :=
  twin_of_fresh (Input.meets_ofBytes 0 body (cutOff offset)) p.brings_input
    (fresh_ofBytes 0 body (cutOff offset)) ⟨rfl, rfl⟩

/-- What is answered, and how far the input is read for it, depends on nothing beyond the byte at
which the input stands then. -/
theorem reading_of_take {body body' : List UInt8} (p : Splitting body) (q : Splitting body')
    {n : Nat} (h : body'.take (reach field policy p.input n + 1) =
      body.take (reach field policy p.input n + 1)) :
    reading field policy q.input n = reading field policy p.input n := by
  have htwin := twin_cutOff policy p (reach field policy p.input n + 1)
  have htwin' := twin_cutOff policy q (reach field policy p.input n + 1)
  rw [ofBytes_cutOff h] at htwin'
  obtain ⟨hreading, hreach⟩ := reading_of_twin field htwin (.inr (Nat.lt_succ_self _))
  have hshort := Nat.lt_of_le_of_lt (Nat.le_of_eq hreach) (Nat.lt_succ_self _)
  obtain ⟨hreading', -⟩ := reading_of_twin field htwin' (.inl hshort)
  exact hreading'.symm.trans hreading

/-! ## The end of an element -/

/-- The call that comes after `n` calls takes an element, of which this is the text and the offset
right behind it. -/
def TakesElement (i : Input) (n : Nat) (text : List UInt8) (stop : Nat) : Prop :=
  ∃ s j k, locate field policy i = .ok s j ∧ (s.skip n).position ≠ .done ∧
    nextText (s.skip n).position (s.skip n).policy (s.skip n).input = .ok (some text) k ∧
    k.offset = stop

theorem after_skip {bs : List UInt8} (h : s.input.Brings bs) (n : Nat) :
    ∃ front rest, bs = front ++ rest ∧ s.input.After front rest (s.skip n).input := by
  induction n generalizing s bs with
  | zero => exact ⟨[], bs, rfl, h.after⟩
  | succ n ih =>
    obtain ⟨front, rest, rfl, hnext⟩ := after_next s h
    obtain ⟨front', rest', rfl, hskip⟩ := ih hnext.brings
    exact ⟨front ++ front', rest', (List.append_assoc ..).symm, hnext.trans hskip⟩

theorem after_nextText {bs text : List UInt8} {k : Input} (h : s.input.Brings bs)
    (htext : nextText s.position s.policy s.input = .ok (some text) k) :
    ∃ before rest, bs = before ++ text ++ rest ∧ s.input.After (before ++ text) rest k := by
  have htakes := takes_nextText s.policy s.position h
  rw [htext] at htakes
  cases htakes with
  | result hbs hk hfinds =>
    obtain ⟨gap, lead, -, -, rfl⟩ := hfinds
    rw [← List.append_assoc] at hbs hk
    exact ⟨gap ++ lead, _, hbs, hk⟩

variable {field policy} {n stop : Nat} {text body : List UInt8}

theorem reach_of_takesElement (h : TakesElement field policy i n text stop) :
    reach field policy i (n + 1) = stop := by
  obtain ⟨s, j, k, hlocate, hdone, htext, rfl⟩ := h
  unfold reach
  rw [hlocate]
  dsimp only
  rw [skip_succ, next_of_text hdone htext]

/-- The text of an element stands in the body right before the offset to which the input has been
read. -/
theorem text_of_takesElement (hbody : i.Brings body) (hstart : i.offset = 0)
    (h : TakesElement field policy i n text stop) :
    ∃ before after, body = before ++ text ++ after ∧ (before ++ text).length = stop := by
  obtain ⟨s, j, k, hlocate, -, htext, rfl⟩ := h
  have hfound := takes_locate field policy hbody
  rw [hlocate] at hfound
  obtain rfl := of_locate field hlocate
  cases hfound with
  | @result _ front _ _ hfront hj _ =>
    obtain ⟨front', _, rfl, hskip⟩ := after_skip (s := ⟨j, policy, .first⟩) hj.brings n
    obtain ⟨before, rest, rfl, hk⟩ := after_nextText hskip.brings htext
    have hoffset := (hj.trans (hskip.trans hk)).offset
    rw [hstart, Nat.zero_add] at hoffset
    refine ⟨front ++ (front' ++ before), rest, ?_, ?_⟩
    · rw [hfront]
      simp only [List.append_assoc]
    · rw [hoffset]
      simp only [List.append_assoc]

/-- **Reading is incremental.** However a body is split into refills, finding the array and any
number of calls answer alike. If the last of the calls takes an element, all of them answer alike
over every body that agrees up to one byte beyond the end of that element. -/
theorem reading_incremental {body : List UInt8} (p : Splitting body) (field : String)
    (policy : TransientPolicy) :
    (∀ (q : Splitting body) (n : Nat),
      reading field policy q.input n = reading field policy p.input n) ∧
      ∀ (n : Nat) (text : List UInt8) (stop : Nat),
        TakesElement field policy p.input n text stop →
          (∃ before after, body = before ++ text ++ after ∧ (before ++ text).length = stop) ∧
            ∀ (body' : List UInt8) (q : Splitting body'),
              body'.take (stop + 1) = body.take (stop + 1) →
                reading field policy q.input (n + 1) = reading field policy p.input (n + 1) := by
  refine ⟨fun q n => reading_of_take field policy p q rfl, ?_⟩
  intro n text stop helement
  refine ⟨text_of_takesElement p.brings_input rfl helement, ?_⟩
  intro body' q hbegin
  apply reading_of_take field policy p q
  rwa [reach_of_takesElement helement]

/-! ### A number, read in one piece and byte by byte from a body that goes on differently -/

def tornEntire : Splitting tornText := .entire tornText (by decide)

/-- The text up to the comma behind its first number, and then a string that never ends. -/
def openText : List UInt8 := Text.Utf8.encode "\x7b\"results\":[12,\"3".toList

theorem takesElement_torn :
    TakesElement "results" .never tornEntire.input 0 [0x31, 0x32] 14 := by
  have htext : nextText .first .never (tornAt 12 12) = .ok (some [0x31, 0x32]) (tornAt 14 15) := by
    with_unfolding_all rfl
  exact ⟨_, _, _, locate_torn, by decide, htext, rfl⟩

theorem reading_torn :
    TakesElement "results" .never tornEntire.input 0 [0x31, 0x32] 14 ∧
      openText.take 15 = tornText.take 15 ∧
      reading "results" .never (Splitting.bytewise openText).input 1 =
        .ok [(.ok (some (.int (.ofInt64 12))), false)] := by
  have hbegin : openText.take 15 = tornText.take 15 := by decide
  refine ⟨takesElement_torn, hbegin, ?_⟩
  obtain ⟨-, hreading⟩ :=
    (reading_incremental tornEntire "results" .never).2 0 _ 14 takesElement_torn
  rw [hreading openText (.bytewise openText) hbegin]
  have hlocate : locate "results" .never tornEntire.input =
      .ok ⟨tornAt 12 12, .never, .first⟩ (tornAt 12 12) := locate_torn
  have hanswer : answer (some [0x31, 0x32]) = .ok (some (.int (.ofInt64 12))) :=
    answer_bytes (v := .int (.ofInt64 12)) trivial trivial (by decide)
  unfold reading
  rw [hlocate]
  dsimp only
  rw [answers, answers, next_torn, hanswer]
  rfl

end ElementStream
end QueryClient
