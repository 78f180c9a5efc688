import QueryClient.Proofs.Stream.Lockstep
import QueryClient.Proofs.Stream.Progress

/-!
# What a failure of the input does to a stream

A stream over an input that fails goes along with one over an input that does not, until a call
looks at the offset at which the failure is: that call answers what the policy makes of the failure.
To the iterator a failure is the end, wherever it comes from. Main statement: `follows_until_fault`.
-/

namespace QueryClient.ElementStream

open Scan

variable {x : Strike} {s s₀ : ElementStream}

/-! ## Two streams side by side -/

/-- The input of the first stream is to meet the fault, and the other one is as if there were no
fault. -/
structure Paired (x : Strike) (s s₀ : ElementStream) : Prop where
  input : x.Twin s.input s₀.input
  policy : s.policy = x.policy
  policy₀ : s₀.policy = x.policy
  position : s.position = s₀.position

/-- How a call on the first of two streams comes out beside the same call on the other one. -/
inductive Beside (x : Strike) (s : ElementStream) :
    Result (Option Json) × ElementStream → Result (Option Json) × ElementStream → Prop
  | alike {r t t₀} : Paired x t t₀ → Beside x s (r, t) (r, t₀)
  | fault {j out₀} : x.Struck j → x.Passed out₀.2.input → s.position ≠ .done →
      Beside x s (.error x.told, { s with input := j }) out₀

theorem input_next (hs : s.position ≠ .done) :
    s.next.2.input = left (nextText s.position s.policy s.input) := by
  cases htext : nextText s.position s.policy s.input with
  | error e j => rw [next_of_error hs htext]; rfl
  | ok found j =>
    cases found with
    | none => rw [next_of_end hs htext]; rfl
    | some e => rw [next_of_text hs htext]; rfl

theorem next_of_paired (h : Paired x s s₀) : Beside x s s.next s₀.next := by
  have hposition := h.position
  by_cases hs : s.position = .done
  · have hs₀ : s₀.position = .done := hposition.symm.trans hs
    rw [next_of_done hs, next_of_done hs₀]
    exact .alike h
  · have hs₀ : s₀.position ≠ .done := fun h => hs (hposition.trans h)
    have hparallel := (Strike.nextText_lockstep s.position).parallel s.input h.input
    have hinput₀ := input_next hs₀
    have hnext₀ : nextText s.position x.policy s₀.input =
        nextText s₀.position s₀.policy s₀.input := by rw [hposition, h.policy₀]
    rw [hnext₀, ← h.policy] at hparallel
    generalize htext : nextText s.position s.policy s.input = r at hparallel
    generalize htext₀ : nextText s₀.position s₀.policy s₀.input = r₀ at hparallel hinput₀
    cases hparallel with
    | @result found j j₀ htwin =>
      cases found with
      | none =>
        rw [next_of_end hs htext, next_of_end hs₀ htext₀]
        exact .alike ⟨htwin, h.policy, h.policy₀, rfl⟩
      | some e =>
        rw [next_of_text hs htext, next_of_text hs₀ htext₀]
        exact .alike ⟨htwin, h.policy, h.policy₀, rfl⟩
    | failure htwin =>
      rw [next_of_error hs htext, next_of_error hs₀ htext₀]
      exact .alike ⟨htwin, h.policy, h.policy₀, hposition⟩
    | fault hstruck hpassed =>
      rw [next_of_error hs htext]
      rw [← hinput₀] at hpassed
      exact .fault hstruck hpassed hs

theorem policy_next (s : ElementStream) : s.next.2.policy = s.policy := by
  unfold next
  grind

theorem policy_nextItem (s : ElementStream) : s.nextItem.2.policy = s.policy := by
  have hnext := policy_next s
  unfold nextItem
  grind

/-- No call goes back in the input. -/
theorem onward_next (h : s.policy = x.policy) : s.input.Onward s.next.2.input := by
  by_cases hs : s.position = .done
  · rw [next_of_done hs]
    exact .refl s.input
  · rw [input_next hs, h]
    exact (Strike.nextText_lockstep s.position).onward

/-! ## The items of both -/

/-- What the iterator does with how a call comes out. -/
theorem nextItem_of_paired (h : Paired x s s₀) :
    (s.nextItem.1 = s₀.nextItem.1 ∧ Paired x s.nextItem.2 s₀.nextItem.2) ∨
      s.nextItem.1 = .error x.told ∧ x.Struck s.nextItem.2.input ∧
        x.Passed s₀.nextItem.2.input := by
  have hbeside := next_of_paired h
  have hinput := input_nextItem s
  have hinput₀ := input_nextItem s₀
  unfold nextItem at hinput hinput₀ ⊢
  generalize s.next = out at hbeside hinput
  generalize s₀.next = out₀ at hbeside hinput₀
  cases hbeside with
  | @alike r t t₀ ht =>
    cases r with
    | ok found => exact .inl ⟨rfl, ht⟩
    | error e => exact .inl ⟨rfl, ht.input, ht.policy, ht.policy₀, rfl⟩
  | fault hstruck hpassed _ =>
    rw [← hinput₀] at hpassed
    exact .inr ⟨rfl, hstruck, hpassed⟩

theorem later_succ (s : ElementStream) (n : Nat) :
    s.later (n + 1) = (s.later n).nextItem.2 := by
  induction n generalizing s with
  | zero => rfl
  | succ n ih => exact ih s.nextItem.2

theorem policy_later (s : ElementStream) (n : Nat) : (s.later n).policy = s.policy := by
  induction n with
  | zero => rfl
  | succ n ih => rw [later_succ, policy_nextItem, ih]

theorem looked_later (h : Paired x s s₀) (n : Nat) :
    (s₀.later n).input.looked ≤ (s₀.later (n + 1)).input.looked := by
  have hpolicy : (s₀.later n).policy = x.policy := (policy_later s₀ n).trans h.policy₀
  rw [later_succ, input_nextItem]
  exact (onward_next hpolicy).looked

/-- An item for which the input without the fault is not looked at that far. -/
theorem nextItem_of_unmet (h : Paired x s s₀)
    (hlooked : s₀.nextItem.2.input.looked ≤ x.fault.start) :
    s.nextItem.1 = s₀.nextItem.1 ∧ Paired x s.nextItem.2 s₀.nextItem.2 := by
  rcases nextItem_of_paired h with hsame | ⟨-, -, hpassed⟩
  · exact hsame
  · exact absurd hlooked (Nat.not_le_of_lt hpassed.looked)

/-- The two go along for as long as the one without the fault has not looked that far. -/
theorem paired_later (h : Paired x s s₀) {n : Nat}
    (hlooked : (s₀.later n).input.looked ≤ x.fault.start) :
    Paired x (s.later n) (s₀.later n) := by
  induction n with
  | zero => exact h
  | succ n ih =>
    have hbefore := ih (Nat.le_trans (looked_later h n) hlooked)
    rw [later_succ] at hlooked
    rw [later_succ, later_succ]
    exact (nextItem_of_unmet hbefore hlooked).2

theorem item_alike (h : Paired x s s₀) {n : Nat}
    (hlooked : (s₀.later (n + 1)).input.looked ≤ x.fault.start) :
    s.item n = s₀.item n ∧ (s.later (n + 1)).isDone = (s₀.later (n + 1)).isDone := by
  have hbefore := paired_later h (Nat.le_trans (looked_later h n) hlooked)
  have hbehind := paired_later h hlooked
  rw [later_succ] at hlooked
  exact ⟨(nextItem_of_unmet hbefore hlooked).1, by rw [isDone, isDone, hbehind.position]⟩

/-- The item for which the input is looked at behind the fault is the failure. -/
theorem item_of_fault (h : Paired x s s₀) {n : Nat}
    (hbefore : (s₀.later n).input.looked ≤ x.fault.start)
    (hpast : x.fault.start < (s₀.later (n + 1)).input.looked) :
    s.item n = .error x.told ∧ (s.later (n + 1)).input.StopsAt x.fault := by
  rw [later_succ] at hpast ⊢
  rcases nextItem_of_paired (paired_later h hbefore) with ⟨-, hnext⟩ | ⟨hitem, hstruck, -⟩
  · exact absurd hnext.input.unmet (Nat.not_le_of_lt hpast)
  · exact ⟨hitem, hstruck.stops⟩

theorem later_add (s : ElementStream) (m n : Nat) : s.later (m + n) = (s.later m).later n := by
  induction m generalizing s with
  | zero => rw [Nat.zero_add, later]
  | succ m ih =>
    rw [Nat.succ_add, later, later]
    exact ih s.nextItem.2

/-- Nothing comes behind a failure, of the input or of a row. -/
theorem item_of_failure {e : ClientError} {m n : Nat} (h : s.item m = .error e) (hn : m < n) :
    s.item n = .ok none := by
  obtain ⟨k, rfl⟩ := Nat.exists_eq_add_of_lt hn
  have hnext : (s.later m).next.1 = .error e := by rwa [← nextItem_fst]
  have hdone := position_of_failure hnext
  rw [← later_succ] at hdone
  have hitem := item_of_done hdone k
  unfold item at hitem ⊢
  rw [Nat.add_right_comm, later_add]
  exact hitem

/-- The items are rows of the other stream, then at most a failure, and then nothing any more. -/
def Outputs (s s₀ : ElementStream) : Prop :=
  ∃ k, (∀ n < k, ∃ v, s.item n = .ok (some v) ∧ s₀.item n = .ok (some v)) ∧
    (∀ v, s.item k ≠ .ok (some v)) ∧ ∀ n, k < n → s.item n = .ok none

theorem Outputs.row {v : Json} (hitem : s.item 0 = .ok (some v)) (hitem₀ : s₀.item 0 = .ok (some v))
    (h : Outputs s.nextItem.2 s₀.nextItem.2) : Outputs s s₀ := by
  obtain ⟨k, hrows, hend, hnothing⟩ := h
  refine ⟨k + 1, ?_, hend, ?_⟩
  · intro n hn
    cases n with
    | zero => exact ⟨v, hitem, hitem₀⟩
    | succ n => exact hrows n (Nat.lt_of_succ_lt_succ hn)
  · intro n hn
    cases n with
    | zero => exact absurd hn (Nat.not_lt_zero _)
    | succ n => exact hnothing n (Nat.lt_of_succ_lt_succ hn)

theorem outputs_of_last (hlast : ∀ v, s.next.1 ≠ .ok (some v))
    (hdone : s.nextItem.2.position = .done) : Outputs s s₀ := by
  refine ⟨0, fun n hn => absurd hn (Nat.not_lt_zero n), ?_, ?_⟩
  · intro v
    rw [item_zero]
    exact hlast v
  · intro n hn
    cases n with
    | zero => exact absurd hn (Nat.lt_irrefl 0)
    | succ n => exact item_of_done hdone n

/-- By induction on the bytes that are left without the fault: a row takes some of them. -/
theorem outputs_of_paired (h : Paired x s s₀) : Outputs s s₀ := by
  obtain ⟨bs, hbs, -⟩ := h.input.bytes
  induction hlength : bs.length using Nat.strongRecOn generalizing s s₀ bs with
  | ind length ih =>
    subst hlength
    cases hnext : s.next.1 with
    | error e => exact outputs_of_last (by simp [hnext]) (position_of_failure hnext)
    | ok found =>
      cases found with
      | none => exact outputs_of_last (by simp [hnext]) (position_of_end hnext)
      | some v =>
        have hitem : s.nextItem.1 = .ok (some v) := (nextItem_fst s).trans hnext
        rcases nextItem_of_paired h with ⟨hsame, hpaired⟩ | ⟨hfault, -, -⟩
        · have hitem₀ : s₀.nextItem.1 = .ok (some v) := hsame.symm.trans hitem
          have hnext₀ : s₀.next.1 = .ok (some v) := (nextItem_fst s₀).symm.trans hitem₀
          obtain ⟨front, rest, hfront, rfl, hj⟩ := takes_row hbs hnext₀
          rw [← nextItem_of_ok hnext₀] at hj
          have hpos := List.length_pos_of_ne_nil hfront
          have hrest : rest.length < (front ++ rest).length := by
            rw [List.length_append]
            omega
          exact .row hitem hitem₀ (ih rest.length hrest hpaired rest hj.brings rfl)
        · -- a row is no failure
          rw [hfault] at hitem
          exact nomatch hitem

/-! ## From the text to its items -/

/-- Nothing of the input has been read. -/
structure Fresh (i : Input) : Prop where
  offset : i.offset = 0
  looked : i.looked = 0

/-- Two searches for an array come out alike. -/
inductive Agrees : EStateM.Result ClientError Input ElementStream →
    EStateM.Result ClientError Input ElementStream → Prop
  | found {s j s₀ j₀} : j.offset = j₀.offset → Agrees (.ok s j) (.ok s₀ j₀)
  | failed {e j j₀} : j.offset = j₀.offset → Agrees (.error e j) (.error e j₀)

/-- The items of a stream whose input is to meet a fault, beside the ones without the fault. -/
structure Follows (fault : Fault) (policy : TransientPolicy) (s s₀ : ElementStream) : Prop where
  /-- Until the input is looked at behind the fault, everything is as without it. -/
  alike (n : Nat) : (s₀.later (n + 1)).input.looked ≤ fault.start →
    s.item n = s₀.item n ∧ (s.later (n + 1)).isDone = (s₀.later (n + 1)).isDone
  /-- The item for which that happens is the failure, and nothing behind it has been looked at. -/
  fails (n : Nat) : (s₀.later n).input.looked ≤ fault.start →
    fault.start < (s₀.later (n + 1)).input.looked →
      s.item n = .error (policy.ioError fault.failure "failed to read result") ∧
        (s.later (n + 1)).input.StopsAt fault
  outputs : Outputs s s₀

theorem Paired.follows (h : Paired x s s₀) : Follows x.fault x.policy s s₀ where
  alike _ hlooked := item_alike h hlooked
  fails _ hbefore hpast := item_of_fault h hbefore hpast
  outputs := outputs_of_paired h

/-- The search for the array, on an input that is to meet a fault and on one without it. -/
theorem locate_of_twin (field : String) {i i₀ : Input} (h : x.Twin i i₀) :
    let r := locate field x.policy i
    let r₀ := locate field x.policy i₀
    ((left r₀).looked ≤ x.fault.start → Agrees r r₀) ∧
      (x.fault.start < (left r₀).looked → ∃ j, r = .error x.told j ∧ j.StopsAt x.fault) ∧
      ∀ s j s₀ j₀, r = .ok s j → r₀ = .ok s₀ j₀ → Paired x s s₀ := by
  dsimp only
  have hsearch := (Strike.lockstep_search field).parallel i h
  have hlooked₀ : (left (locate field x.policy i₀)).looked =
      (left (search field x.policy i₀)).looked := by
    rw [locate_search]
    cases search field x.policy i₀ <;> rfl
  rw [hlooked₀, locate_search, locate_search]
  generalize search field x.policy i = r at hsearch
  generalize search field x.policy i₀ = r₀ at hsearch
  cases hsearch with
  | result htwin =>
    refine ⟨fun _ => .found htwin.offset, ?_, ?_⟩
    · intro hpast
      exact absurd htwin.unmet (Nat.not_le_of_lt hpast)
    · rintro _ _ _ _ ⟨⟩ ⟨⟩
      exact ⟨htwin, rfl, rfl, rfl⟩
  | failure htwin =>
    refine ⟨fun _ => .failed htwin.offset, ?_, fun _ _ _ _ h => nomatch h⟩
    intro hpast
    exact absurd htwin.unmet (Nat.not_le_of_lt hpast)
  | fault hstruck hpassed =>
    refine ⟨?_, fun _ => ⟨_, rfl, hstruck.stops⟩, fun _ _ _ _ h => nomatch h⟩
    intro hbefore
    exact absurd hbefore (Nat.not_le_of_lt hpassed.looked)

theorem twin_of_fresh {i i₀ : Input} {body : List UInt8} (hi : i.Meets x.fault x.after body)
    (hi₀ : i₀.Brings body) (hfresh : Fresh i) (hfresh₀ : Fresh i₀) : x.Twin i i₀ := by
  refine ⟨⟨body, hi₀, hi⟩, ?_, ?_, ?_⟩
  · rw [hfresh.offset, hfresh₀.offset]
  · rw [hfresh.looked, hfresh₀.looked]
  · rw [hfresh₀.looked]
    exact Nat.zero_le _

/-- **A failure of the input changes nothing until it is met, and then it is told and ends the
items.** How far the input without the fault has been looked at says whether a call meets it. Behind
a failure of any kind the iterator gives nothing. -/
theorem follows_until_fault {fault : Fault} {after body : List UInt8} {i i₀ : Input}
    (hi : i.Meets fault after body) (hi₀ : i₀.Brings body) (hfresh : Fresh i) (hfresh₀ : Fresh i₀)
    (field : String) (policy : TransientPolicy) :
    let r := locate field policy i
    let r₀ := locate field policy i₀
    ((left r₀).looked ≤ fault.start → Agrees r r₀) ∧
      (fault.start < (left r₀).looked → ∃ j,
        r = .error (policy.ioError fault.failure "failed to read result") j ∧
          j.StopsAt fault) ∧
      (∀ s j s₀ j₀, r = .ok s j → r₀ = .ok s₀ j₀ → Follows fault policy s s₀) ∧
      ∀ (s : ElementStream) (m n : Nat) (e : ClientError), s.item m = .error e → m < n →
        s.item n = .ok none := by
  intro r r₀
  have htwin : Strike.Twin ⟨fault, after, policy⟩ i i₀ := twin_of_fresh hi hi₀ hfresh hfresh₀
  obtain ⟨hagrees, hfails, hpaired⟩ := locate_of_twin field htwin
  refine ⟨hagrees, hfails, ?_, fun s m n e h hn => item_of_failure h hn⟩
  intro s j s₀ j₀ hr hr₀
  exact (hpaired s j s₀ j₀ hr hr₀).follows

/-! ### A connection that is reset in the middle of the second element -/

theorem fresh_ofBytes (size : Nat) (body : List UInt8) (fault : Fault) :
    Fresh (.ofBytes size body (some fault)) := by
  unfold Input.ofBytes
  grind [Fresh, Input.ofRefills]

def resetFault : Fault := ⟨14, ⟨.connectionReset, some "reset"⟩, true⟩

theorem follows_stray :
    let i : Input := .ofBytes 5 strayText (some resetFault)
    let i₀ : Input := .ofRefills [.bytes strayText]
    i.Meets resetFault (strayText.drop 14) strayText ∧ i₀.Brings strayText ∧ Fresh i ∧ Fresh i₀ ∧
      ∃ s j, locate "rows" .never i = .ok s j ∧ s.item 0 = .ok (some (.int (.ofInt64 1))) ∧
        s.item 1 = .error (.connection "failed to read result: reset" false) ∧
        s.item 2 = .ok none := by
  intro i i₀
  have hi : i.Meets resetFault (strayText.drop 14) strayText := Input.meets_ofBytes 5 strayText _
  have hi₀ : i₀.Brings strayText := Input.brings_ofRefills rfl
  have hfresh : Fresh i := fresh_ofBytes 5 strayText resetFault
  obtain ⟨hagrees, -, hfollows, hends⟩ :=
    follows_until_fault hi hi₀ hfresh ⟨rfl, rfl⟩ "rows" .never
  refine ⟨hi, hi₀, hfresh, ⟨rfl, rfl⟩, ?_⟩
  -- without the fault the input is looked at up to offset 9, then 12 and then 16
  have hlocate₀ : locate "rows" .never i₀ = .ok (stray 9 9 .first) (strayAt 9 9) := locate_stray
  have hone : (stray 9 9 .first).next.1 = .ok (some (.int (.ofInt64 1))) := by
    rw [next_stray_first]
    exact answer_one
  have htwo : (stray 11 12 .rest).next.1 = .ok (some (.string "x")) := by
    rw [next_stray_second]
    exact answer_x
  have hfirst : (stray 9 9 .first).later 1 = stray 11 12 .rest := by
    show (stray 9 9 .first).nextItem.2 = _
    rw [nextItem_of_ok hone, next_stray_first]
  have hsecond : (stray 9 9 .first).later 2 = stray 16 16 .rest := by
    rw [later_succ, hfirst, nextItem_of_ok htwo, next_stray_second]
  rw [hlocate₀] at hagrees hfollows
  generalize locate "rows" .never i = r at hagrees hfollows
  cases hagrees (show 9 ≤ 14 by decide) with
  | @found s j =>
    have hitems := hfollows s j _ _ rfl rfl
    obtain ⟨hitem, -⟩ := hitems.alike 0 (by rw [hfirst]; decide)
    obtain ⟨hfault, -⟩ := hitems.fails 1 (by rw [hfirst]; decide) (by rw [hsecond]; decide)
    refine ⟨s, j, rfl, ?_, hfault, hends s 1 2 _ hfault (by decide)⟩
    rw [hitem, item_zero]
    exact hone

end QueryClient.ElementStream
