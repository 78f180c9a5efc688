import Mathlib.Data.Nat.Find
import QueryClient.Proofs.Stream.Failure

/-!
# Reading on after a failure of the input

Unlike the iterator, `next` may be called again after a failure. The bytes that the failing call has
stepped over are gone then, and the stream takes what is left for the text behind a whole element.
It is that if the failure came between two elements (`Between`), where the calls go on with the
elements that are ahead; otherwise what is left of an element may pass for one
(`torn_returns_rest`). Main statement: `rows_around_failure`.
-/

namespace QueryClient

/-! ## Blanks up to a byte and up to a failure -/

theorem Input.Brings.unique {i : Input} {bs cs : List UInt8} (hbs : i.Brings bs)
    (hcs : i.Brings cs) : bs = cs := by
  apply List.map_injective_iff.mpr (fun _ _ h => Except.ok.inj h)
  exact hbs.ahead.symm.trans hcs.ahead

namespace Scan

variable (policy : TransientPolicy) {i : Input} {gap : List UInt8}
  {more : List (Except IoFailure UInt8)}

theorem peek_ahead_cons {b : UInt8} (h : i.ahead = .ok b :: more) :
    ∃ j, peek policy i = .ok (some b) j ∧ i.Looked j ∧ j.ahead = .ok b :: more ∧
      j.consume.ahead = more := by
  obtain ⟨j, hpeek, hj, hahead, hconsume⟩ := Input.peek_of_ahead_cons h
  refine ⟨j, ?_, hj, hahead, hconsume⟩
  unfold peek
  rw [hpeek]

theorem peek_ahead_error {f : IoFailure} (h : i.ahead = .error f :: more) :
    ∃ j, peek policy i = .error (policy.ioError f "failed to read result") j ∧ i.Looked j ∧
      j.ahead = more := by
  obtain ⟨j, hpeek, hj, hahead⟩ := Input.peek_of_ahead_error h
  refine ⟨j, ?_, hj, hahead⟩
  unfold peek
  rw [hpeek]

theorem skipBlanks_to_byte {b : UInt8} (hgap : Gap gap) (hb : Ascii.isBlank b = false)
    (h : i.ahead = gap.map .ok ++ .ok b :: more) :
    ∃ j, skipBlanks policy i = .ok () j ∧ j.ahead = .ok b :: more := by
  induction gap generalizing i with
  | nil =>
    obtain ⟨j, hpeek, -, hj, -⟩ := peek_ahead_cons policy h
    refine ⟨j, ?_, hj⟩
    rw [skipBlanks_of_peek hpeek, hb]
    rfl
  | cons c gap ih =>
    obtain ⟨j, hpeek, -, -, hconsume⟩ := peek_ahead_cons policy h
    have hc : Ascii.isBlank c = true := hgap c List.mem_cons_self
    rw [skipBlanks_of_peek hpeek, hc]
    exact ih (fun b' hb' => hgap b' (List.mem_cons_of_mem c hb')) hconsume

theorem skipBlanks_to_failure {f : IoFailure} (hgap : Gap gap)
    (h : i.ahead = gap.map .ok ++ .error f :: more) :
    ∃ j, skipBlanks policy i = .error (policy.ioError f "failed to read result") j ∧
      j.ahead = more ∧ j.ending = i.ending := by
  induction gap generalizing i with
  | nil =>
    obtain ⟨j, hpeek, hj, hahead⟩ := peek_ahead_error policy h
    refine ⟨j, ?_, hahead, hj.ending⟩
    rw [skipBlanks_eq, hpeek, andThen_error]
  | cons c gap ih =>
    obtain ⟨j, hpeek, hj, -, hconsume⟩ := peek_ahead_cons policy h
    have hc : Ascii.isBlank c = true := hgap c List.mem_cons_self
    obtain ⟨k, hskip, hk, hending⟩ :=
      ih (fun b' hb' => hgap b' (List.mem_cons_of_mem c hb')) hconsume
    refine ⟨k, ?_, hk, hending.trans hj.ending⟩
    rw [skipBlanks_of_peek hpeek, hc]
    exact hskip

end Scan

namespace ElementStream

open Json (Blanks ValueText ItemsTail Enclosed ArrayText ObjectText)
open Scan

variable {x : Strike} {s s₀ t : ElementStream} {es : List (List UInt8)}

theorem next_of_close {gap : List UInt8} {more : List (Except IoFailure UInt8)}
    (hs : s.position ≠ .done) (hgap : Gap gap)
    (h : s.input.ahead = gap.map .ok ++ .ok Ascii.closeBracket :: more) :
    s.next.1 = .ok none := by
  obtain ⟨j, hblanks, hj⟩ := skipBlanks_to_byte s.policy hgap rfl h
  obtain ⟨k, hpeek, -⟩ := peek_ahead_cons s.policy hj
  have htext : nextText s.position s.policy s.input = .ok none k.consume := by
    rw [nextText_eq, hblanks, andThen_ok, hpeek, andThen_ok, if_pos rfl]
  rw [next_of_end hs htext]
  rfl

/-- A failure that only blanks are in front of takes nothing else with it. -/
theorem next_of_failure {gap after : List UInt8} {f : IoFailure} (hs : s.position ≠ .done)
    (hgap : Gap gap) (h : s.input.ahead = gap.map .ok ++ .error f :: after.map .ok)
    (hending : s.input.ending = none) :
    ∃ j, s.next = (.error (s.policy.ioError f "failed to read result"), { s with input := j }) ∧
      j.Brings after := by
  obtain ⟨j, hblanks, hj, hend⟩ := skipBlanks_to_failure s.policy hgap h
  have htext : nextText s.position s.policy s.input =
      .error (s.policy.ioError f "failed to read result") j := by
    rw [nextText_eq, hblanks, andThen_error]
  exact ⟨j, next_of_error hs htext, hj, hend.trans hending⟩

/-! ## What is ahead behind some blanks -/

theorem gap_split {gap rest r more : List UInt8} {b : UInt8} (hgap : Gap gap)
    (hb : Ascii.isBlank b = false) (h : gap ++ rest = r ++ b :: more) :
    ∃ r', r = gap ++ r' ∧ rest = r' ++ b :: more := by
  rcases List.append_eq_append_iff.mp h with ⟨r', hr, hrest⟩ | ⟨c, hgap', hrest⟩
  · exact ⟨r', hr, hrest⟩
  · cases c with
    | nil =>
      rw [List.append_nil] at hgap'
      exact ⟨[], by rw [hgap', List.append_nil], hrest.symm⟩
    | cons b' c =>
      -- the byte that ends the blanks would be one of them
      obtain ⟨rfl, -⟩ := List.cons.inj hrest
      have hblank := hgap b (by simp [hgap'])
      rw [hb] at hblank
      exact nomatch hblank

theorem blanks_of_append {gap r : List UInt8} (h : Blanks (gap ++ r)) : Blanks r :=
  fun b hb => h b (List.mem_append_right gap hb)

/-- The same bytes hold the same elements. -/
theorem Holds.congr (h : Holds s₀ es) (hposition : s.position = s₀.position)
    (hinput : ∀ bs, s₀.input.Brings bs → s.input.Brings bs) : Holds s es := by
  cases h with
  | first hs hes htail hbs => exact .first (hposition.trans hs) hes htail (hinput _ hbs)
  | rest hs hes hr htail hbs => exact .rest (hposition.trans hs) hes hr htail (hinput _ hbs)
  | last hs hr hbs => exact .last (hposition.trans hs) hr (hinput _ hbs)
  | done hs => exact .done (hposition.trans hs)

theorem itemsTail_behind {gap rest tail after : List UInt8} (hes : ∀ e ∈ es, ValueText e)
    (hgap : Gap gap) (htail : ItemsTail Ascii.closeBracket es tail)
    (h : gap ++ rest = tail ++ after) :
    ∃ tail', ItemsTail Ascii.closeBracket es tail' ∧ rest = tail' ++ after := by
  cases htail with
  | @last l e r hl hr =>
    obtain ⟨b, bs, rfl, hb⟩ := head_of_valueText (hes e List.mem_cons_self)
    simp only [List.append_assoc, List.cons_append] at h
    obtain ⟨l', rfl, rfl⟩ := gap_split hgap (isBlank_of_endsScalar hb) h
    exact ⟨_, .last (blanks_of_append hl) hr, by simp⟩
  | @more l e r es tail hl hr htail =>
    obtain ⟨b, bs, rfl, hb⟩ := head_of_valueText (hes e List.mem_cons_self)
    simp only [List.append_assoc, List.cons_append] at h
    obtain ⟨l', rfl, rfl⟩ := gap_split hgap (isBlank_of_endsScalar hb) h
    exact ⟨_, .more (blanks_of_append hl) hr htail, by simp⟩

/-- Blanks that have been stepped over are missed by nobody. -/
theorem Holds.behind {gap rest : List UInt8} (h : Holds s₀ es) (hgap : Gap gap)
    (hbs : s₀.input.Brings (gap ++ rest)) (hposition : s.position = s₀.position)
    (hrest : s.input.Brings rest) : Holds s es := by
  cases h with
  | @first es tail after hs hes htail hinput =>
    have heq := hbs.unique hinput
    cases htail with
    | empty hl =>
      rw [List.append_assoc] at heq
      obtain ⟨l', rfl, rfl⟩ := gap_split hgap rfl heq
      have hrest' : s.input.Brings ((l' ++ [Ascii.closeBracket]) ++ after) := by
        rw [List.append_assoc]
        exact hrest
      exact .first (hposition.trans hs) hes (.empty (blanks_of_append hl)) hrest'
    | items htail =>
      obtain ⟨tail', htail', rfl⟩ := itemsTail_behind hes hgap htail heq
      exact .first (hposition.trans hs) hes (.items htail') hrest
  | rest hs hes hr htail hinput =>
    obtain ⟨r', rfl, rfl⟩ := gap_split hgap rfl (hbs.unique hinput)
    exact .rest (hposition.trans hs) hes (blanks_of_append hr) htail hrest
  | last hs hr hinput =>
    obtain ⟨r', rfl, rfl⟩ := gap_split hgap rfl (hbs.unique hinput)
    exact .last (hposition.trans hs) (blanks_of_append hr) hrest
  | done hs => exact .done (hposition.trans hs)

/-! ## The values that are returned -/

/-- The values that the first calls of `next` return. -/
def rows : Nat → ElementStream → List Json
  | 0, _ => []
  | n + 1, s =>
    match s.next.1 with
    | .ok (some v) => v :: rows n s.next.2
    | _ => rows n s.next.2

/-- What the elements of an array are read as, one after the other. -/
def values (es : List (List UInt8)) : List Json := es.filterMap Json.read?

/-- A call that takes an element returns its value or nothing. -/
theorem rows_of_answer {n : Nat} (hnext : s.next = (answer es.head?, t))
    (h : (t.rows n).Sublist (values es.tail)) : (s.rows (n + 1)).Sublist (values es) := by
  unfold rows
  rw [hnext]
  cases es with
  | nil => exact h
  | cons e es =>
    simp only [List.head?_cons, answer, values, List.filterMap_cons]
    cases Json.read? e with
    | none => exact h
    | some v => exact h.cons_cons v

theorem rows_of_error {n : Nat} {e : ClientError} {vs : List Json} (hnext : s.next = (.error e, t))
    (h : (t.rows n).Sublist vs) : (s.rows (n + 1)).Sublist vs := by
  unfold rows
  rwa [hnext]

theorem rows_of_holds (h : Holds s es) (n : Nat) : (s.rows n).Sublist (values es) := by
  induction n generalizing s es with
  | zero => exact List.nil_sublist _
  | succ n ih =>
    obtain ⟨t, hnext, ht, -⟩ := next_of_holds h
    exact rows_of_answer hnext (ih ht)

theorem rows_of_done (hs : s.position = .done) (n : Nat) : s.rows n = [] :=
  List.sublist_nil.mp (rows_of_holds (.done hs) n)

/-- At a comma there is no element: nothing is taken, and what is taken is no JSON text. -/
theorem next_at_comma {r rest : List UInt8} (hs : s.position = .first) (hr : Blanks r)
    (h : s.input.Brings (r ++ Ascii.comma :: rest)) :
    ∃ j, s.next =
        (.error (.protocol "malformed result row"), { s with input := j, position := .rest }) ∧
      j.Brings (Ascii.comma :: rest) := by
  have hdone : s.position ≠ .done := by
    rw [hs]
    decide
  obtain ⟨j, hblanks, hj⟩ := skipBlanks_blanks s.policy hr (solid_cons rfl) h
  obtain ⟨k, hpeek, hk, -⟩ := peek_cons s.policy hj
  obtain ⟨l, hpeek', hl, -⟩ := peek_cons s.policy hk
  obtain ⟨m, hscalar, hm⟩ := scalarTail_delimited s.policy (delimited_cons rfl) hl
  have hvalue : value s.policy k = .ok [] m := by
    rw [value_of_peek hpeek', if_neg (by decide), if_neg (by decide), hscalar]
  have hclose : some Ascii.comma ≠ some Ascii.closeBracket := by decide
  have htext : nextText s.position s.policy s.input = .ok (some []) m := by
    rw [nextText_eq, hblanks, andThen_ok, hpeek, andThen_ok, if_neg hclose, hs]
    show andThen (value s.policy k) _ = _
    rw [hvalue, andThen_ok]
  refine ⟨m, ?_, hm⟩
  rw [next_of_text hdone htext]
  simp only [answer, read?_nil]

/-- What is behind an element is read as well by a stream that takes it for the beginning of the
array: at a comma it finds no element, but then it stands behind one. -/
theorem rows_of_first (h : Holds s₀ es) (hs₀ : s₀.position = .rest) (hs : s.position = .first)
    (hinput : ∀ bs, s₀.input.Brings bs → s.input.Brings bs) (n : Nat) :
    (s.rows n).Sublist (values es) := by
  cases h with
  | first hposition =>
    rw [hs₀] at hposition
    exact nomatch hposition
  | done hposition =>
    rw [hs₀] at hposition
    exact nomatch hposition
  | @last r after hposition hr hbs =>
    have hbs' : s.input.Brings ((r ++ [Ascii.closeBracket]) ++ after) := by
      rw [List.append_assoc]
      exact hinput _ hbs
    have hholds : Holds s [] := .first hs (by simp) (.empty hr) hbs'
    exact rows_of_holds hholds n
  | @rest es r tail after hposition hes hr htail hbs =>
    obtain ⟨j, hnext, hj⟩ := next_at_comma hs hr (hinput _ hbs)
    cases n with
    | zero => exact List.nil_sublist _
    | succ n => exact rows_of_error hnext (rows_of_holds (.rest rfl hes Json.blanks_nil htail hj) n)

/-! ## A failure between two elements -/

/-- Only blanks are between an offset and the place to which a stream has come after some calls,
that is, between it and the opening bracket or the end of an element. -/
def Between (s : ElementStream) (offset : Nat) : Prop :=
  ∃ k gap rest, (s.skip k).input.Brings (gap ++ rest) ∧ Gap gap ∧
    offset = (s.skip k).input.offset + gap.length

theorem onward_skip (h : s.policy = x.policy) (k : Nat) :
    s.input.Onward (s.skip k).input := by
  induction k generalizing s with
  | zero => exact .refl s.input
  | succ k ih => exact (onward_next h).trans (ih ((policy_next s).trans h))

/-- A failure that comes before anything else is read leaves all that is ahead. -/
theorem rows_before_failure {gap after : List UInt8} {f : IoFailure} (hs : s.position ≠ .done)
    (hholds : Holds s₀ es) (hposition : s.position = s₀.position) (hgap : Gap gap)
    (hbs : s₀.input.Brings (gap ++ after))
    (hahead : s.input.ahead = gap.map .ok ++ .error f :: after.map .ok)
    (hending : s.input.ending = none) (n : Nat) : (s.rows n).Sublist (values es) := by
  obtain ⟨j, hnext, hj⟩ := next_of_failure hs hgap hahead hending
  have hrest : Holds { s with input := j } es := hholds.behind hgap hbs hposition hj
  cases n with
  | zero => exact List.nil_sublist _
  | succ n => exact rows_of_error hnext (rows_of_holds hrest n)

theorem position_next (s : ElementStream) :
    s.next.2.position = s.position ∨ s.next.2.position = .rest ∨ s.next.2.position = .done := by
  unfold next
  grind

/-- What is ahead behind a call is ahead of a stream that stands at the same bytes, even if it has
not noticed the element that the call has taken. -/
theorem rows_behind_call (hs : s.position ≠ .done) (hs₀ : s₀.next.2.position ≠ .done)
    (hholds : Holds s₀.next.2 es) (hposition : s.position = s₀.position)
    (hinput : ∀ bs, s₀.next.2.input.Brings bs → s.input.Brings bs) (n : Nat) :
    (s.rows n).Sublist (values es) := by
  rcases position_next s₀ with hsame | hrest | hdone
  · have hholds' : Holds s es := hholds.congr (hposition.trans hsame.symm) hinput
    exact rows_of_holds hholds' n
  · cases hs' : s.position with
    | first => exact rows_of_first hholds hrest hs' hinput n
    | rest =>
      have hholds' : Holds s es := hholds.congr (hs'.trans hrest.symm) hinput
      exact rows_of_holds hholds' n
    | done => exact absurd hs' hs
  · exact absurd hdone hs₀

theorem values_tail (es : List (List UInt8)) : (values es.tail).Sublist (values es) :=
  (List.tail_sublist es).filterMap Json.read?

/-- A failure where a call would have ended takes the element of that call along and nothing else.
There is such an element: the call that finds the end does not look behind the closing bracket. -/
theorem rows_behind_failure {front after : List UInt8} {f : IoFailure} {e : ClientError} {j : Input}
    (hs : s.position ≠ .done) (hposition : s.position = s₀.position) (hholds : Holds s₀ es)
    (hbs : s₀.input.Brings (front ++ after))
    (hlength : s₀.next.2.input.offset = s₀.input.offset + front.length)
    (hahead : s.input.ahead = front.map .ok ++ .error f :: after.map .ok)
    (hnext : s.next = (.error e, { s with input := j })) (hj : j.Brings after) (n : Nat) :
    (s.rows (n + 1)).Sublist (values es) := by
  have hs₀ : s₀.position ≠ .done := fun hdone => hs (hposition.trans hdone)
  obtain ⟨t₀, hnext₀, hholds₀, hdone₀⟩ := next_of_holds hholds
  have ht₀ : s₀.next.2 = t₀ := by rw [hnext₀]
  cases es with
  | nil =>
    have hend : s₀.next.1 = .ok none := by
      rw [hnext₀]
      rfl
    obtain ⟨_, _, hsplit, hafter, r, hr, rfl⟩ := finds_end hbs hs₀ hend
    have hoffset := hafter.offset
    obtain ⟨rfl, -⟩ := List.append_inj hsplit (by omega)
    rw [List.map_append, List.append_assoc] at hahead
    have hclose := next_of_close hs hr hahead
    rw [hnext] at hclose
    exact nomatch hclose
  | cons e' es =>
    obtain ⟨_, _, hsplit, hafter⟩ := after_next s₀ hbs
    have hoffset := hafter.offset
    obtain ⟨rfl, rfl⟩ := List.append_inj hsplit (by omega)
    have hmore : s₀.next.2.position ≠ .done := by
      rw [ht₀]
      simpa [isDone] using hdone₀
    rw [← ht₀] at hholds₀
    have hrows := rows_behind_call (s := { s with input := j }) hs hmore hholds₀ hposition
      (fun cs hcs => hafter.brings.unique hcs ▸ hj) n
    exact (rows_of_error hnext hrows).trans (values_tail (e' :: es))

/-- By induction on the calls: until the failure they answer the same on both inputs, and the call
that meets it stops in front of all that is ahead or right behind an element. -/
theorem rows_of_paired (h : Paired x s s₀) (hholds : Holds s₀ es) (honce : x.fault.once = true)
    (hbetween : Between s₀ x.fault.start) (n : Nat) : (s.rows n).Sublist (values es) := by
  induction n generalizing s s₀ es with
  | zero => exact List.nil_sublist _
  | succ n ih =>
    by_cases hs : s.position = .done
    · rw [rows_of_done hs]
      exact List.nil_sublist _
    obtain ⟨bs, hbs, hmeets⟩ := h.input.bytes
    cases hmeets with
    | always hnever =>
      rw [honce] at hnever
      exact nomatch hnever
    | beyond hinput =>
      have hholds' : Holds s es := hholds.congr h.position fun cs hcs => hbs.unique hcs ▸ hinput
      exact rows_of_holds hholds' (n + 1)
    | @once front _ hstart hahead hending =>
      obtain ⟨k, gap, rest, hk, hgap, hoffset⟩ := hbetween
      have hsame := h.input.offset
      cases k with
      | zero =>
        have hk : s₀.input.Brings (gap ++ rest) := hk
        have hoffset : x.fault.start = s₀.input.offset + gap.length := hoffset
        obtain ⟨rfl, rfl⟩ := List.append_inj (hbs.unique hk) (by omega)
        exact rows_before_failure hs hholds h.position hgap hk hahead hending _
      | succ k =>
        have hk : (s₀.next.2.skip k).input.Brings (gap ++ rest) := hk
        have hoffset : x.fault.start = (s₀.next.2.skip k).input.offset + gap.length := hoffset
        have hbeside := next_of_paired h
        generalize hnext : s.next = out at hbeside
        generalize hnext₀ : s₀.next = out₀ at hbeside
        cases hbeside with
        | @alike r t t₀ hpaired =>
          obtain ⟨t₁, hnext₁, hholds₁, -⟩ := next_of_holds hholds
          obtain ⟨rfl, rfl⟩ := Prod.mk.inj (hnext₀.symm.trans hnext₁)
          rw [hnext₀] at hk hoffset
          exact rows_of_answer hnext (ih hpaired hholds₁ ⟨k, gap, rest, hk, hgap, hoffset⟩)
        | @fault j out₀ hstruck hpassed _ =>
          -- the call has stepped over as much as it would have without the failure
          have hpolicy₀ : s₀.next.2.policy = x.policy := (policy_next s₀).trans h.policy₀
          have honward := (onward_skip hpolicy₀ k).offset
          have hpast := hpassed.offset
          rw [← hnext₀] at hpast
          have hlength : s₀.next.2.input.offset = s₀.input.offset + front.length := by omega
          exact rows_behind_failure hs h.position hholds hbs hlength hahead hnext
            (hstruck.brings honce) n

/-! ## Call after call -/

theorem skip_succ (s : ElementStream) (n : Nat) : s.skip (n + 1) = (s.skip n).next.2 := by
  induction n generalizing s with
  | zero => rfl
  | succ n ih => exact ih s.next.2

/-- The calls before one deliver the elements; that one tells of the failure and leaves the stream
as it is, but for the bytes that are gone. -/
structure BreaksAt (told : ClientError) (after : List UInt8) (s : ElementStream)
    (es : List (List UInt8)) (k : Nat) : Prop where
  before (n : Nat) : n < k → (s.skip n).next.1 = answer es[n]?
  told : (s.skip k).next.1 = .error told
  behind : ∃ j, j.Brings after ∧ s.skip (k + 1) = { s.skip k with input := j }

theorem answer_of_paired (hholds : Holds s₀ es) {n : Nat} (h : Paired x (s.skip n) (s₀.skip n))
    (hnext : Paired x (s.skip (n + 1)) (s₀.skip (n + 1))) :
    (s.skip n).next.1 = answer es[n]? := by
  obtain ⟨t₀, hnext₀, -, -⟩ := next_of_holds (holds_skip hholds n)
  rw [List.head?_drop] at hnext₀
  have hbeside := next_of_paired h
  rw [skip_succ s₀] at hnext
  have hunmet := hnext.input.unmet
  generalize (s.skip n).next = out at hbeside
  generalize (s₀.skip n).next = out₀ at hbeside hunmet hnext₀
  cases hbeside with
  | alike => exact congrArg Prod.fst hnext₀
  | fault _ hpassed _ => exact absurd hunmet (Nat.not_le_of_lt hpassed.looked)

/-- Every call delivers what it would without the failure, or there is a first one that does not,
and it is one for an element or for the closing bracket. -/
theorem delivers_or_breaks (h : Paired x s s₀) (hholds : Holds s₀ es) (hs₀ : s₀.isDone = false)
    (honce : x.fault.once = true) :
    (∀ n, (s.skip n).next.1 = answer es[n]?) ∨
      ∃ k ≤ es.length, BreaksAt x.told x.after s es k := by
  by_cases hall : ∀ n, Paired x (s.skip n) (s₀.skip n)
  · exact .inl fun n => answer_of_paired hholds (hall n) (hall (n + 1))
  · classical
    have hsome : ∃ n, ¬Paired x (s.skip n) (s₀.skip n) := not_forall.mp hall
    obtain ⟨k, hk⟩ : ∃ k, Nat.find hsome = k + 1 := by
      apply Nat.exists_eq_succ_of_ne_zero
      intro hzero
      exact (Nat.find_eq_zero hsome).mp hzero h
    have hbefore {n : Nat} (hn : n ≤ k) : Paired x (s.skip n) (s₀.skip n) :=
      not_not.mp (Nat.find_min hsome (by omega))
    have hbreak := Nat.find_spec hsome
    rw [hk, skip_succ, skip_succ] at hbreak
    have hlast := hbefore (Nat.le_refl k)
    have hbeside := next_of_paired hlast
    generalize hnext : (s.skip k).next = out at hbeside hbreak
    generalize (s₀.skip k).next = out₀ at hbeside hbreak
    cases hbeside with
    | alike hpaired => exact absurd hpaired hbreak
    | @fault j _ hstruck _ hposition =>
      refine .inr ⟨k, ?_, ?_, ?_, j, hstruck.brings honce, ?_⟩
      · -- the stream has not found the end yet
        apply Nat.le_of_not_lt
        intro hlength
        have hdone := (isDone_skip hholds hs₀ k).mpr hlength
        simp only [isDone, decide_eq_true_eq] at hdone
        exact hposition (hlast.position.trans hdone)
      · intro n hn
        exact answer_of_paired hholds (hbefore (Nat.le_of_lt hn)) (hbefore hn)
      · rw [hnext]
      · rw [skip_succ, hnext]

/-- **One failure of the input while an array is read call by call.** The search meets it, or no
call does, or one call tells of it: the elements before it have been delivered, and the calls behind
it read the bytes behind the failure as if nothing were missing. If the failure is between two
elements, all values that are ever returned are elements in their order. -/
theorem rows_around_failure {members : List (String × List UInt8)} {text after : List UInt8}
    {field : String} {m : String × List UInt8} {elements : List (List UInt8)} {fault : Fault}
    {i i₀ : Input} (htext : ObjectText members text) (hfind : firstNamed field members = some m)
    (harray : ArrayText elements m.2) (hi : i.Meets fault after text) (honce : fault.once = true)
    (hi₀ : i₀.Brings text) (hfresh : Fresh i) (hfresh₀ : Fresh i₀) (policy : TransientPolicy) :
    let told := policy.ioError fault.failure "failed to read result"
    (∃ j, locate field policy i = .error told j) ∨
      ∃ s j s₀ j₀, locate field policy i = .ok s j ∧ locate field policy i₀ = .ok s₀ j₀ ∧
        ((∀ n, (s.skip n).next.1 = answer elements[n]?) ∨
          ∃ k ≤ elements.length, BreaksAt told after s elements k) ∧
        (Between s₀ fault.start → ∀ n, (s.rows n).Sublist (values elements)) := by
  intro told
  have htwin : Strike.Twin ⟨fault, after, policy⟩ i i₀ := twin_of_fresh hi hi₀ hfresh hfresh₀
  obtain ⟨hagrees, hfails, hpaired⟩ := locate_of_twin field htwin
  obtain ⟨s₀, j₀, hlocate₀, hholds⟩ := locate_array htext field policy hi₀ hfind harray
  have hdone₀ : s₀.isDone = false := by
    rw [of_locate field hlocate₀]
    rfl
  by_cases hlooked : (left (locate field policy i₀)).looked ≤ fault.start
  · have hfound := hagrees hlooked
    generalize hlocate : locate field policy i = r at hfound hpaired
    dsimp only at hfound hpaired
    rw [hlocate₀] at hfound hpaired
    cases hfound with
    | @found s j _ _ _ =>
      have hsides := hpaired s j s₀ j₀ rfl rfl
      refine .inr ⟨s, j, s₀, j₀, rfl, hlocate₀, ?_, ?_⟩
      · exact delivers_or_breaks hsides hholds hdone₀ honce
      · intro hbetween n
        exact rows_of_paired hsides hholds honce hbetween n
  · obtain ⟨j, hlocate, -⟩ := hfails (Nat.lt_of_not_le hlooked)
    exact .inl ⟨j, hlocate⟩

/-! ### A connection that is reset within the first element, and behind it -/

def tornText : List UInt8 := Text.Utf8.encode "\x7b\"results\":[12,34]\x7d".toList

def tornArray : List UInt8 := Text.Utf8.encode "[12,34]".toList

def tornElements : List (List UInt8) := [[0x31, 0x32], [0x33, 0x34]]

/-- A single reset at an offset. -/
def tornFault (start : Nat) : Fault := ⟨start, ⟨.connectionReset, some "reset"⟩, true⟩

/-- The text with the reset in it. -/
def tornInput (start : Nat) : Input := .ofBytes 0 tornText (some (tornFault start))

/-- The text behind a number of its bytes. -/
def tornAt (offset looked : Nat) : Input := ⟨tornText.drop offset, [], none, offset, looked⟩

theorem spells_results : Json.Spells (Text.Utf8.encode "results".toList) "results".toList :=
  .plain (c := 'r') (by decide) (by decide) (by decide)
    (.plain (c := 'e') (by decide) (by decide) (by decide)
      (.plain (c := 's') (by decide) (by decide) (by decide)
        (.plain (c := 'u') (by decide) (by decide) (by decide)
          (.plain (c := 'l') (by decide) (by decide) (by decide)
            (.plain (c := 't') (by decide) (by decide) (by decide)
              (.plain (c := 's') (by decide) (by decide) (by decide) .nil))))))

theorem valueText_digits {b c : UInt8} (hb : Ascii.isDigit b = true) (hzero : b ≠ Ascii.zero)
    (hc : Ascii.isDigit c = true) : ValueText [b, c] := by
  have hdigits : Json.Digits [b, c] := by
    refine ⟨List.cons_ne_nil _ _, ?_⟩
    intro d hd
    simp only [List.mem_cons, List.not_mem_nil, or_false] at hd
    rcases hd with rfl | rfl
    · exact hb
    · exact hc
  have hwhole : Json.WholeText [b, c] := ⟨hdigits, fun h => absurd (Option.some.inj h) hzero⟩
  exact .scalar (.number (.inl rfl) hwhole .none .none)

theorem arrayText_torn : ArrayText tornElements tornArray := by
  refine ⟨?_, Text.Utf8.encode "12,34]".toList, ?_, rfl⟩
  · intro e he
    simp only [tornElements, List.mem_cons, List.not_mem_nil, or_false] at he
    rcases he with rfl | rfl
    · exact valueText_digits rfl (by decide) rfl
    · exact valueText_digits rfl (by decide) rfl
  · exact .items (.more Json.blanks_nil Json.blanks_nil (itemsTail_single _ _))

theorem objectText_torn : ObjectText [("results", tornArray)] tornText := by
  have hmember : Json.IsMember ("results", tornArray)
      (Text.Utf8.encode "\"results\":[12,34]".toList) :=
    ⟨arrayText_torn.valueText, _, spells_results, .mk Json.blanks_nil Json.blanks_nil⟩
  exact ⟨_, [], _, [], Json.blanks_nil, Json.blanks_nil, rfl, .items (itemsTail_single _ _),
    .cons hmember .nil⟩

theorem locate_torn :
    locate "results" .never (.ofRefills [.bytes tornText]) =
      .ok ⟨tornAt 12 12, .never, .first⟩ (tornAt 12 12) := by
  have hobject : skipBlanks .never (.ofRefills [.bytes tornText]) = .ok () (tornAt 0 1) := by
    with_unfolding_all rfl
  have hbrace : expect Ascii.openBrace .never (tornAt 0 1) = .ok () (tornAt 1 1) := rfl
  have hmember : skipBlanks .never (tornAt 1 1) = .ok () (tornAt 1 2) := by
    with_unfolding_all rfl
  have hquote : peek .never (tornAt 1 2) = .ok (some Ascii.quote) (tornAt 1 2) := rfl
  have hname : stringTail .never (tornAt 1 2).consume =
      .ok (Text.Utf8.encode "results\"".toList) (tornAt 10 10) := by
    with_unfolding_all rfl
  have hfield : literalText? (Ascii.quote :: Text.Utf8.encode "results\"".toList) =
      some "results" := by
    rw [← String.ofList_toList (s := "results")]
    exact literalText?_of_spells spells_results
  have hcolon : colon .never (tornAt 10 10) = .ok () (tornAt 11 12) := by with_unfolding_all rfl
  have harray : enterArray "results" .never (tornAt 11 12) = .ok () (tornAt 12 12) := rfl
  exact locate_of_steps hobject hbrace hmember hquote hname hfield hcolon harray

theorem next_torn :
    (⟨tornAt 12 12, .never, .first⟩ : ElementStream).next =
      (answer (some [0x31, 0x32]), ⟨tornAt 14 15, .never, .rest⟩) := by
  have htext : nextText .first .never (tornAt 12 12) = .ok (some [0x31, 0x32]) (tornAt 14 15) := by
    with_unfolding_all rfl
  exact next_of_text (by decide) htext

/-- The search does not meet a reset within the array. -/
theorem located_torn (start : Nat) (h : 12 ≤ start) :
    ∃ s j, locate "results" .never (tornInput start) = .ok s j ∧
      Paired ⟨tornFault start, tornText.drop start, .never⟩ s ⟨tornAt 12 12, .never, .first⟩ := by
  have hi : (tornInput start).Meets (tornFault start) (tornText.drop start) tornText :=
    Input.meets_ofBytes 0 tornText (tornFault start)
  have hi₀ : (Input.ofRefills [.bytes tornText]).Brings tornText := Input.brings_ofRefills rfl
  have htwin : Strike.Twin ⟨tornFault start, tornText.drop start, .never⟩ (tornInput start)
      (.ofRefills [.bytes tornText]) :=
    twin_of_fresh hi hi₀ (fresh_ofBytes 0 tornText (tornFault start)) ⟨rfl, rfl⟩
  obtain ⟨hagrees, -, hpaired⟩ := locate_of_twin "results" htwin
  dsimp only at hagrees hpaired
  rw [locate_torn] at hagrees hpaired
  generalize locate "results" .never (tornInput start) = r at hagrees hpaired
  cases hagrees h with
  | @found s j _ _ _ => exact ⟨s, j, rfl, hpaired s j _ _ rfl rfl⟩

theorem values_torn : values tornElements = [.int (.ofInt64 12), .int (.ofInt64 34)] := by
  have htwelve : Json.read? [0x31, 0x32] = some (.int (.ofInt64 12)) :=
    Json.read?_bytes (j := .int (.ofInt64 12)) trivial trivial (by decide)
  have hthirtyfour : Json.read? [0x33, 0x34] = some (.int (.ofInt64 34)) :=
    Json.read?_bytes (j := .int (.ofInt64 34)) trivial trivial (by decide)
  simp [values, tornElements, htwelve, hthirtyfour]

/-- Behind a reset between its two digits, what is left of the number 12 is returned for an
element. -/
theorem torn_returns_rest :
    ObjectText [("results", tornArray)] tornText ∧ ArrayText tornElements tornArray ∧
      firstNamed "results" [("results", tornArray)] = some ("results", tornArray) ∧
      (tornInput 13).Meets (tornFault 13) (tornText.drop 13) tornText ∧
      ∃ s j, locate "results" .never (tornInput 13) = .ok s j ∧
        s.next.1 = .error (.connection "failed to read result: reset" false) ∧
        (s.skip 1).next.1 = .ok (some (.int (.ofInt64 2))) ∧
        .int (.ofInt64 2) ∉ values tornElements := by
  refine ⟨objectText_torn, arrayText_torn, rfl, Input.meets_ofBytes 0 tornText (tornFault 13), ?_⟩
  obtain ⟨s, j, hlocate, hpaired⟩ := located_torn 13 (by decide)
  have htwo : Json.WholeText [0x32] :=
    ⟨⟨List.cons_ne_nil _ _, List.all_eq_true.mp rfl⟩, fun _ => rfl⟩
  have hbeside := next_of_paired hpaired
  rw [next_torn] at hbeside
  generalize hnext : s.next = out at hbeside
  cases hbeside with
  | alike hlater => exact absurd hlater.input.unmet (by decide)
  | @fault k _ hstruck _ hdone =>
    have hfirst : s.position = .first := hpaired.position
    have hk : k.Brings ([] ++ ([0x32] ++ Text.Utf8.encode ",34]\x7d".toList)) := hstruck.brings rfl
    obtain ⟨l, htext, -⟩ := nextText_first s.policy Json.blanks_nil
      (.scalar (.number (.inl rfl) htwo .none .none)) (delimited_cons rfl) hk
    rw [← hfirst] at htext
    have hsecond : (s.skip 1).next.1 = answer (some [0x32]) := by
      rw [skip, skip, hnext, next_of_text (s := { s with input := k }) hdone htext]
      rfl
    have hanswer : answer (some [0x32]) = .ok (some (.int (.ofInt64 2))) :=
      answer_bytes (v := .int (.ofInt64 2)) trivial trivial (by decide)
    refine ⟨s, j, hlocate, by rw [hnext]; rfl, hsecond.trans hanswer, ?_⟩
    rw [values_torn]
    simp only [List.mem_cons, Json.int.injEq, List.not_mem_nil, or_false]
    decide

/-- A reset behind the first number. -/
theorem rows_around_torn :
    ObjectText [("results", tornArray)] tornText ∧ ArrayText tornElements tornArray ∧
      (tornInput 14).Meets (tornFault 14) (tornText.drop 14) tornText ∧
      ∃ s j, locate "results" .never (tornInput 14) = .ok s j ∧
        ∀ n, (s.rows n).Sublist (values tornElements) := by
  have hi : (tornInput 14).Meets (tornFault 14) (tornText.drop 14) tornText :=
    Input.meets_ofBytes 0 tornText (tornFault 14)
  have hi₀ : (Input.ofRefills [.bytes tornText]).Brings tornText := Input.brings_ofRefills rfl
  have hfresh : Fresh (tornInput 14) := fresh_ofBytes 0 tornText (tornFault 14)
  refine ⟨objectText_torn, arrayText_torn, hi, ?_⟩
  obtain ⟨s, j, hlocate, -⟩ := located_torn 14 (by decide)
  have hfind : firstNamed "results" [("results", tornArray)] = some ("results", tornArray) := rfl
  rcases rows_around_failure objectText_torn hfind arrayText_torn hi rfl hi₀ hfresh ⟨rfl, rfl⟩
      .never with ⟨j', hfails⟩ | ⟨s', j', s₀, j₀, hlocate', hlocate₀, -, hrows⟩
  · rw [hlocate] at hfails
    exact nomatch hfails
  · obtain ⟨rfl, -⟩ := EStateM.Result.ok.inj (locate_torn.symm.trans hlocate₀)
    refine ⟨s', j', hlocate', hrows ⟨1, [], tornText.drop 14, ?_, ?_, ?_⟩⟩
    · rw [skip, skip, next_torn]
      exact ⟨rfl, rfl⟩
    · exact gap_nil
    · rw [skip, skip, next_torn]
      rfl

end ElementStream
end QueryClient
