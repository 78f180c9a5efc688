import QueryClient.Proofs.Stream.Soundness

/-!
# Reading comes to an end

The reader runs in five loops, one within the other. Each is told here by what one turn of it does
and by how many turns it takes: never more than there are bytes left, and one (`loopsEnd`). A row
takes at least one byte, so that the iterator over the rows comes to its end as well. Main
statement: `progress_of_brings`.
-/

namespace QueryClient

/-! ## Loops, turn by turn -/

section Loops

variable {σ ρ : Type}

/-- A loop that is stopped after a number of turns. A turn goes on with another state or ends the
loop with a result. -/
def within (turn : σ → σ ⊕ ρ) : Nat → σ → Option ρ
  | 0, _ => none
  | n + 1, s =>
    match turn s with
    | .inl t => within turn n t
    | .inr r => some r

/-- What a turn may come to in a loop that is to compute `r`: the result, or a state that has less
to lose and from which `f` computes the same. -/
inductive Turned (less : σ → Nat) (f : σ → ρ) (limit : Nat) (r : ρ) : σ ⊕ ρ → Prop
  | more {t} : less t < limit → r = f t → Turned less f limit r (.inl t)
  | last : Turned less f limit r (.inr r)

/-- As many turns suffice as there is to lose, and one more. -/
theorem within_of_turned {turn : σ → σ ⊕ ρ} {less : σ → Nat} {f : σ → ρ}
    (h : ∀ s, Turned less f (less s) (f s) (turn s)) {n : Nat} {s : σ} (hn : less s < n) :
    within turn n s = some (f s) := by
  induction n generalizing s with
  | zero => exact absurd hn (Nat.not_lt_zero _)
  | succ n ih =>
    have hs := h s
    unfold within
    generalize turn s = out at hs
    cases hs with
    | more hless heq =>
      rw [heq]
      exact ih (Nat.lt_of_lt_of_le hless (Nat.le_of_lt_succ hn))
    | last => rfl

end Loops

namespace Scan

variable {α β σ : Type} (policy : TransientPolicy)

/-- A step within a turn, whose failure ends the loop. -/
def turnThen (r : EStateM.Result ClientError Input α)
    (k : α → Input → σ ⊕ EStateM.Result ClientError Input β) :
    σ ⊕ EStateM.Result ClientError Input β :=
  match r with
  | .ok a j => k a j
  | .error e j => .inr (.error e j)

theorem Turned.andThen {less : σ → Nat} {f : σ → EStateM.Result ClientError Input β} {limit : Nat}
    {r : EStateM.Result ClientError Input α} {k : α → Input → EStateM.Result ClientError Input β}
    {turn : α → Input → σ ⊕ EStateM.Result ClientError Input β}
    (h : ∀ a j, r = .ok a j → Turned less f limit (k a j) (turn a j)) :
    Turned less f limit (Scan.andThen r k) (turnThen r turn) := by
  cases r with
  | error e j => exact .last
  | ok a j => exact h a j rfl

theorem keep_andThen (bs : List UInt8) (r : EStateM.Result ClientError Input α)
    (k : α → Input → EStateM.Result ClientError Input (List UInt8)) :
    keep bs (andThen r k) = andThen r fun a j => keep bs (k a j) := by
  cases r <;> rfl

/-- A turn of the loop over blanks. -/
def blankTurn (i : Input) : Input ⊕ EStateM.Result ClientError Input Unit :=
  turnThen (peek policy i) fun
    | some b, j => if Ascii.isBlank b then .inl j.consume else .inr (.ok () j)
    | none, j => .inr (.ok () j)

theorem turned_blankTurn (i : Input) :
    Turned Input.size (skipBlanks policy) i.size (skipBlanks policy i) (blankTurn policy i) := by
  rw [skipBlanks_eq]
  apply Turned.andThen
  intro b j hpeek
  cases b with
  | none => exact .last
  | some b =>
    dsimp only
    split
    · exact .more (size_of_peek hpeek) rfl
    · exact .last

/-- A loop that keeps bytes: the ones it has kept, and the input that is left. -/
structure Keeping where
  kept : List UInt8
  input : Input

/-- A turn of the loop over the bytes of a string. -/
def stringTurn (s : Keeping) : Keeping ⊕ EStateM.Result ClientError Input (List UInt8) :=
  turnThen (require policy s.input) fun b j =>
    if b = Ascii.backslash then
      turnThen (require policy j) fun c k => .inl ⟨s.kept ++ [b, c], k⟩
    else if b = Ascii.quote then .inr (.ok (s.kept ++ [b]) j)
    else .inl ⟨s.kept ++ [b], j⟩

theorem turned_stringTurn (s : Keeping) :
    Turned (fun s => s.input.size) (fun s => keep s.kept (stringTail policy s.input)) s.input.size
      (keep s.kept (stringTail policy s.input)) (stringTurn policy s) := by
  rw [stringTail_eq, keep_andThen]
  apply Turned.andThen
  intro b j hrequire
  have hj := size_of_require hrequire
  split
  · rw [keep_andThen]
    apply Turned.andThen
    intro c k hrequire'
    have hk := size_of_require hrequire'
    exact .more (Nat.lt_trans hk hj) (keep_keep ..)
  · split
    · exact .last
    · exact .more hj (keep_keep ..)

/-- A turn of the loop over the bytes of a container, with the number of open brackets. -/
def containerTurn : Nat × Keeping →
    (Nat × Keeping) ⊕ EStateM.Result ClientError Input (List UInt8)
  | (0, s) => .inr (.ok s.kept s.input)
  | (depth + 1, s) =>
    turnThen (require policy s.input) fun b j =>
      if b = Ascii.quote then
        turnThen (stringTail policy j) fun text k => .inl (depth + 1, ⟨s.kept ++ b :: text, k⟩)
      else if IsOpening b then .inl (depth + 2, ⟨s.kept ++ [b], j⟩)
      else if IsClosing b then .inl (depth, ⟨s.kept ++ [b], j⟩)
      else .inl (depth + 1, ⟨s.kept ++ [b], j⟩)

theorem turned_containerTurn (s : Nat × Keeping) :
    Turned (fun s => s.2.input.size)
      (fun s => keep s.2.kept (containerTail policy s.1 s.2.input)) s.2.input.size
      (keep s.2.kept (containerTail policy s.1 s.2.input)) (containerTurn policy s) := by
  obtain ⟨depth, s⟩ := s
  cases depth with
  | zero =>
    rw [containerTail_zero]
    have hkept : keep s.kept (.ok [] s.input) = .ok s.kept s.input :=
      congrArg (EStateM.Result.ok · s.input) (List.append_nil s.kept)
    rw [hkept]
    exact .last
  | succ depth =>
    rw [containerTail_succ, keep_andThen]
    apply Turned.andThen
    intro b j hrequire
    have hj := size_of_require hrequire
    split
    · rw [keep_andThen]
      apply Turned.andThen
      intro text k hstring
      have hk := size_of_stringTail hstring
      exact .more (Nat.lt_trans hk hj) (keep_keep ..)
    · split
      · exact .more hj (keep_keep ..)
      · split
        · exact .more hj (keep_keep ..)
        · exact .more hj (keep_keep ..)

/-- A turn of the loop over the bytes of a number or a literal. -/
def scalarTurn (s : Keeping) : Keeping ⊕ EStateM.Result ClientError Input (List UInt8) :=
  turnThen (peek policy s.input) fun
    | some b, j =>
      if endsScalar b then .inr (.ok (s.kept ++ []) j) else .inl ⟨s.kept ++ [b], j.consume⟩
    | none, j => .inr (.ok (s.kept ++ []) j)

theorem turned_scalarTurn (s : Keeping) :
    Turned (fun s => s.input.size) (fun s => keep s.kept (scalarTail policy s.input)) s.input.size
      (keep s.kept (scalarTail policy s.input)) (scalarTurn policy s) := by
  rw [scalarTail_eq, keep_andThen]
  apply Turned.andThen
  intro b j hpeek
  cases b with
  | none => exact .last
  | some b =>
    dsimp only
    split
    · exact .last
    · exact .more (size_of_peek hpeek) (keep_keep ..)

end Scan

namespace ElementStream

open Scan

variable (field : String) (policy : TransientPolicy)

/-- A turn of the search through the members of an object. -/
def seekTurn (i : Input) : Input ⊕ EStateM.Result ClientError Input Unit :=
  turnThen (skipBlanks policy i) fun _ j =>
    turnThen (peek policy j) fun b k =>
      if b = some Ascii.closeBrace then
        .inr (.error (.protocol ("'" ++ field ++ "' not found in response")) k)
      else if b = some Ascii.comma then .inl k.consume
      else
        turnThen (fieldName policy k) fun name l =>
          turnThen (colon policy l) fun _ m =>
            if name = field then .inr (enterArray field policy m)
            else turnThen (value policy m) fun _ n => .inl n

theorem turned_seekTurn (i : Input) :
    Turned Input.size (seekField field policy) i.size (seekField field policy i)
      (seekTurn field policy i) := by
  rw [seekField_steps]
  apply Turned.andThen
  intro _ j hblanks
  apply Turned.andThen
  intro b k hpeek
  split
  · exact .last
  · split
    · next hb => exact .more (size_of_blanks_byte hblanks (hb ▸ hpeek)) rfl
    · have hk := size_of_blanks_peek hblanks hpeek
      apply Turned.andThen
      intro name l hname
      apply Turned.andThen
      intro _ m hcolon
      split
      · exact .last
      · apply Turned.andThen
        intro _ n hvalue
        have hn := size_of_member hname hcolon hvalue
        exact .more (Nat.lt_of_lt_of_le hn hk) rfl

/-- Every loop that reading from an input may run comes to its end, after at most one turn for each
byte that is left and one more. -/
structure LoopsEnd (i : Input) : Prop where
  blanks : within (blankTurn policy) (i.size + 1) i = some (skipBlanks policy i)
  string : within (stringTurn policy) (i.size + 1) ⟨[], i⟩ = some (stringTail policy i)
  container (depth : Nat) : within (containerTurn policy) (i.size + 1) (depth, ⟨[], i⟩) =
    some (containerTail policy depth i)
  scalar : within (scalarTurn policy) (i.size + 1) ⟨[], i⟩ = some (scalarTail policy i)
  search : within (seekTurn field policy) (i.size + 1) i = some (seekField field policy i)

/-- The loops come to their end whatever the input brings, failures included. -/
theorem loopsEnd (i : Input) : LoopsEnd field policy i where
  blanks := within_of_turned (turned_blankTurn policy) (Nat.lt_succ_self i.size)
  string := by
    rw [within_of_turned (turned_stringTurn policy) (Nat.lt_succ_self i.size), keep_nil]
  container depth := by
    rw [within_of_turned (turned_containerTurn policy) (Nat.lt_succ_self i.size), keep_nil]
  scalar := by
    rw [within_of_turned (turned_scalarTurn policy) (Nat.lt_succ_self i.size), keep_nil]
  search := within_of_turned (turned_seekTurn field policy) (Nat.lt_succ_self i.size)

/-! ## Rows take bytes -/

/-- No bytes are no JSON text. -/
theorem read?_nil : Json.read? [] = none := by cbv

theorem ne_nil_of_finds {position : Position} {e front : List UInt8} {v : Json}
    (h : Finds position (some e) front) (hread : Json.read? e = some v) : front ≠ [] := by
  obtain ⟨r, l, -, -, rfl⟩ := h
  rintro hnil
  simp only [List.append_eq_nil_iff] at hnil
  rw [hnil.2.2, read?_nil] at hread
  exact nomatch hread

/-- The stream after some of its elements have been called for, directly or by the iterator. -/
inductive Reached (s : ElementStream) : ElementStream → Prop
  | start : Reached s s
  | next {t} : Reached s t → Reached s t.next.2
  | nextItem {t} : Reached s t → Reached s t.nextItem.2

theorem input_nextItem (s : ElementStream) : s.nextItem.2.input = s.next.2.input := by
  unfold nextItem
  grind

/-- No call brings bytes back. -/
theorem brings_next {s : ElementStream} {bs : List UInt8} (h : s.input.Brings bs) :
    ∃ rest, s.next.2.input.Brings rest ∧ rest.length ≤ bs.length := by
  obtain ⟨front, rest, rfl, hj⟩ := after_next s h
  exact ⟨rest, hj.brings, by simp⟩

theorem brings_of_reached {s t : ElementStream} {bs : List UInt8} (h : s.input.Brings bs)
    (ht : Reached s t) : ∃ rest, t.input.Brings rest ∧ rest.length ≤ bs.length := by
  induction ht with
  | start => exact ⟨bs, h, Nat.le_refl _⟩
  | next _ ih =>
    obtain ⟨rest, hrest, hle⟩ := ih
    obtain ⟨rest', hrest', hle'⟩ := brings_next hrest
    exact ⟨rest', hrest', Nat.le_trans hle' hle⟩
  | @nextItem t _ ih =>
    obtain ⟨rest, hrest, hle⟩ := ih
    obtain ⟨rest', hrest', hle'⟩ := brings_next hrest
    rw [← input_nextItem t] at hrest'
    exact ⟨rest', hrest', Nat.le_trans hle' hle⟩

/-- A call that returns a row has taken bytes from the input. -/
theorem takes_row {s : ElementStream} {bs : List UInt8} {v : Json} (h : s.input.Brings bs)
    (hnext : s.next.1 = .ok (some v)) :
    ∃ front rest, front ≠ [] ∧ bs = front ++ rest ∧ s.input.After front rest s.next.2.input := by
  obtain ⟨e, front, rest, hbs, hj, -, hfound, hread⟩ := finds_element h hnext
  exact ⟨front, rest, ne_nil_of_finds hfound hread, hbs, hj⟩

theorem protocol_of_next {s : ElementStream} {bs : List UInt8} {e : ClientError}
    (h : s.input.Brings bs) (hnext : s.next.1 = .error e) : ∃ message, e = .protocol message := by
  have hreads := next_of_brings s h
  generalize s.next = out at hreads hnext
  cases hreads with
  | spent => exact nomatch hnext
  | close => exact nomatch hnext
  | element => exact nomatch hnext
  | failure => exact ⟨_, (Except.error.inj hnext).symm⟩

theorem protocol_of_locate {i j : Input} {body : List UInt8} {e : ClientError} (h : i.Brings body)
    (hlocate : locate field policy i = .error e j) : ∃ message, e = .protocol message := by
  have htakes := takes_locate field policy h
  rw [hlocate] at htakes
  cases htakes with
  | failure => exact ⟨_, rfl⟩

/-! ## The items of the iterator -/

/-- The stream after a number of items. -/
def later : Nat → ElementStream → ElementStream
  | 0, s => s
  | n + 1, s => later n s.nextItem.2

/-- The item after a number of others. -/
def item (s : ElementStream) (n : Nat) : Result (Option Json) := (s.later n).nextItem.1

theorem nextItem_fst (s : ElementStream) : s.nextItem.1 = s.next.1 := by
  unfold nextItem
  grind

theorem item_zero (s : ElementStream) : s.item 0 = s.next.1 := nextItem_fst s

theorem item_succ (s : ElementStream) (n : Nat) : s.item (n + 1) = s.nextItem.2.item n := rfl

theorem nextItem_of_ok {s : ElementStream} {found : Option Json} (h : s.next.1 = .ok found) :
    s.nextItem.2 = s.next.2 := by
  unfold nextItem
  grind

/-- A failure is the last thing that the iterator meets. -/
theorem position_of_failure {s : ElementStream} {e : ClientError} (h : s.next.1 = .error e) :
    s.nextItem.2.position = .done := by
  unfold nextItem
  grind

theorem position_of_end {s : ElementStream} (h : s.next.1 = .ok none) :
    s.nextItem.2.position = .done := by
  rw [nextItem_of_ok h]
  unfold next at h ⊢
  grind

theorem item_of_done {s : ElementStream} (hs : s.position = .done) (n : Nat) :
    s.item n = .ok none := by
  have hnext := next_of_done hs
  induction n with
  | zero => rw [item_zero, hnext]
  | succ n ih =>
    rw [item_succ, nextItem_of_ok (by rw [hnext]), hnext]
    exact ih

/-- The iterator gives some items, at most as many as the limit says, and then nothing any more. -/
def EndsWithin (s : ElementStream) (limit : Nat) : Prop :=
  ∃ k ≤ limit, (∀ n < k, s.item n ≠ .ok none) ∧ ∀ n, k ≤ n → s.item n = .ok none

/-- The rest of the items, behind the first one. -/
theorem EndsWithin.cons {s : ElementStream} {limit : Nat} (hs : s.next.1 ≠ .ok none)
    (h : s.nextItem.2.EndsWithin limit) : s.EndsWithin (limit + 1) := by
  obtain ⟨k, hk, hbefore, hafter⟩ := h
  refine ⟨k + 1, Nat.succ_le_succ hk, ?_, ?_⟩
  · intro n hn
    cases n with
    | zero => rwa [item_zero]
    | succ n => exact hbefore n (Nat.lt_of_succ_lt_succ hn)
  · intro n hn
    cases n with
    | zero => exact absurd hn (Nat.not_succ_le_zero k)
    | succ n => exact hafter n (Nat.le_of_succ_le_succ hn)

theorem EndsWithin.mono {s : ElementStream} {limit limit' : Nat} (h : s.EndsWithin limit)
    (hle : limit ≤ limit') : s.EndsWithin limit' := by
  obtain ⟨k, hk, hitems⟩ := h
  exact ⟨k, Nat.le_trans hk hle, hitems⟩

theorem endsWithin_of_done {s : ElementStream} (hs : s.position = .done) (limit : Nat) :
    s.EndsWithin limit :=
  ⟨0, Nat.zero_le _, fun n hn => absurd hn (Nat.not_lt_zero n), fun n _ => item_of_done hs n⟩

/-- By induction on the bytes that are left: a row takes some of them, and behind anything else
there are no more items. -/
theorem endsWithin_of_brings {s : ElementStream} {bs : List UInt8} (h : s.input.Brings bs) :
    s.EndsWithin (bs.length + 1) := by
  induction hlength : bs.length using Nat.strongRecOn generalizing s bs with
  | ind length ih =>
    subst hlength
    cases hnext : s.next.1 with
    | error e =>
      apply EndsWithin.cons (by simp [hnext])
      exact endsWithin_of_done (position_of_failure hnext) _
    | ok found =>
      cases found with
      | none =>
        have hitem : s.item 0 = .ok none := by rw [item_zero, hnext]
        refine ⟨0, Nat.zero_le _, fun n hn => absurd hn (Nat.not_lt_zero n), fun n _ => ?_⟩
        cases n with
        | zero => exact hitem
        | succ n => exact item_of_done (position_of_end hnext) n
      | some v =>
        obtain ⟨front, rest, hfront, rfl, hj⟩ := takes_row h hnext
        rw [← nextItem_of_ok hnext] at hj
        have hpos := List.length_pos_of_ne_nil hfront
        have hrest : rest.length < (front ++ rest).length := by
          rw [List.length_append]
          omega
        apply EndsWithin.cons (by simp [hnext])
        exact (ih rest.length hrest hj.brings rfl).mono hrest

/-- **Whatever the bytes are, reading them makes progress and comes to an end**: every loop ends,
a row takes at least one byte, without a failure of the input all failures are of the protocol, and
the iterator gives at most one item for each byte and one more. -/
theorem progress_of_brings {i : Input} {body : List UInt8} (h : i.Brings body) :
    (∀ j, LoopsEnd field policy j) ∧
    (∀ e j, locate field policy i = .error e j → ∃ message, e = .protocol message) ∧
    ∀ s j, locate field policy i = .ok s j → ∀ t, Reached s t →
      (∀ v, t.next.1 = .ok (some v) → ∃ front rest, front ≠ [] ∧ t.input.Brings (front ++ rest) ∧
        t.input.After front rest t.next.2.input) ∧
      (∀ e, t.next.1 = .error e → ∃ message, e = .protocol message) ∧
      t.EndsWithin (body.length + 1) := by
  refine ⟨loopsEnd field policy, fun e j => protocol_of_locate field policy h, ?_⟩
  intro s j hlocate t ht
  have htakes := takes_locate field policy h
  rw [hlocate] at htakes
  obtain rfl := of_locate field hlocate
  cases htakes with
  | result hbody hj _ =>
    obtain ⟨left, hleft, hle⟩ := brings_of_reached hj.brings ht
    refine ⟨?_, fun e => protocol_of_next hleft, ?_⟩
    · intro v hnext
      obtain ⟨front, rest, hfront, rfl, hafter⟩ := takes_row hleft hnext
      exact ⟨front, rest, hfront, hleft, hafter⟩
    · have hbytes : left.length ≤ body.length := by
        rw [hbody, List.length_append]
        omega
      exact (endsWithin_of_brings hleft).mono (Nat.succ_le_succ hbytes)

/-! ### Two numbers without a comma, in a text that breaks off -/

def brokenText : List UInt8 := Text.Utf8.encode "\x7b\"rows\":[1 2".toList

theorem progress_broken :
    let i : Input := .ofRefills [.bytes brokenText]
    i.Brings brokenText ∧ ∃ s j, locate "rows" .never i = .ok s j ∧
      s.next.1 = .ok (some (.int (.ofInt64 1))) ∧
      (∃ front rest, front ≠ [] ∧ s.input.Brings (front ++ rest) ∧
        s.input.After front rest s.next.2.input) ∧
      s.EndsWithin 13 := by
  intro i
  have hi : i.Brings brokenText := Input.brings_ofRefills rfl
  obtain ⟨j, hlocate, hj⟩ := locate_leading .never spells_rows hi
  have hone : Json.WholeText [0x31] :=
    ⟨⟨List.cons_ne_nil _ _, List.all_eq_true.mp rfl⟩, fun _ => rfl⟩
  obtain ⟨k, htext, -⟩ := nextText_first .never Json.blanks_nil
    (.scalar (.number (.inl rfl) hone .none .none)) (delimited_cons rfl) hj
  have hnext : (⟨j, .never, .first⟩ : ElementStream).next.1 = .ok (some (.int (.ofInt64 1))) := by
    have hfirst : Position.first ≠ .done := by decide
    rw [next_of_text (s := ⟨j, .never, .first⟩) hfirst htext]
    exact answer_one
  obtain ⟨-, -, hcalls⟩ := progress_of_brings "rows" .never hi
  obtain ⟨hrow, -, hends⟩ := hcalls _ j hlocate _ .start
  exact ⟨hi, _, j, hlocate, hnext, hrow _ hnext, hends⟩

end ElementStream
end QueryClient
