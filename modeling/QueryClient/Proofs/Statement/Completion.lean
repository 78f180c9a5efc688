import QueryClient.Proofs.Statement.Registry

/-!
# When a statement completes

A cursor that closes may complete its statement, and so may being done with the current cursor.
Either way the other cursors stay as they are: a statement completes only when none of its cursors
is open any more (`cursors_complete`). `Completes` is what comes of the statement.
-/

namespace QueryClient

namespace Cursor

theorem close_of_closed {k : Cursor} (h : k.closed = true) : k.close = k := if_pos h

end Cursor

namespace Statement

/-! ## Open cursors -/

theorem isClosedCursor_eq (s : Statement) (i : Nat) :
    s.isClosedCursor i = (s.cursors[i]?.map Cursor.closed).getD true := by
  unfold isClosedCursor
  cases s.cursors[i]? <;> rfl

theorem isClosedCursor_of_getElem? {s : Statement} {i : Nat} {k : Cursor}
    (h : s.cursors[i]? = some k) : s.isClosedCursor i = k.closed := by
  rw [isClosedCursor, h]

theorem isClosedCursor_of_length_le {s : Statement} {i : Nat} (h : s.cursors.length ≤ i) :
    s.isClosedCursor i = true := by
  rw [isClosedCursor, List.getElem?_eq_none h]

theorem isClosedCursor_congr {s t : Statement} (h : t.cursors = s.cursors) :
    t.isClosedCursor = s.isClosedCursor := by
  funext i
  rw [isClosedCursor_eq, isClosedCursor_eq, h]

theorem isClosedCursor_modifyCursor (s : Statement) (i : Nat) {f : Cursor → Cursor}
    (h : ∀ k, (f k).closed = k.closed) :
    (s.modifyCursor i f).isClosedCursor = s.isClosedCursor := by
  funext j
  rw [isClosedCursor_eq, isClosedCursor_eq, getElem?_modifyCursor]
  split
  · cases s.cursors[j]? with
    | none => rfl
    | some k => exact h k
  · rfl

/-- Once a cursor has been closed, all that were closed are closed, and so is this one. -/
theorem isClosedCursor_close_iff (s : Statement) (i j : Nat) :
    (s.modifyCursor i Cursor.close).isClosedCursor j = true ↔
      j = i ∨ s.isClosedCursor j = true := by
  rw [isClosedCursor_eq, isClosedCursor_eq, getElem?_modifyCursor]
  split
  · next hij =>
    subst hij
    refine iff_of_true ?_ (Or.inl rfl)
    cases s.cursors[i]? with
    | none => rfl
    | some k => exact Cursor.closed_close k
  · next hij => exact (or_iff_right fun h => hij h.symm).symm

/-- With exact registries no cursor is open precisely if no registered one is. -/
theorem Exact.hasNoOpenCursors_iff {s : Statement} (h : s.Exact) :
    s.hasNoOpenCursors = true ↔ ∀ i, s.isClosedCursor i = true := by
  unfold hasNoOpenCursors
  rw [Bool.and_eq_true, List.all_eq_true, List.all_eq_true]
  constructor
  · rintro ⟨network, memory⟩ i
    cases hk : s.cursors[i]? with
    | none => rw [isClosedCursor, hk]
    | some k =>
      cases hc : k.closed with
      | true => rw [isClosedCursor_of_getElem? hk, hc]
      | false =>
        have registered := h.mem_of_open hk hc
        unfold registry at registered
        split at registered
        · exact network i registered
        · exact memory i registered
  · intro all
    exact ⟨fun i _ => all i, fun i _ => all i⟩

/-! ## Completing -/

/-- Completing a statement changes none of its cursors. -/
theorem cursors_complete (s : Statement) : s.complete.cursors = s.cursors := by
  unfold complete
  split
  · next h =>
    obtain ⟨-, isOpen, noOpen⟩ := h
    rw [hasNoOpenCursors, Bool.and_eq_true, List.all_eq_true, List.all_eq_true] at noOpen
    rw [cursors_close (Bool.eq_false_iff.mpr isOpen)]
    refine modifyAll_eq_self _ ?_
    intro i hi k hk
    have closed : s.isClosedCursor i = true :=
      (List.mem_append.mp hi).elim (noOpen.1 i) (noOpen.2 i)
    rw [isClosedCursor_of_getElem? hk] at closed
    exact Cursor.close_of_closed closed
  · rfl

theorem cursors_cursorClosed (s : Statement) (i : Nat) : (s.cursorClosed i).cursors = s.cursors :=
  (cursors_complete _).trans (cursors_strike s i)

/-- A closed cursor is not changed by closing it, and one that is not there by nothing. -/
theorem cursors_close_of_closed {s : Statement} {i : Nat} (h : s.isClosedCursor i = true) :
    s.cursors.modify i Cursor.close = s.cursors := by
  refine modifyAll_eq_self [i] ?_
  intro j hj k hk
  obtain rfl := List.mem_singleton.mp hj
  rw [isClosedCursor_of_getElem? hk] at h
  exact Cursor.close_of_closed h

/-- Closing a cursor changes no other one. -/
theorem cursors_closeCursor (s : Statement) (i : Nat) :
    (s.closeCursor i).cursors = s.cursors.modify i Cursor.close := by
  unfold closeCursor
  split
  · next h => exact (cursors_close_of_closed h).symm
  · exact cursors_cursorClosed _ i

theorem cursors_dropCursor (s : Statement) (i : Nat) : (s.dropCursor i).cursors =
    s.cursors.modify i fun k => { k.close with dropped := true } := by
  show (s.closeCursor i).cursors.modify i _ = _
  rw [cursors_closeCursor, List.modify_modify_eq]
  rfl

theorem closed_complete_iff {s : Statement} (isOpen : s.closed = false) :
    s.complete.closed = true ↔ s.closeOnCompletion = true ∧ s.hasNoOpenCursors = true := by
  unfold complete
  rw [isOpen]
  split
  · next h => exact iff_of_true (closed_close s) ⟨h.1, h.2.2⟩
  · next h =>
    rw [isOpen]
    exact iff_of_false Bool.false_ne_true fun hc => h ⟨hc.1, Bool.false_ne_true, hc.2⟩

theorem closeOnCompletion_strike (s : Statement) (i : Nat) :
    (s.strike i).closeOnCompletion = s.closeOnCompletion := by
  simp only [strike]
  split <;> rfl

/-- Cursor `i` of an open statement is closed, and the statement is closed if it closes on
completion and no other cursor is open. -/
structure Completes (i : Nat) (s t : Statement) : Prop where
  closed : t.closed = true ↔
    s.closeOnCompletion = true ∧ ∀ j, j ≠ i → s.isClosedCursor j = true
  cursors : ∀ j, t.isClosedCursor j = true ↔ j = i ∨ s.isClosedCursor j = true

theorem Exact.completes_cursorClosed {s : Statement} (h : s.Exact) (isOpen : s.closed = false)
    (i : Nat) : Completes i s ((s.modifyCursor i Cursor.close).cursorClosed i) := by
  have cursors (j : Nat) : ((s.modifyCursor i Cursor.close).strike i).isClosedCursor j = true ↔
      j = i ∨ s.isClosedCursor j = true := by
    rw [isClosedCursor_congr (cursors_strike _ i)]
    exact isClosedCursor_close_iff s i j
  have struck : ((s.modifyCursor i Cursor.close).strike i).closed = false :=
    (closed_strike _ i).trans isOpen
  refine ⟨?_, fun j => ?_⟩
  · rw [cursorClosed, closed_complete_iff struck, closeOnCompletion_strike,
      (h.strike i).hasNoOpenCursors_iff]
    refine and_congr_right fun _ => forall_congr' fun j => ?_
    rw [cursors j, Classical.or_iff_not_imp_left]
  · rw [cursorClosed, isClosedCursor_congr (cursors_complete _)]
    exact cursors j

theorem Exact.completes_closeCursor {s : Statement} (h : s.Exact) (isOpen : s.closed = false)
    {i : Nat} (open' : s.isClosedCursor i = false) : Completes i s (s.closeCursor i) := by
  rw [closeCursor, if_neg (Bool.eq_false_iff.mp open')]
  exact h.completes_cursorClosed isOpen i

/-! ## Being done with the current cursor -/

/-- The current cursor of a statement, which the client still holds. -/
def Holds (s : Statement) (i : Nat) : Prop :=
  s.current = some i ∧ ∃ k, s.cursors[i]? = some k ∧ k.dropped = false

/-- A current cursor that the client holds is closed and struck, even if it was closed before;
otherwise it is only forgotten. -/
theorem closeCurrent_cases (s : Statement) :
    ((∀ i, ¬s.Holds i) ∧ s.closeCurrent = { s with current := none }) ∨
    ∃ i, s.Holds i ∧ s.closeCurrent =
      ({ s with current := none }.modifyCursor i Cursor.close).cursorClosed i := by
  unfold closeCurrent Holds
  cases hcurrent : s.current with
  | none => exact Or.inl ⟨nofun, rfl⟩
  | some i =>
    cases hk : s.cursors[i]? with
    | none =>
      refine Or.inl ⟨?_, by simp only [hk]⟩
      rintro j ⟨same, k, hk', -⟩
      cases same
      rw [hk] at hk'
      cases hk'
    | some k =>
      cases hd : k.dropped with
      | true =>
        refine Or.inl ⟨?_, by simp only [hk, hd, if_true]⟩
        rintro j ⟨same, k', hk', held⟩
        cases same
        rw [hk] at hk'
        cases hk'
        rw [hd] at held
        cases held
      | false =>
        refine Or.inr ⟨i, ⟨rfl, k, hk, hd⟩, ?_⟩
        simp only [hk, hd, Bool.false_eq_true, if_false]

/-- Being done with the current cursor changes no other one. -/
theorem getElem?_closeCurrent (s : Statement) {j : Nat} {k : Cursor} (hk : s.cursors[j]? = some k) :
    s.closeCurrent.cursors[j]? = some k ∨
      s.current = some j ∧ s.closeCurrent.cursors[j]? = some k.close := by
  rcases closeCurrent_cases s with ⟨-, same⟩ | ⟨i, held, closed⟩
  · rw [same]
    exact Or.inl hk
  · rw [closed, cursors_cursorClosed, getElem?_modifyCursor]
    split
    · next hij =>
      subst hij
      exact Or.inr ⟨held.1, congrArg (Option.map Cursor.close) hk⟩
    · exact Or.inl hk

theorem getElem?_moreResults (s : Statement) {j : Nat} {k : Cursor}
    (hk : s.cursors[j]? = some k) : s.moreResults.2.cursors[j]? = some k ∨
      s.current = some j ∧ s.moreResults.2.cursors[j]? = some k.close := by
  unfold moreResults
  split
  · exact Or.inl hk
  · exact getElem?_closeCurrent s hk

theorem Exact.completes_closeCurrent {s : Statement} (h : s.Exact) (isOpen : s.closed = false)
    {i : Nat} (held : s.Holds i) : Completes i s s.closeCurrent := by
  rcases closeCurrent_cases s with ⟨none, -⟩ | ⟨j, held', closed⟩
  · exact absurd held (none i)
  · obtain rfl : j = i := Option.some.inj (held'.1.symm.trans held.1)
    have forgotten : Exact { s with current := none } := h.other rfl rfl rfl rfl
    have closes := forgotten.completes_cursorClosed isOpen j
    rw [closed]
    exact ⟨closes.closed, closes.cursors⟩

/-! ## Ways to end a cursor -/

/-- An open statement has been left as open as it was, and so have its cursors, or a cursor `k` with
`p k` has been closed and the statement may be complete. -/
def Ends (p : Nat → Prop) (s t : Statement) : Prop :=
  (t.closed = false ∧ t.isClosedCursor = s.isClosedCursor) ∨ ∃ k, p k ∧ Completes k s t

theorem Exact.ends_closeCursor {s : Statement} (h : s.Exact) (isOpen : s.closed = false) (i : Nat) :
    Ends (fun k => s.isClosedCursor k = false) s (s.closeCursor i) := by
  cases hi : s.isClosedCursor i with
  | true =>
    have same : s.closeCursor i = s := if_pos hi
    rw [same]
    exact Or.inl ⟨isOpen, rfl⟩
  | false => exact Or.inr ⟨i, hi, h.completes_closeCursor isOpen hi⟩

theorem Exact.ends_dropCursor {s : Statement} (h : s.Exact) (isOpen : s.closed = false) (i : Nat) :
    Ends (fun k => s.isClosedCursor k = false) s (s.dropCursor i) := by
  have handed : (s.dropCursor i).isClosedCursor = (s.closeCursor i).isClosedCursor :=
    isClosedCursor_modifyCursor _ i fun _ => rfl
  rcases h.ends_closeCursor isOpen i with ⟨closed, cursors⟩ | ⟨k, hk, completes⟩
  · exact Or.inl ⟨closed, handed.trans cursors⟩
  · exact Or.inr ⟨k, hk, completes.closed, by rw [handed]; exact completes.cursors⟩

theorem moreResults_of_open {s : Statement} (isOpen : s.closed = false) :
    s.moreResults.2 = s.closeCurrent := by
  rw [moreResults, if_neg (Bool.eq_false_iff.mp isOpen)]

/-- Being done with the current cursor closes it if the client holds it, be it open or not. -/
theorem Exact.ends_moreResults {s : Statement} (h : s.Exact) (isOpen : s.closed = false) :
    Ends s.Holds s s.moreResults.2 := by
  rw [moreResults_of_open isOpen]
  rcases closeCurrent_cases s with ⟨-, forgotten⟩ | ⟨k, held, -⟩
  · rw [forgotten]
    exact Or.inl ⟨isOpen, rfl⟩
  · exact Or.inr ⟨k, held, h.completes_closeCurrent isOpen held⟩

/-- The statement closes on completion, all its cursors are closed, and the client still holds the
current one: there is nothing left to close but the statement itself. -/
def Spent (s : Statement) : Prop :=
  s.closeOnCompletion = true ∧ (∃ k, s.Holds k) ∧ ∀ k, s.isClosedCursor k = true

/-- Being done with the current cursor closes a spent statement, and changes none of its cursors. -/
theorem Exact.moreResults_of_spent {s : Statement} (h : s.Exact) (isOpen : s.closed = false)
    (spent : s.Spent) : s.moreResults.2.closed = true ∧ s.moreResults.2.cursors = s.cursors := by
  obtain ⟨marked, ⟨k, held⟩, closed⟩ := spent
  rw [moreResults_of_open isOpen]
  refine ⟨(h.completes_closeCurrent isOpen held).closed.mpr ⟨marked, fun j _ => closed j⟩, ?_⟩
  rcases closeCurrent_cases s with ⟨-, forgotten⟩ | ⟨j, -, ended⟩
  · rw [forgotten]
  · rw [ended, cursors_cursorClosed]
    exact cursors_close_of_closed (closed j)

end Statement

end QueryClient
