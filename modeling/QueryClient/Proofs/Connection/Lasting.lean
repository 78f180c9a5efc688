import QueryClient.Proofs.Connection.Registry

/-!
# What lasts of a cursor

A cursor is numbered for good, so what neither moving nor closing takes from it holds of the cursor
of that number for ever: through every step of its statement and every step of its connection
(`Connection.Has.steps`).
-/

namespace QueryClient

namespace Cursor

/-- Neither moving nor closing takes a property from a cursor. -/
structure Lasts (p : Cursor → Prop) : Prop where
  moved : ∀ {k k' : Cursor}, Moved k k' → p k → p k'
  close : ∀ {k : Cursor}, p k → p k.close

theorem lasts_true : Lasts fun _ => True := ⟨fun _ => id, id⟩

theorem lasts_closed : Lasts fun k => k.closed = true where
  moved hm hc := hm.closed.trans hc
  close {k} _ := closed_close k

theorem lasts_lapsed : Lasts Lapsed where
  moved hm hl := hm.lapsed hl
  close {k} hl := by
    rw [close, if_pos hl.closed]
    exact hl

end Cursor

namespace Statement

/-- A statement has a cursor of a number, and a property holds of it. -/
def Has (s : Statement) (i : Nat) (p : Cursor → Prop) : Prop := ∃ k, s.cursors[i]? = some k ∧ p k

variable {p : Cursor → Prop} {s t : Statement} {i : Nat}

theorem Has.modifyCursor (h : s.Has i p) (j : Nat) {f : Cursor → Cursor}
    (kept : ∀ k, s.cursors[j]? = some k → p k → p (f k)) : (s.modifyCursor j f).Has i p := by
  obtain ⟨k, hk, hp⟩ := h
  unfold Has
  rw [getElem?_modifyCursor, hk]
  split
  · next hij =>
    subst hij
    exact ⟨f k, rfl, kept k hk hp⟩
  · exact ⟨k, rfl, hp⟩

theorem Has.step (lasts : Cursor.Lasts p) (h : s.Has i p) (step : Step s t) : t.Has i p := by
  cases step with
  | other _ cursors =>
    unfold Has
    rw [cursors]
    exact h
  | move j f moved => exact h.modifyCursor j fun k hk => lasts.moved (moved k hk)
  | register columns source maxRows =>
    obtain ⟨k, hk, hp⟩ := h
    refine ⟨k, ?_, hp⟩
    rw [cursors_register, List.getElem?_append_left (List.getElem?_eq_some_iff.mp hk).1]
    exact hk
  | strike j =>
    unfold Has
    rw [cursors_strike]
    exact h.modifyCursor j fun k _ => lasts.close
  | close =>
    cases hs : s.closed with
    | true =>
      rw [close, if_pos hs]
      exact h
    | false =>
      unfold Has
      rw [cursors_close hs]
      have kept (k : Cursor) : p k → p k.close := lasts.close
      exact exists_getElem?_modifyAll kept _ h

theorem Has.steps (lasts : Cursor.Lasts p) (h : s.Has i p) (steps : Steps s t) : t.Has i p := by
  induction steps with
  | refl => exact h
  | tail _ step ih => exact ih.step lasts step

end Statement

namespace Connection

/-- A connection has a cursor, and a property holds of it. -/
def Has (c : Connection) (id : CursorId) (p : Cursor → Prop) : Prop :=
  ∃ s, c.statements[id.statement]? = some s ∧ s.Has id.cursor p

variable {p : Cursor → Prop} {c d : Connection} {id : CursorId}

theorem Has.putStatement (h : c.Has id p) {i : Nat} {t : Statement}
    (kept : (c.statement i).Has id.cursor p → t.Has id.cursor p) : (c.putStatement i t).Has id p := by
  obtain ⟨s, hs, hp⟩ := h
  unfold Has
  rw [getElem?_putStatement, hs]
  split
  · next hi =>
    subst hi
    rw [statement_of_getElem? hs] at kept
    exact ⟨t, rfl, kept hp⟩
  · exact ⟨s, rfl, hp⟩

theorem Has.closeStatements (lasts : Cursor.Lasts p) (h : c.Has id p) :
    c.closeStatements.Has id p := by
  unfold Has
  rw [statements_closeStatements]
  have kept (s : Statement) (hs : s.Has id.cursor p) : s.close.Has id.cursor p :=
    hs.step lasts .close
  exact exists_getElem?_modifyAll kept _ h

theorem Has.step (lasts : Cursor.Lasts p) (h : c.Has id p) (step : Step c d) : d.Has id p := by
  cases step with
  | other _ _ statements =>
    unfold Has
    rw [statements]
    exact h
  | addStatement =>
    obtain ⟨s, hs, hp⟩ := h
    refine ⟨s, ?_, hp⟩
    show (c.statements ++ [Statement.create c.nextToken])[id.statement]? = some s
    rw [List.getElem?_append_left (List.getElem?_eq_some_iff.mp hs).1]
    exact hs
  | statement i s steps => exact h.putStatement fun hs => hs.steps lasts steps
  | close =>
    have marked : { c with closed := true }.Has id p := h
    exact marked.closeStatements lasts
  | closeDeferred => exact h
  | runDeferred =>
    have marked : { c with deferred := false }.Has id p := h
    exact marked.closeStatements lasts

theorem Has.steps (lasts : Cursor.Lasts p) (h : c.Has id p) (steps : Steps c d) : d.Has id p := by
  induction steps with
  | refl => exact h
  | tail _ step ih => exact ih.step lasts step

theorem Has.cursor (h : c.Has id p) : p (c.cursor id) := by
  obtain ⟨s, hs, k, hk, hp⟩ := h
  rw [Connection.cursor, statement_of_getElem? hs, hk]
  exact hp

theorem Has.imp {q : Cursor → Prop} (h : c.Has id p) (hpq : ∀ k, p k → q k) : c.Has id q := by
  obtain ⟨s, hs, k, hk, hp⟩ := h
  exact ⟨s, hs, k, hk, hpq k hp⟩

/-- A cursor that does not look like one that was never created has been created. -/
theorem has_of_ne (h : c.cursor id ≠ noCursor) : c.Has id fun _ => True := by
  unfold Connection.cursor statement at h
  unfold Has
  cases hs : c.statements[id.statement]? with
  | none =>
    rw [hs] at h
    exact absurd rfl h
  | some s =>
    rw [hs, Option.getD_some] at h
    refine ⟨s, rfl, ?_⟩
    cases hk : s.cursors[id.cursor]? with
    | none =>
      rw [hk] at h
      exact absurd rfl h
    | some k => exact ⟨k, hk, trivial⟩

theorem Has.withCursor {α : Type} (h : c.Has id p) (f : Cursor → α × Cursor) :
    (c.withCursor id f).2.Has id fun k => k = (f (c.cursor id)).2 := by
  obtain ⟨s, hs, k, hk, -⟩ := h
  have put : (c.withCursor id f).2 = c.putStatement id.statement
      ((c.statement id.statement).modifyCursor id.cursor fun _ => (f (c.cursor id)).2) := rfl
  unfold Has
  rw [put, getElem?_putStatement, if_pos rfl, hs, statement_of_getElem? hs]
  refine ⟨_, rfl, (f (c.cursor id)).2, ?_, rfl⟩
  rw [Statement.getElem?_modifyCursor, if_pos rfl, hk]
  rfl

end Connection

end QueryClient
