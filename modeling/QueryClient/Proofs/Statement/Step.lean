import Mathlib.Logic.Relation
import QueryClient.Session.Operation

/-!
# What can happen to a statement

`Statement.Step` lists the changes that a statement can undergo, as far as its cursors and their
registries are concerned. Every operation on a statement is a sequence of such changes, so what all
of them keep is kept by every operation. The lemmas `steps_*` take the operations apart.
-/

namespace QueryClient

namespace Cursor

/-! ## What closes a cursor and what does not -/

@[simp] theorem closed_close (k : Cursor) : k.close.closed = true := by
  unfold close
  split
  · assumption
  · split <;> rfl

@[simp] theorem ownsNetwork_close (k : Cursor) : k.close.ownsNetwork = k.ownsNetwork := by
  unfold close
  split
  · rfl
  · split <;> rfl

/-- A cursor has closed for good: it holds no rows, and no one is reading it any more. -/
structure Lapsed (k : Cursor) : Prop where
  closed : k.closed = true
  idle : k.reading = false
  source : k.source = none
  row : k.row = none

/-- A cursor that has moved is neither closed nor opened by it, and its rows come from where they
came from; one that has closed for good stays so. -/
structure Moved (k k' : Cursor) : Prop where
  closed : k'.closed = k.closed
  ownsNetwork : k'.ownsNetwork = k.ownsNetwork
  lapsed : k.Lapsed → k'.Lapsed

theorem Moved.trans {k k' k'' : Cursor} (h : Moved k k') (h' : Moved k' k'') : Moved k k'' :=
  ⟨h'.closed.trans h.closed, h'.ownsNetwork.trans h.ownsNetwork, h'.lapsed ∘ h.lapsed⟩

/-- An open cursor may move in any way that leaves it open. -/
theorem moved_of_open {k k' : Cursor} (isOpen : k.closed = false) (closed : k'.closed = k.closed)
    (ownsNetwork : k'.ownsNetwork = k.ownsNetwork) : Moved k k' := by
  refine ⟨closed, ownsNetwork, fun lapsed => ?_⟩
  rw [lapsed.closed] at isOpen
  exact absurd isOpen.symm Bool.false_ne_true

theorem moved_startNext (k : Cursor) : Moved k k.startNext.2 := by
  simp only [startNext]
  split
  · exact ⟨rfl, rfl, id⟩
  · next h =>
    have isOpen := Bool.eq_false_iff.mpr h
    split
    · exact moved_of_open isOpen rfl rfl
    · split <;> exact moved_of_open isOpen rfl rfl

theorem moved_pull (k : Cursor) : Moved k k.pull.2 := by
  simp only [pull]
  split
  · exact ⟨rfl, rfl, id⟩
  · next source hs =>
    refine ⟨rfl, rfl, fun lapsed => ?_⟩
    rw [lapsed.source] at hs
    exact absurd hs (by simp)

theorem moved_finishNext (k : Cursor) (pulled : Option (Result Row)) :
    Moved k (k.finishNext pulled).2 := by
  simp only [finishNext]
  split
  · next h => exact ⟨rfl, rfl, fun _ => ⟨h, rfl, rfl, rfl⟩⟩
  · next h =>
    have isOpen := Bool.eq_false_iff.mpr h
    split <;> exact moved_of_open isOpen rfl rfl

theorem moved_get (k : Cursor) (target : Getter.Target) (ref : ColumnRef) :
    Moved k (k.get target ref).2 := by
  simp only [get]
  split
  · exact ⟨rfl, rfl, id⟩
  · next h =>
    have isOpen := Bool.eq_false_iff.mpr h
    split
    · exact moved_of_open isOpen rfl rfl
    · split <;> exact moved_of_open isOpen rfl rfl

end Cursor

namespace Statement

/-- One change of a statement. -/
inductive Step : Statement → Statement → Prop where
  /-- What has nothing to do with cursors and closing may change in any way. -/
  | other {s t : Statement} (closed : t.closed = s.closed) (cursors : t.cursors = s.cursors)
      (network : t.networkCursors = s.networkCursors) (memory : t.memoryCursors = s.memoryCursors) :
      Step s t
  /-- A cursor moves. -/
  | move {s : Statement} (i : Nat) (f : Cursor → Cursor)
      (moved : ∀ k, s.cursors[i]? = some k → Cursor.Moved k (f k)) : Step s (s.modifyCursor i f)
  /-- An open statement gets a new cursor. -/
  | register {s : Statement} (columns : List Column) (source : RowSource) (maxRows : Nat)
      (isOpen : s.closed = false) : Step s (s.register columns source maxRows).2
  /-- A cursor is closed and leaves its registry. -/
  | strike {s : Statement} (i : Nat) : Step s ((s.modifyCursor i Cursor.close).strike i)
  /-- The statement is closed with all its cursors. -/
  | close {s : Statement} : Step s s.close

/-- A sequence of changes of a statement. -/
abbrev Steps : Statement → Statement → Prop := Relation.ReflTransGen Step

open Relation.ReflTransGen (refl single)

theorem steps_other {s t : Statement} (closed : t.closed = s.closed)
    (cursors : t.cursors = s.cursors) (network : t.networkCursors = s.networkCursors)
    (memory : t.memoryCursors = s.memoryCursors) : Steps s t :=
  single (.other closed cursors network memory)

theorem steps_register {s : Statement} (columns : List Column) (source : RowSource) (maxRows : Nat)
    (isOpen : s.closed = false) : Steps s (s.register columns source maxRows).2 :=
  single (.register columns source maxRows isOpen)

theorem steps_close (s : Statement) : Steps s s.close := single .close

/-! ## The operations taken apart -/

theorem steps_complete (s : Statement) : Steps s s.complete := by
  unfold complete
  split
  · exact steps_close s
  · exact refl

theorem steps_cursorClosed (s : Statement) (i : Nat) :
    Steps s ((s.modifyCursor i Cursor.close).cursorClosed i) :=
  (single (.strike i)).trans (steps_complete _)

theorem steps_closeCursor (s : Statement) (i : Nat) : Steps s (s.closeCursor i) := by
  unfold closeCursor
  split
  · exact refl
  · exact steps_cursorClosed s i

theorem steps_dropCursor (s : Statement) (i : Nat) : Steps s (s.dropCursor i) :=
  (steps_closeCursor s i).tail
    (.move i _ fun _ _ => ⟨rfl, rfl, fun h => ⟨h.closed, h.idle, h.source, h.row⟩⟩)

theorem steps_closeCurrent (s : Statement) : Steps s s.closeCurrent := by
  have forget : Steps s { s with current := none } := steps_other rfl rfl rfl rfl
  unfold closeCurrent
  simp only
  split
  · exact forget
  · split
    · exact forget
    · split
      · exact forget
      · exact forget.trans (steps_cursorClosed _ _)

theorem steps_moreResults (s : Statement) : Steps s s.moreResults.2 := by
  unfold moreResults
  split
  · exact refl
  · exact steps_closeCurrent s

theorem steps_set (s : Statement) (setting : Setting) : Steps s (s.set setting).2 := by
  cases setting <;>
    simp only [set, setTimeout, setMaxRows, clearWarnings, setCloseOnCompletion, change] <;>
    split <;> exact steps_other rfl rfl rfl rfl

theorem steps_recordOutcome (s : Statement) (r : QueryResponse) (updateCount : Option Int)
    (pending : Option QueryResponse) : Steps s (s.recordOutcome r updateCount pending) :=
  steps_other rfl rfl rfl rfl

end Statement

end QueryClient
