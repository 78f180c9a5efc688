import QueryClient.Proofs.Cascade
import QueryClient.Proofs.Statement.Step

/-!
# The registries of a statement

A statement's two registries hold precisely its open cursors, those fed by the service in the one
and those with rows at hand in the other, and a closed statement has no open cursor. `Exact` says
so, and every step keeps it (`Exact.step`).
-/

namespace QueryClient.Statement

/-- The registry of the cursors fed by the service, or of those with rows at hand. -/
def registry (s : Statement) (ownsNetwork : Bool) : List Nat :=
  if ownsNetwork then s.networkCursors else s.memoryCursors

/-- Both registries are exact. -/
structure Exact (s : Statement) : Prop where
  mem_registry : ∀ ownsNetwork i, i ∈ s.registry ownsNetwork ↔
    ∃ k, s.cursors[i]? = some k ∧ k.ownsNetwork = ownsNetwork ∧ k.closed = false
  closed : s.closed = true → ∀ k ∈ s.cursors, k.closed = true

theorem exact_create (token : Token) : (create token).Exact where
  mem_registry := by
    intro ownsNetwork i
    cases ownsNetwork <;> simp [registry, create]
  closed := by
    intro h
    simp [create] at h

/-! ## Changes of one cursor -/

theorem getElem?_modifyCursor (s : Statement) (i j : Nat) (f : Cursor → Cursor) :
    (s.modifyCursor i f).cursors[j]? =
      if i = j then s.cursors[j]?.map f else s.cursors[j]? := by
  simp only [modifyCursor, List.getElem?_modify]
  split
  · rfl
  · simp

theorem registry_modifyCursor (s : Statement) (i : Nat) (f : Cursor → Cursor) (o : Bool) :
    (s.modifyCursor i f).registry o = s.registry o := rfl

/-- An open cursor is in its registry. -/
theorem Exact.mem_of_open {s : Statement} (h : s.Exact) {i : Nat} {k : Cursor}
    (hk : s.cursors[i]? = some k) (hc : k.closed = false) : i ∈ s.registry k.ownsNetwork :=
  (h.mem_registry _ _).mpr ⟨k, hk, rfl, hc⟩

theorem Exact.other {s t : Statement} (h : s.Exact) (closed : t.closed = s.closed)
    (cursors : t.cursors = s.cursors) (network : t.networkCursors = s.networkCursors)
    (memory : t.memoryCursors = s.memoryCursors) : t.Exact where
  mem_registry := by
    intro o i
    have hr : t.registry o = s.registry o := by rw [registry, registry, network, memory]
    rw [hr, cursors]
    exact h.mem_registry o i
  closed := by
    rw [closed, cursors]
    exact h.closed

theorem Exact.modifyCursor {s : Statement} (h : s.Exact) {i : Nat} {f : Cursor → Cursor}
    (moved : ∀ k, s.cursors[i]? = some k → Cursor.Moved k (f k)) :
    (s.modifyCursor i f).Exact where
  mem_registry := by
    intro o j
    rw [registry_modifyCursor, getElem?_modifyCursor, h.mem_registry]
    split
    · next hij =>
      subst hij
      constructor
      · rintro ⟨k, hk, ho, hc⟩
        have hm := moved k hk
        exact ⟨f k, by rw [hk]; rfl, hm.ownsNetwork.trans ho, hm.closed.trans hc⟩
      · rintro ⟨k', hk', ho, hc⟩
        obtain ⟨k, hk, rfl⟩ := Option.map_eq_some_iff.mp hk'
        have hm := moved k hk
        exact ⟨k, hk, hm.ownsNetwork.symm.trans ho, hm.closed.symm.trans hc⟩
    · rfl
  closed := by
    intro hs k hk
    obtain ⟨j, hj⟩ := List.mem_iff_getElem?.mp hk
    rw [getElem?_modifyCursor] at hj
    split at hj
    · next hij =>
      subst hij
      obtain ⟨k₀, hk₀, rfl⟩ := Option.map_eq_some_iff.mp hj
      rw [(moved k₀ hk₀).closed]
      exact h.closed hs k₀ (List.mem_of_getElem? hk₀)
    · exact h.closed hs k (List.mem_of_getElem? hj)

/-! ## A new cursor -/

theorem mem_registry_register (s : Statement) (columns : List Column) (source : RowSource)
    (maxRows : Nat) (o : Bool) (i : Nat) :
    i ∈ (s.register columns source maxRows).2.registry o ↔
      i ∈ s.registry o ∨ (source.ownsNetwork = o ∧ i = s.cursors.length) := by
  simp only [register]
  split
  · next hs => cases o <;> simp [registry, hs]
  · next hs => cases o <;> simp [registry, hs]

/-- A cursor gets the number that is next. -/
theorem register_fst (s : Statement) (columns : List Column) (source : RowSource) (maxRows : Nat) :
    (s.register columns source maxRows).1 = s.cursors.length := by
  simp only [register]
  split <;> rfl

theorem cursors_register (s : Statement) (columns : List Column) (source : RowSource)
    (maxRows : Nat) : (s.register columns source maxRows).2.cursors =
      s.cursors ++ [Cursor.create columns source maxRows] := by
  simp only [register]
  split <;> rfl

theorem closed_register (s : Statement) (columns : List Column) (source : RowSource)
    (maxRows : Nat) : (s.register columns source maxRows).2.closed = s.closed := by
  simp only [register]
  split <;> rfl

theorem Exact.register {s : Statement} (h : s.Exact) (columns : List Column) (source : RowSource)
    (maxRows : Nat) (isOpen : s.closed = false) : (s.register columns source maxRows).2.Exact where
  mem_registry := by
    intro o i
    rw [mem_registry_register, cursors_register, h.mem_registry, exists_getElem?_concat]
    -- the new cursor is open, so all that counts is the kind of its rows
    show _ ∨ source.ownsNetwork = o ∧ i = s.cursors.length ↔
      _ ∨ i = s.cursors.length ∧ source.ownsNetwork = o ∧ false = false
    rw [and_iff_left (rfl : false = false), and_comm]
  closed := by
    intro hc
    rw [closed_register, isOpen] at hc
    exact absurd hc Bool.false_ne_true

/-! ## Closing one cursor -/

theorem mem_registry_strike (s : Statement) (i : Nat) (o : Bool) (j : Nat) :
    j ∈ (s.strike i).registry o ↔
      j ∈ s.registry o ∧ ¬((s.cursors[i]?.map Cursor.ownsNetwork).getD false = o ∧ j = i) := by
  unfold strike
  simp only
  split
  · next hs => cases o <;> simp [registry, hs]
  · next hs => cases o <;> simp [registry, hs]

theorem cursors_strike (s : Statement) (i : Nat) : (s.strike i).cursors = s.cursors := by
  simp only [strike]
  split <;> rfl

theorem closed_strike (s : Statement) (i : Nat) : (s.strike i).closed = s.closed := by
  simp only [strike]
  split <;> rfl

theorem Exact.strike {s : Statement} (h : s.Exact) (i : Nat) :
    ((s.modifyCursor i Cursor.close).strike i).Exact where
  mem_registry := by
    intro o j
    rw [mem_registry_strike, cursors_strike, registry_modifyCursor, getElem?_modifyCursor,
      getElem?_modifyCursor, if_pos rfl, h.mem_registry]
    by_cases hij : i = j
    · subst hij
      rw [if_pos rfl]
      constructor
      · -- the number is struck from the registry of its own kind, the only one it can be in
        rintro ⟨⟨k, hk, ho, -⟩, hne⟩
        refine absurd ⟨?_, rfl⟩ hne
        rw [hk]
        simpa using ho
      · rintro ⟨k', hk', -, hc⟩
        obtain ⟨k, -, rfl⟩ := Option.map_eq_some_iff.mp hk'
        simp at hc
    · rw [if_neg hij]
      constructor
      · exact And.left
      · intro hk
        exact ⟨hk, fun hne => hij hne.2.symm⟩
  closed := by
    rw [closed_strike, cursors_strike]
    intro hs k hk
    obtain ⟨j, hj⟩ := List.mem_iff_getElem?.mp hk
    rw [getElem?_modifyCursor] at hj
    split at hj
    · obtain ⟨k₀, -, rfl⟩ := Option.map_eq_some_iff.mp hj
      exact Cursor.closed_close k₀
    · exact h.closed hs k (List.mem_of_getElem? hj)

/-! ## Closing the statement -/

theorem cursors_foldl_modifyCursor (f : Cursor → Cursor) (places : List Nat) (s : Statement) :
    (places.foldl (fun (s : Statement) i => s.modifyCursor i f) s).cursors =
      modifyAll f places s.cursors := by
  induction places generalizing s with
  | nil => rfl
  | cons i places ih => exact ih (s.modifyCursor i f)

theorem cursors_close {s : Statement} (isOpen : s.closed = false) :
    s.close.cursors = modifyAll Cursor.close (s.networkCursors ++ s.memoryCursors) s.cursors := by
  unfold close
  rw [if_neg (Bool.eq_false_iff.mp isOpen)]
  exact cursors_foldl_modifyCursor Cursor.close _ s

/-- **Closing a statement closes every cursor that it has ever created.** -/
theorem Exact.closed_of_mem_close {s : Statement} (h : s.Exact) :
    ∀ k ∈ s.close.cursors, k.closed = true := by
  intro k hk
  cases hs : s.closed with
  | true =>
    rw [close, if_pos hs] at hk
    exact h.closed hs k hk
  | false =>
    rw [cursors_close hs] at hk
    obtain ⟨j, hj⟩ := List.mem_iff_getElem?.mp hk
    rcases changed_or_of_getElem?_modifyAll (p := fun k => k.closed = true) Cursor.closed_close
      _ _ hj with hc | ⟨hmem, hk⟩
    · exact hc
    · -- an open cursor would have been in one of the registries
      cases hc : k.closed with
      | true => rfl
      | false =>
        have hj := h.mem_of_open hk hc
        rw [List.mem_append, not_or] at hmem
        unfold registry at hj
        split at hj
        · exact absurd hj hmem.1
        · exact absurd hj hmem.2

theorem closed_close (s : Statement) : s.close.closed = true := by
  unfold close
  split
  · assumption
  · rfl

theorem registry_close {s : Statement} (isOpen : s.closed = false) (o : Bool) :
    s.close.registry o = [] := by
  unfold close
  rw [if_neg (Bool.eq_false_iff.mp isOpen)]
  cases o <;> rfl

theorem Exact.close {s : Statement} (h : s.Exact) : s.close.Exact where
  mem_registry := by
    intro o i
    cases hs : s.closed with
    | true =>
      rw [Statement.close, if_pos hs]
      exact h.mem_registry o i
    | false =>
      rw [registry_close hs]
      constructor
      · intro hi
        exact absurd hi List.not_mem_nil
      · rintro ⟨k, hk, -, hc⟩
        rw [h.closed_of_mem_close k (List.mem_of_getElem? hk)] at hc
        exact absurd hc.symm Bool.false_ne_true
  closed := fun _ => h.closed_of_mem_close

/-! ## Steps -/

theorem Exact.step {s t : Statement} (h : s.Exact) (step : Step s t) : t.Exact := by
  cases step with
  | other closed cursors network memory => exact h.other closed cursors network memory
  | move i f moved => exact h.modifyCursor moved
  | register columns source maxRows isOpen => exact h.register columns source maxRows isOpen
  | strike i => exact h.strike i
  | close => exact h.close

theorem Exact.steps {s t : Statement} (h : s.Exact) (steps : Steps s t) : t.Exact := by
  induction steps with
  | refl => exact h
  | tail _ step ih => exact ih.step step

/-- A closed statement stays closed. -/
theorem closed_of_step {s t : Statement} (hs : s.closed = true) (step : Step s t) :
    t.closed = true := by
  cases step with
  | other closed => rw [closed, hs]
  | move => exact hs
  | register _ _ _ isOpen => rw [hs] at isOpen; exact absurd isOpen.symm Bool.false_ne_true
  | strike => rw [closed_strike]; exact hs
  | close => exact closed_close s

theorem closed_of_steps {s t : Statement} (hs : s.closed = true) (steps : Steps s t) :
    t.closed = true := by
  induction steps with
  | refl => exact hs
  | tail _ step ih => exact closed_of_step ih step

/-- No cursor is forgotten. -/
theorem length_cursors_of_step {s t : Statement} (step : Step s t) :
    s.cursors.length ≤ t.cursors.length := by
  cases step with
  | other _ cursors => exact Nat.le_of_eq (congrArg List.length cursors.symm)
  | move => simp [modifyCursor]
  | register => simp [cursors_register]
  | strike => simp [cursors_strike, modifyCursor]
  | close =>
    cases hs : s.closed with
    | true => simp [close, hs]
    | false => simp [cursors_close hs, length_modifyAll]

theorem length_cursors_of_steps {s t : Statement} (steps : Steps s t) :
    s.cursors.length ≤ t.cursors.length := by
  induction steps with
  | refl => exact Nat.le_refl _
  | tail _ step ih => exact Nat.le_trans ih (length_cursors_of_step step)

end QueryClient.Statement
