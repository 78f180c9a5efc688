/-!
# Lists that grow and change

What is created goes to the end of a list and has its place there as its number. Closing goes down
a list of numbers and changes the elements that have them, one after the other. These lemmas say
what the list holds afterwards.
-/

namespace QueryClient

variable {α : Type} {f : α → α}

/-- What is found by its number behind a creation was there before or is what has been created. -/
theorem exists_getElem?_concat {p : α → Prop} (l : List α) (a : α) (i : Nat) :
    (∃ b, (l ++ [a])[i]? = some b ∧ p b) ↔
      (∃ b, l[i]? = some b ∧ p b) ∨ (i = l.length ∧ p a) := by
  rcases Nat.lt_trichotomy i l.length with hi | rfl | hi
  · rw [List.getElem?_append_left hi]
    constructor
    · exact Or.inl
    · rintro (hb | ⟨rfl, -⟩)
      · exact hb
      · exact absurd hi (Nat.lt_irrefl _)
  · rw [List.getElem?_concat_length, List.getElem?_eq_none (Nat.le_refl _)]
    simp
  · have hlen : (l ++ [a]).length ≤ i := by
      rw [List.length_append]
      exact hi
    rw [List.getElem?_eq_none (Nat.le_of_lt hi), List.getElem?_eq_none hlen]
    simp only [reduceCtorEq, false_and, exists_false, false_or, false_iff, not_and]
    intro heq
    exact absurd heq (Nat.ne_of_gt hi)

/-- What stands in a list with one more element behind is this element, or it has stood there
before. -/
theorem split_concat {l before after : List α} {a b : α} (h : l ++ [a] = before ++ b :: after) :
    (l = before ∧ a = b ∧ after = []) ∨ ∃ rest, after = rest ++ [a] ∧ l = before ++ b :: rest := by
  rcases List.eq_nil_or_concat after with rfl | ⟨rest, last, rfl⟩
  · obtain ⟨same, last⟩ := List.append_inj' h rfl
    exact Or.inl ⟨same, List.head_eq_of_cons_eq last, rfl⟩
  · rw [List.concat_eq_append, ← List.cons_append, ← List.append_assoc] at h
    obtain ⟨same, last⟩ := List.append_inj' h rfl
    obtain rfl := List.head_eq_of_cons_eq last
    exact Or.inr ⟨rest, List.concat_eq_append, same⟩

/-- Change the elements at several places. -/
def modifyAll (f : α → α) (places : List Nat) (l : List α) : List α :=
  places.foldl (fun l i => l.modify i f) l

theorem length_modifyAll (places : List Nat) (l : List α) :
    (modifyAll f places l).length = l.length := by
  induction places generalizing l with
  | nil => rfl
  | cons i places ih =>
    show (modifyAll f places (l.modify i f)).length = l.length
    rw [ih, List.length_modify]

/-- What every change establishes holds of an element, or the element has not been touched. -/
theorem changed_or_of_getElem?_modifyAll {p : α → Prop} (hf : ∀ a, p (f a)) (places : List Nat)
    (l : List α) {j : Nat} {a : α} (h : (modifyAll f places l)[j]? = some a) :
    p a ∨ (j ∉ places ∧ l[j]? = some a) := by
  induction places generalizing l with
  | nil => exact Or.inr ⟨List.not_mem_nil, h⟩
  | cons i places ih =>
    rcases ih (l.modify i f) h with ha | ⟨hj, ha⟩
    · exact Or.inl ha
    · rw [List.getElem?_modify] at ha
      split at ha
      · obtain ⟨b, -, rfl⟩ := Option.map_eq_some_iff.mp ha
        exact Or.inl (hf b)
      · next hij =>
        refine Or.inr ⟨?_, by simpa using ha⟩
        rw [List.mem_cons, not_or]
        exact ⟨fun h => hij h.symm, hj⟩

/-- What no change touches stays as it is. -/
theorem modifyAll_eq_self (places : List Nat) {l : List α}
    (h : ∀ i ∈ places, ∀ a, l[i]? = some a → f a = a) : modifyAll f places l = l := by
  induction places with
  | nil => rfl
  | cons i places ih =>
    have same : l.modify i f = l := by
      refine List.ext_getElem? fun j => ?_
      rw [List.getElem?_modify]
      split
      · next hij =>
        subst hij
        cases hj : l[i]? with
        | none => rfl
        | some a => exact congrArg some (h i (List.mem_cons_self ..) a hj)
      · simp
    show modifyAll f places (l.modify i f) = l
    rw [same]
    exact ih fun j hj => h j (List.mem_cons_of_mem _ hj)

/-- What every change keeps still holds of the element of a number. -/
theorem exists_getElem?_modifyAll {p : α → Prop} (hf : ∀ a, p a → p (f a)) (places : List Nat)
    {l : List α} {j : Nat} (h : ∃ a, l[j]? = some a ∧ p a) :
    ∃ a, (modifyAll f places l)[j]? = some a ∧ p a := by
  induction places generalizing l with
  | nil => exact h
  | cons i places ih =>
    refine ih ?_
    obtain ⟨a, hj, ha⟩ := h
    rw [List.getElem?_modify, hj]
    split
    · exact ⟨f a, rfl, hf a ha⟩
    · exact ⟨a, rfl, ha⟩

/-- What every change keeps holds of all elements if it has held before. -/
theorem forall_mem_modifyAll {p : α → Prop} (hf : ∀ a, p a → p (f a)) (places : List Nat)
    {l : List α} (h : ∀ a ∈ l, p a) : ∀ a ∈ modifyAll f places l, p a := by
  induction places generalizing l with
  | nil => exact h
  | cons i places ih =>
    refine ih ?_
    intro a ha
    obtain ⟨j, hj⟩ := List.mem_iff_getElem?.mp ha
    rw [List.getElem?_modify] at hj
    split at hj
    · obtain ⟨b, hb, rfl⟩ := Option.map_eq_some_iff.mp hj
      exact hf b (h b (List.mem_of_getElem? hb))
    · exact h a (List.mem_of_getElem? (by simpa using hj))

end QueryClient
