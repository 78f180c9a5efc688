import QueryClient.Error
import Mathlib.Data.List.Basic

/-!
# Which failure a result is

`errorOf?` forgets what a result brings if it is no failure. Where things are worked through one
after the other, the failure is that of the first of them that has one: `errorOf?_bind` says so for
two steps and `errorOf?_mapM` for a list.
-/

namespace QueryClient

variable {α β : Type}

/-- The failure that a result is. -/
def errorOf? : Result α → Option ClientError
  | .ok _ => none
  | .error e => some e

theorem errorOf?_eq_none_iff {r : Result α} : errorOf? r = none ↔ ∃ a, r = .ok a := by
  cases r with
  | ok a => simp [errorOf?]
  | error e => simp [errorOf?]

theorem errorOf?_eq_some_iff {r : Result α} {e : ClientError} :
    errorOf? r = some e ↔ r = .error e := by
  cases r with
  | ok a => simp [errorOf?]
  | error e' => simp [errorOf?]

@[simp] theorem errorOf?_map (f : α → β) (r : Result α) : errorOf? (r.map f) = errorOf? r := by
  cases r <;> rfl

/-- What comes first fails first. -/
theorem errorOf?_bind {r : Result α} {k : α → Result β} {later : Option ClientError}
    (h : ∀ a, errorOf? (k a) = later) : errorOf? (r >>= k) = (errorOf? r).or later := by
  cases r with
  | ok a => exact h a
  | error e => rfl

@[simp] theorem errorOf?_bind_pure (r : Result α) (f : α → β) :
    errorOf? (r >>= fun a => pure (f a)) = errorOf? r := by
  cases r <;> rfl

/-- A list that is worked through fails with what the first of its elements that does so fails
with. -/
theorem errorOf?_mapM {f : α → Result β} {fails : α → Option ClientError} {as : List α}
    (h : ∀ a ∈ as, errorOf? (f a) = fails a) : errorOf? (as.mapM f) = as.findSome? fails := by
  induction as with
  | nil => rfl
  | cons a as ih =>
    have hrest : errorOf? (as.mapM f) = as.findSome? fails :=
      ih fun a' ha' => h a' (List.mem_cons_of_mem a ha')
    rw [List.mapM_cons, List.findSome?_cons, ← h a List.mem_cons_self]
    cases f a with
    | error e => rfl
    | ok b => exact (errorOf?_bind_pure (as.mapM f) (b :: ·)).trans hrest

theorem findSome?_flatMap {γ : Type} (as : List α) (g : α → List β) (f : β → Option γ) :
    (as.flatMap g).findSome? f = as.findSome? fun a => (g a).findSome? f := by
  simp only [← List.head?_filterMap, List.filterMap_flatMap, List.head?_flatMap]

end QueryClient
