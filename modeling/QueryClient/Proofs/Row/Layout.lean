import QueryClient.Proofs.Row

/-!
# How a raw row is laid out

A row that has been read has a value for each column, whatever form it had (`length_decode`). An
object that names the columns of some values, in any order and among others, comes to the same as
the array of these values, failures included (`decode_object`).
-/

namespace QueryClient

namespace Members

variable {α : Type}

/-- A name that comes with one value only has this value. -/
theorem get?_of_mem_of_unique {name : String} {value : α} {members : Members α}
    (h : (name, value) ∈ members) (unique : ∀ v, (name, v) ∈ members → v = value) :
    get? name members = some value := by
  induction members with
  | nil => exact absurd h List.not_mem_nil
  | cons member rest ih =>
    obtain ⟨n, v⟩ := member
    rw [get?]
    split
    · next hn =>
      subst hn
      rw [unique v List.mem_cons_self]
    · next hn =>
      refine ih ?_ fun v hv => unique v (List.mem_cons_of_mem _ hv)
      refine (List.mem_cons.mp h).resolve_left fun same => hn ?_
      exact (congrArg Prod.fst same).symm

theorem get?_of_not_mem {name : String} {members : Members α} (h : name ∉ names members) :
    get? name members = none := by
  induction members with
  | nil => rfl
  | cons member rest ih =>
    obtain ⟨hn, hrest⟩ := not_or.mp (mt List.mem_cons.mpr h)
    rw [get?, if_neg (Ne.symm hn)]
    exact ih hrest

end Members

namespace ColumnRef

theorem resolve_position {columns : List Column} {k : Nat} (h : k < columns.length) :
    (position (k + 1)).resolve columns = .ok k := by
  rw [resolve, if_neg (by omega), Nat.add_sub_cancel]

/-- An addressed column is one of the columns. -/
theorem lt_of_resolve {columns : List Column} {ref : ColumnRef} {index : Nat}
    (h : ref.resolve columns = .ok index) : index < columns.length := by
  cases ref with
  | position n =>
    simp only [resolve] at h
    split at h
    · cases h
    · cases h
      omega
  | name s =>
    simp only [resolve] at h
    split at h
    · next i hi =>
      cases h
      exact (List.findIdx?_eq_some_iff_getElem.mp hi).1
    · cases h

end ColumnRef

/-- Adding a value at the end of a list that has been worked through is adding it at the end. -/
theorem map_cons_append {α : Type} {r : Result (List α)} {a : α} {more : List α} :
    (r.map (· ++ more)) >>= (fun as => pure (a :: as)) =
      (r >>= fun as => pure (a :: as)).map (· ++ more) := by
  cases r <;> rfl

namespace Row

/-! ## The length of a row -/

theorem length_ofObject {columns : List Column} {fields : List (String × Json)} {row : Row}
    (h : ofObject columns fields = .ok row) : row.length = columns.length :=
  (mapM_eq_ok_iff.mp h).length_eq.symm

theorem length_ofArray {columns : List Column} {items : List Json} {row : Row}
    (h : ofArray columns items = .ok row) : row.length = columns.length := by
  obtain ⟨values, -, made⟩ := Tagged.bind_eq_ok h
  obtain rfl := Except.ok.inj made
  rw [List.length_append, List.length_take, List.length_replicate]
  omega

theorem length_ofScalar {columns : List Column} {raw : Json} {row : Row}
    (h : ofScalar columns raw = .ok row) : row.length = columns.length := by
  unfold ofScalar at h
  split at h
  · next single =>
    obtain ⟨v, -, rfl⟩ := Tagged.map_eq_ok h
    exact single.symm
  · cases h

/-- **A row that has been read has precisely one value for each column.** -/
theorem length_decode {columns : List Column} {raw : Json} {row : Row}
    (h : decode columns raw = .ok row) : row.length = columns.length := by
  unfold decode at h
  split at h
  · split at h
    · exact length_ofObject h
    · exact length_ofScalar h
  · split at h
    · exact length_ofArray h
    · exact length_ofScalar h
  · exact length_ofScalar h

/-! ## By name or by position -/

/-- The columns take their values from the list as far as it reaches, and are missing beyond. -/
def fromValues (columns : List Column) (values : List Json) : Result Row :=
  (Tagged.decodeItems values).map
    (· ++ List.replicate (columns.length - values.length) Value.missing)

theorem length_decodeItems {items : List Json} {values : List Value}
    (h : Tagged.decodeItems items = .ok values) : values.length = items.length := by
  induction items generalizing values with
  | nil =>
    cases h
    rfl
  | cons j rest ih =>
    obtain ⟨v, -, h⟩ := Tagged.bind_eq_ok h
    obtain ⟨vs, hvs, h⟩ := Tagged.bind_eq_ok h
    obtain rfl := Except.ok.inj h
    exact congrArg (· + 1) (ih hvs)

theorem ofArray_eq_fromValues {columns : List Column} {values : List Json}
    (fits : values.length ≤ columns.length) :
    ofArray columns values = fromValues columns values := by
  unfold ofArray fromValues
  cases hread : Tagged.decodeItems values with
  | error e => rfl
  | ok vs =>
    have length := length_decodeItems hread
    show Except.ok (vs.take columns.length ++ _) = Except.ok (vs ++ _)
    rw [List.take_of_length_le (length.trans_le fits), length]

theorem mapM_eq_fromValues {columns : List Column} {values : List Json} {f : Column → Result Value}
    (fits : values.length ≤ columns.length)
    (given : ∀ column j, (column, j) ∈ columns.zip values → f column = Tagged.decode j)
    (beyond : ∀ column ∈ columns.drop values.length, f column = .ok .missing) :
    columns.mapM f = fromValues columns values := by
  induction columns generalizing values with
  | nil =>
    obtain rfl := List.length_eq_zero_iff.mp (Nat.le_zero.mp fits)
    rfl
  | cons column columns ih =>
    cases values with
    | nil =>
      have rest : columns.mapM f = fromValues columns [] := by
        refine ih (Nat.zero_le _) ?_ fun c hc => beyond c (List.mem_cons_of_mem _ hc)
        rw [List.zip_nil_right]
        exact fun _ _ hcj => absurd hcj List.not_mem_nil
      rw [List.mapM_cons, beyond column List.mem_cons_self, rest]
      rfl
    | cons j values =>
      have rest : columns.mapM f = fromValues columns values :=
        ih (Nat.le_of_succ_le_succ fits)
          (fun c j hcj => given c j (List.mem_cons_of_mem _ hcj)) beyond
      rw [List.mapM_cons, given column j List.mem_cons_self, rest, fromValues, fromValues,
        Tagged.decodeItems, List.length_cons, List.length_cons, Nat.succ_sub_succ]
      cases Tagged.decode j with
      | error e => rfl
      | ok v => exact map_cons_append

/-- The members of an object are values by the names of the first columns, in any order, and others
by names that no column has. -/
def Names (columns : List Column) (values : List Json) (fields : List (String × Json)) : Prop :=
  ∃ further, fields.Perm ((columns.map Column.name).zip values ++ further) ∧
    ∀ m ∈ further, m.1 ∉ columns.map Column.name

theorem map_fst_zip_eq_take {α β : Type} (as : List α) (bs : List β) :
    (as.zip bs).map Prod.fst = as.take bs.length := by
  induction as generalizing bs with
  | nil => rw [List.zip_nil_left, List.take_nil, List.map_nil]
  | cons a as ih =>
    cases bs with
    | nil => rfl
    | cons b bs => exact congrArg (a :: ·) (ih bs)

section Names

variable {columns : List Column} {values : List Json} {fields : List (String × Json)}
  (distinct : (columns.map Column.name).Nodup) (named : Names columns values fields)

include distinct named

theorem get?_of_mem_zip {column : Column} {j : Json} (h : (column, j) ∈ columns.zip values) :
    Members.get? column.name fields = some j := by
  obtain ⟨further, same, other⟩ := named
  have pair : (column.name, j) ∈ (columns.map Column.name).zip values := by
    rw [List.zip_map_left]
    exact List.mem_map_of_mem (f := Prod.map Column.name id) h
  have pairs : (Members.names ((columns.map Column.name).zip values)).Nodup := by
    rw [Members.names, map_fst_zip_eq_take]
    exact distinct.sublist (List.take_sublist _ _)
  refine Members.get?_of_mem_of_unique (same.mem_iff.mpr (List.mem_append_left _ pair)) ?_
  intro j' hj'
  rcases List.mem_append.mp (same.mem_iff.mp hj') with pair' | foreign
  · have first := Members.get?_of_mem pairs pair'
    rw [Members.get?_of_mem pairs pair] at first
    exact (Option.some.inj first).symm
  · exact absurd (List.mem_map_of_mem (List.of_mem_zip h).1) (other _ foreign)

theorem get?_of_mem_drop {column : Column} (h : column ∈ columns.drop values.length) :
    Members.get? column.name fields = none := by
  obtain ⟨further, same, other⟩ := named
  have behind : column.name ∈ (columns.map Column.name).drop values.length := by
    rw [← List.map_drop]
    exact List.mem_map_of_mem h
  refine Members.get?_of_not_mem fun hname => ?_
  obtain ⟨m, hm, hmname⟩ := List.mem_map.mp hname
  rcases List.mem_append.mp (same.mem_iff.mp hm) with pair | foreign
  · -- the names behind the values are not those in front
    have front : column.name ∈ (columns.map Column.name).take values.length := by
      rw [← map_fst_zip_eq_take, ← hmname]
      exact List.mem_map_of_mem pair
    exact List.disjoint_take_drop distinct (Nat.le_refl _) front behind
  · exact other m foreign (hmname ▸ List.mem_of_mem_drop behind)

theorem ofObject_eq_fromValues (fits : values.length ≤ columns.length) :
    ofObject columns fields = fromValues columns values := by
  refine mapM_eq_fromValues fits ?_ ?_
  · intro column j h
    rw [get?_of_mem_zip distinct named h]
  · intro column h
    rw [get?_of_mem_drop distinct named h]

/-- **A row may name its columns or go by their order.** With several columns, or with a value for
the only one, an object of values by the names of the first columns comes to what the array of these
values comes to, be it a row or a failure; the columns behind them are missing. -/
theorem decode_object_and_array (fits : values.length ≤ columns.length)
    (shape : 1 < columns.length ∨ ∃ column, columns = [column] ∧ values.length = 1 ∧
      column.datatype ≠ .array ∧ column.datatype ≠ .multiset) :
    decode columns (.object fields) = fromValues columns values ∧
      decode columns (.array values) = fromValues columns values := by
  have byName := ofObject_eq_fromValues distinct named fits
  have byOrder := ofArray_eq_fromValues fits
  rcases shape with several | ⟨column, rfl, single, noArray, noMultiset⟩
  · rw [decode, decode, if_pos (Or.inl several), if_pos (Or.inl several)]
    exact ⟨byName, byOrder⟩
  · obtain ⟨j, rfl⟩ := List.length_eq_one_iff.mp single
    have has : ([column].any fun c => Members.has c.name fields) = true := by
      have found : Members.get? column.name fields = some j :=
        get?_of_mem_zip distinct named List.mem_cons_self
      rw [List.any_cons, Members.has, found]
      rfl
    have noList : ¬startsWithList [column] = true := by
      unfold startsWithList
      split
      · next h => exact absurd (Option.some.inj h) noArray
      · next h => exact absurd (Option.some.inj h) noMultiset
      · exact Bool.false_ne_true
    rw [decode, decode, if_pos (Or.inr has), if_pos (Or.inr noList)]
    exact ⟨byName, byOrder⟩

end Names

end Row

end QueryClient
