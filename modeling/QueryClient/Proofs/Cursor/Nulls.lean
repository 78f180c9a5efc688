import QueryClient.Proofs.Cascade
import QueryClient.Proofs.Cursor.Delivery
import QueryClient.Proofs.Row.Layout
import QueryClient.Proofs.Statement.Step

/-!
# Nulls

A cursor remembers whether the value last read was null. `next` and every getter forget it first, so
what is remembered is about the last of these calls, even if it has failed (`wasNull_afterUses`).
Reading a null never fails: it gives the zero of the requested type or nothing. Main statement:
`nulls_noticed`.
-/

namespace QueryClient

namespace Getter

/-- Zero or false. -/
def Reading.IsZero : Reading → Prop
  | .number n => n = 0
  | .binary32 x => x.bits = 0
  | .binary64 x => x.bits = 0
  | .bool b => b = false
  | _ => False

/-- What a null reads as is zero, if it is anything. -/
theorem isZero_of_zero? {target : Target} {r : Reading} (h : zero? target = some r) :
    r.IsZero := by
  cases target with
  | int8 | int16 | int32 | int64 | bool =>
    cases h
    rfl
  | binary32 | binary64 =>
    cases h
    show _ = _
    decide +kernel
  | _ => cases h

theorem read_of_isNull {v : Value} (h : v.isNull = true) (target : Target) (c : Column) :
    read target v c = .ok (zero? target) := if_pos h

end Getter

theorem Value.isNull_iff {v : Value} : v.isNull = true ↔ v = .null ∨ v = .missing := by
  cases v <;> simp [isNull]

namespace Cursor

/-! ## The value that a getter finds -/

/-- The value of the addressed column in the current row, if there are both. -/
def valueAt? (c : Cursor) (ref : ColumnRef) : Option Value :=
  match ref.resolve c.columns, c.row with
  | .ok index, some row => some (row.getD index .missing)
  | _, _ => none

/-- The addressed column is null or missing in the current row. -/
def FindsNull (c : Cursor) (ref : ColumnRef) : Prop :=
  c.valueAt? ref = some .null ∨ c.valueAt? ref = some .missing

theorem findsNull_iff {c : Cursor} {ref : ColumnRef} :
    c.FindsNull ref ↔ ∃ v, c.valueAt? ref = some v ∧ v.isNull = true := by
  constructor
  · rintro (h | h)
    · exact ⟨_, h, rfl⟩
    · exact ⟨_, h, rfl⟩
  · rintro ⟨v, h, null⟩
    rcases Value.isNull_iff.mp null with rfl | rfl
    · exact Or.inl h
    · exact Or.inr h

section Get

variable {c : Cursor} (isOpen : c.closed = false)

include isOpen

/-- A getter that finds no value fails. -/
theorem get_of_valueAt?_eq_none {ref : ColumnRef} (h : c.valueAt? ref = none)
    (target : Getter.Target) :
    ∃ e, c.get target ref = (.error e, { c with wasNull := false }) := by
  unfold get
  unfold valueAt? at h
  rw [if_neg (Bool.eq_false_iff.mp isOpen)]
  dsimp only
  cases resolved : ref.resolve c.columns with
  | error e => exact ⟨e, rfl⟩
  | ok index =>
    cases hrow : c.row with
    | none => exact ⟨.noCurrentRow, rfl⟩
    | some row =>
      rw [resolved, hrow] at h
      cases h

/-- A getter converts the value that it finds, and remembers whether it was null. -/
theorem get_of_valueAt? {ref : ColumnRef} {v : Value} (h : c.valueAt? ref = some v)
    (target : Getter.Target) : ∃ column,
      c.get target ref = (Getter.read target v column, { c with wasNull := v.isNull }) := by
  unfold get
  unfold valueAt? at h
  rw [if_neg (Bool.eq_false_iff.mp isOpen)]
  dsimp only
  split at h
  · next index row resolved hrow =>
    cases h
    rw [resolved, hrow]
    dsimp only
    rw [List.getElem?_eq_getElem (ColumnRef.lt_of_resolve resolved)]
    exact ⟨_, rfl⟩
  · cases h

theorem wasNull_get (target : Getter.Target) (ref : ColumnRef) :
    (c.get target ref).2.wasNull = true ↔ c.FindsNull ref := by
  rw [findsNull_iff]
  cases hv : c.valueAt? ref with
  | none =>
    obtain ⟨e, failed⟩ := get_of_valueAt?_eq_none isOpen hv target
    rw [failed]
    exact iff_of_false Bool.false_ne_true nofun
  | some v =>
    obtain ⟨column, found⟩ := get_of_valueAt? isOpen hv target
    rw [found]
    simp only [Option.some.injEq, exists_eq_left']

/-- Reading a null does not fail, whatever it is read as and whatever type the column has. -/
theorem get_of_findsNull {ref : ColumnRef} (h : c.FindsNull ref) (target : Getter.Target) :
    (c.get target ref).1 = .ok (Getter.zero? target) := by
  obtain ⟨v, hv, null⟩ := findsNull_iff.mp h
  obtain ⟨column, found⟩ := get_of_valueAt? isOpen hv target
  rw [found]
  exact Getter.read_of_isNull null target column

theorem wasNull_next : c.next.2.wasNull = false := by
  have started : c.startNext.2.wasNull = false := by
    simp only [startNext, isOpen, Bool.false_eq_true, if_false]
    split
    · rfl
    · split <;> rfl
  have pulled (k : Cursor) : k.pull.2.wasNull = k.wasNull := by
    unfold pull
    split <;> rfl
  have finished (k : Cursor) (come : Option (Result Row)) :
      (k.finishNext come).2.wasNull = k.wasNull := by
    simp only [finishNext]
    split
    · rfl
    · split <;> rfl
  unfold next
  split
  · next heq =>
    rw [heq] at started
    exact started
  · next k heq =>
    rw [heq] at started
    exact (finished _ _).trans ((pulled k).trans started)

end Get

/-! ## Columns by name -/

/-- Two addresses of the same column read the same. -/
theorem get_congr {c : Cursor} {ref ref' : ColumnRef}
    (h : ref.resolve c.columns = ref'.resolve c.columns) (target : Getter.Target) :
    c.get target ref = c.get target ref' := by
  unfold get
  dsimp only
  rw [h]

/-- The columns have the name first at the position `n`, counted from 1. -/
structure FirstAt (columns : List Column) (name : String) (n : Nat) : Prop where
  there : ∃ column, columns[n - 1]? = some column ∧ column.name = name
  first : ∀ column ∈ columns.take (n - 1), column.name ≠ name

theorem firstAt_of_findIdx? {columns : List Column} {name : String} {i : Nat}
    (h : (columns.findIdx? fun c => c.name == name) = some i) : FirstAt columns name (i + 1) := by
  obtain ⟨hi, found, before⟩ := List.findIdx?_eq_some_iff_getElem.mp h
  refine ⟨⟨columns[i], List.getElem?_eq_getElem hi, eq_of_beq found⟩, fun column hmem => ?_⟩
  obtain ⟨j, hj, rfl⟩ := List.mem_take_iff_getElem.mp hmem
  have other := before j (by omega)
  simpa using other

section Named

variable {c : Cursor} (isOpen : c.closed = false) {name : String}

include isOpen

theorem findColumn_eq :
    c.findColumn name = ((ColumnRef.name name).resolve c.columns).map (· + 1) :=
  if_neg (Bool.eq_false_iff.mp isOpen)

/-- Reading a column by its name is reading it by the position where it is found, which is that of
the first column of the name. -/
theorem get_name_of_findColumn {n : Nat} (h : c.findColumn name = .ok n) :
    FirstAt c.columns name n ∧
      ∀ target, c.get target (.name name) = c.get target (.position n) := by
  rw [findColumn_eq isOpen] at h
  obtain ⟨i, resolved, rfl⟩ := Tagged.map_eq_ok h
  refine ⟨?_, fun target => get_congr ?_ target⟩
  · simp only [ColumnRef.resolve] at resolved
    split at resolved
    · next j found =>
      cases resolved
      exact firstAt_of_findIdx? found
    · cases resolved
  · rw [resolved, ColumnRef.resolve_position (ColumnRef.lt_of_resolve resolved)]

/-- Where no column of the name is found, none is read. -/
theorem get_name_of_findColumn_fails {e : ClientError} (h : c.findColumn name = .error e)
    (target : Getter.Target) : (c.get target (.name name)).1 = .error e := by
  rw [findColumn_eq isOpen] at h
  rw [get_of_open isOpen, valueIn]
  cases resolved : (ColumnRef.name name).resolve c.columns with
  | error e' =>
    rw [resolved] at h
    cases h
    rfl
  | ok i =>
    rw [resolved] at h
    cases h

end Named

/-! ## What is remembered -/

/-- Whether a use forgets whether the last value was null. -/
def Use.forgets : Use → Bool
  | .next | .get _ _ => true
  | _ => false

theorem moved_next (c : Cursor) : Moved c c.next.2 := by
  have started := moved_startNext c
  unfold next
  split
  · next heq =>
    rw [heq] at started
    exact started
  · next k heq =>
    rw [heq] at started
    exact started.trans ((moved_pull k).trans (moved_finishNext _ _))

theorem closed_use (c : Cursor) (u : Use) : (c.use u).closed = c.closed := by
  cases u with
  | next => exact (moved_next c).closed
  | get target ref => exact (moved_get c target ref).closed
  | _ => rfl

theorem closed_afterUses (c : Cursor) (uses : List Use) :
    (c.afterUses uses).closed = c.closed := by
  induction uses generalizing c with
  | nil => rfl
  | cons u uses ih => exact (ih (c.use u)).trans (closed_use c u)

theorem afterUses_concat (c : Cursor) (uses : List Use) (u : Use) :
    c.afterUses (uses ++ [u]) = (c.afterUses uses).use u := by
  unfold afterUses
  rw [List.foldl_append]
  rfl

/-- The last use that goes to the next row or reads a value reads one, and the value is null. -/
def LastFindsNull (c : Cursor) (uses : List Use) : Prop :=
  ∃ before target ref after, uses = before ++ .get target ref :: after ∧
    (∀ u ∈ after, u.forgets = false) ∧ (c.afterUses before).FindsNull ref

theorem lastFindsNull_concat_of_not_forgets (c : Cursor) (uses : List Use) {u : Use}
    (h : u.forgets = false) : c.LastFindsNull (uses ++ [u]) ↔ c.LastFindsNull uses := by
  constructor
  · rintro ⟨before, target, ref, after, same, rest, found⟩
    rcases split_concat same with ⟨-, rfl, -⟩ | ⟨after, rfl, earlier⟩
    · cases h
    · exact ⟨before, target, ref, after, earlier, fun v hv => rest v (by simp [hv]), found⟩
  · rintro ⟨before, target, ref, after, rfl, rest, found⟩
    refine ⟨before, target, ref, after ++ [u], by simp, fun v hv => ?_, found⟩
    rcases List.mem_append.mp hv with hv | hv
    · exact rest v hv
    · exact List.mem_singleton.mp hv ▸ h

theorem lastFindsNull_concat_of_forgets (c : Cursor) (uses : List Use) {u : Use}
    (h : u.forgets = true) : c.LastFindsNull (uses ++ [u]) ↔
      ∃ target ref, u = .get target ref ∧ (c.afterUses uses).FindsNull ref := by
  constructor
  · rintro ⟨before, target, ref, after, same, rest, found⟩
    rcases split_concat same with ⟨rfl, rfl, -⟩ | ⟨after, rfl, -⟩
    · exact ⟨target, ref, rfl, found⟩
    · rw [rest u (by simp)] at h
      cases h
  · rintro ⟨target, ref, rfl, found⟩
    exact ⟨uses, target, ref, [], rfl, nofun, found⟩

/-- **What an open cursor remembers is what the last of `next` and the getters has come across.** -/
theorem wasNull_afterUses {c : Cursor} (isOpen : c.closed = false) (unread : c.wasNull = false)
    (uses : List Use) : (c.afterUses uses).wasNull = true ↔ c.LastFindsNull uses := by
  induction uses using List.reverseRecOn with
  | nil =>
    refine iff_of_false (by rw [afterUses, List.foldl_nil, unread]; exact Bool.false_ne_true) ?_
    rintro ⟨before, target, ref, after, same, -⟩
    simp at same
  | append_singleton uses u ih =>
    have still : (c.afterUses uses).closed = false := (closed_afterUses c uses).trans isOpen
    rw [afterUses_concat]
    cases u with
    | next =>
      rw [lastFindsNull_concat_of_forgets c uses rfl, use, wasNull_next still]
      exact iff_of_false Bool.false_ne_true fun ⟨_, _, same, _⟩ => nomatch same
    | get target ref =>
      rw [lastFindsNull_concat_of_forgets c uses rfl, use, wasNull_get still]
      constructor
      · exact fun found => ⟨target, ref, rfl, found⟩
      · rintro ⟨target', ref', same, found⟩
        cases same
        exact found
    | _ =>
      rw [lastFindsNull_concat_of_not_forgets c uses rfl]
      exact ih

/-- **Nulls are noticed, and they can be read as anything.** However an open cursor has been used,
it says that the last value was null precisely if the last call of `next` or of a getter was a
getter that has found a null or missing value. Reading such a value succeeds whatever it is read
as and whatever type the column has, with zero, with false or with nothing. Reading a column by name
is reading it by the position where it is found, which is that of the first column of the name. And
no getter changes anything but what the cursor says of the last value. -/
theorem nulls_noticed (columns : List Column) (source : RowSource) (maxRows : Nat)
    (uses : List Use) :
    let start := create columns source maxRows
    let c := start.afterUses uses
    (c.lastWasNull = .ok true ↔ start.LastFindsNull uses) ∧
    (c.lastWasNull = .ok false ↔ ¬start.LastFindsNull uses) ∧
    (∀ target ref, c.FindsNull ref → (c.get target ref).1 = .ok (Getter.zero? target) ∧
      ∀ r, Getter.zero? target = some r → r.IsZero) ∧
    (∀ name n, c.findColumn name = .ok n → FirstAt c.columns name n ∧
      ∀ target, c.get target (.name name) = c.get target (.position n)) ∧
    (∀ name e, c.findColumn name = .error e →
      ∀ target, (c.get target (.name name)).1 = .error e) ∧
    ∀ target ref, ∃ b, (c.get target ref).2 = { c with wasNull := b } := by
  intro start c
  have isOpen : c.closed = false := closed_afterUses start uses
  have remembered : c.wasNull = true ↔ start.LastFindsNull uses := wasNull_afterUses rfl rfl uses
  have answer : c.lastWasNull = .ok c.wasNull := by
    rw [lastWasNull, whenOpen, if_neg (Bool.eq_false_iff.mp isOpen)]
  refine ⟨?_, ?_, ?_, ?_, ?_, get_keeps c⟩
  · rw [answer, Except.ok.injEq]
    exact remembered
  · rw [answer, Except.ok.injEq, ← remembered, Bool.not_eq_true]
  · exact fun target ref found =>
      ⟨get_of_findsNull isOpen found target, fun r => Getter.isZero_of_zero?⟩
  · exact fun name n => get_name_of_findColumn isOpen
  · exact fun name e => get_name_of_findColumn_fails isOpen

/-- A cursor over one row, of which the first value is null, with two columns of one name. -/
def twins : Cursor :=
  create [⟨"n", .uuid, true⟩, ⟨"n", .string, false⟩] (.memory [[.null, .string "x"]]) 0

theorem twins_noticed :
    let c := twins.afterUses [.next, .get .value (.position 2), .get .string (.name "n"), .isFirst]
    c.lastWasNull = .ok true ∧ (c.get .int8 (.name "n")).1 = .ok (some (.number 0)) ∧
      c.get .uuid (.name "n") = c.get .uuid (.position 1) ∧
      (c.get .uuid (.name "m")).1 = .error (.columnNotFound "m") := by
  intro c
  have nulls := nulls_noticed [⟨"n", .uuid, true⟩, ⟨"n", .string, false⟩]
    (.memory [[.null, .string "x"]]) 0
  obtain ⟨noticed, -, zeros, named, unnamed, -⟩ :=
    nulls [.next, .get .value (.position 2), .get .string (.name "n"), .isFirst]
  refine ⟨noticed.mpr ?_, (zeros .int8 (.name "n") (Or.inl rfl)).1, ?_, ?_⟩
  · exact ⟨[.next, .get .value (.position 2)], .string, .name "n", [.isFirst], rfl, by decide,
      Or.inl rfl⟩
  · exact (named "n" 1 rfl).2 .uuid
  · exact unnamed "m" _ rfl .uuid

end Cursor

end QueryClient
