import QueryClient.Proofs.Connection.Lineage
import QueryClient.Proofs.Cursor.Delivery
import QueryClient.Proofs.Row.Layout

/-!
# The rows that cursors hold

A cursor of a connection has a value for each column of its current row (`fits_run`), because the
rows that the service sends are laid out over the columns and those that the client makes itself
fit them. So no getter ever has to make up for a value that is not there. Main statement:
`row_shapes`.
-/

namespace QueryClient

/-! ## Sources -/

/-- What is read from rows that fit fits, and so does what is left. -/
theorem RowSource.Fits.pull {columns : List Column} {source : RowSource}
    (h : source.Fits columns) :
    (source.pull columns).2.Fits columns ∧
      ∀ row, (source.pull columns).1 = some (.ok row) → row.length = columns.length := by
  cases source with
  | stream elements =>
    simp only [RowSource.pull]
    rcases elements.next with ⟨_ | _ | raw, rest⟩
    · exact ⟨trivial, nofun⟩
    · exact ⟨trivial, nofun⟩
    · exact ⟨trivial, fun row hrow => Row.length_decode (Option.some.inj hrow)⟩
  | memory rows =>
    cases rows with
    | nil => exact ⟨h, nofun⟩
    | cons row rows =>
      obtain ⟨hrow, hrows⟩ := List.forall_mem_cons.mp h
      refine ⟨hrows, fun row' same => ?_⟩
      cases same
      exact hrow

/-! ## Cursors -/

namespace Cursor

/-- The current row of a cursor fits its columns, and so do the rows still to come. -/
structure Fits (k : Cursor) : Prop where
  source : ∀ source, k.source = some source → source.Fits k.columns
  row : ∀ row, k.row = some row → row.length = k.columns.length

variable {k k' : Cursor}

theorem fits_create {columns : List Column} {source : RowSource} (h : source.Fits columns)
    (maxRows : Nat) : (create columns source maxRows).Fits where
  source := by
    rintro _ same
    cases same
    exact h
  row := nofun

/-- A cursor that has let go of its rows has none that could not fit. -/
theorem fits_of_none (source : k.source = none) (row : k.row = none) : k.Fits where
  source := by
    intro _ some
    rw [source] at some
    cases some
  row := by
    intro _ some
    rw [row] at some
    cases some

theorem Fits.close (h : k.Fits) : k.close.Fits := by
  unfold Cursor.close
  split
  · exact h
  · split
    · exact ⟨h.source, h.row⟩
    · exact fits_of_none rfl rfl

theorem Fits.startNext (h : k.Fits) : k.startNext.2.Fits := by
  simp only [Cursor.startNext]
  split
  · exact h
  · split
    · exact ⟨h.source, h.row⟩
    · split
      · exact fits_of_none rfl rfl
      · exact ⟨h.source, h.row⟩

theorem Fits.get (h : k.Fits) (target : Getter.Target) (ref : ColumnRef) :
    (k.get target ref).2.Fits := by
  obtain ⟨b, same⟩ := get_keeps k target ref
  rw [same]
  exact ⟨h.source, h.row⟩

theorem Fits.change (h : k.Fits) (change : Change k k') : k'.Fits := by
  cases change with
  | close => exact h.close
  | drop => exact ⟨h.source, h.row⟩
  | startNext => exact h.startNext
  | get target ref => exact h.get target ref

theorem Fits.changes (h : k.Fits) (changes : Changes k k') : k'.Fits := by
  induction changes with
  | refl => exact h
  | tail _ change ih => exact ih.change change

/-- A row that is taken over fits. -/
theorem Fits.finishNext (h : k.Fits) : (k.pull.2.finishNext k.pull.1).2.Fits := by
  have pulled : k.pull.2.Fits ∧ ∀ row, k.pull.1 = some (.ok row) →
      row.length = k.pull.2.columns.length := by
    unfold Cursor.pull
    split
    · exact ⟨h, nofun⟩
    · next source hsource =>
      obtain ⟨rest, row⟩ := (h.source source hsource).pull
      refine ⟨⟨?_, h.row⟩, row⟩
      rintro _ same
      cases same
      exact rest
  obtain ⟨fits, row⟩ := pulled
  simp only [Cursor.finishNext]
  split
  · exact fits_of_none rfl rfl
  · split
    · next row' come =>
      refine ⟨fits.source, ?_⟩
      rintro _ same
      cases same
      exact row row' come
    · exact fits_of_none rfl rfl
    · exact fits_of_none rfl rfl

end Cursor

/-! ## Connections -/

namespace Connection

/-- The rows of all cursors fit. -/
def Fits (c : Connection) : Prop := ∀ (id : CursorId) (k : Cursor), c.cursor? id = some k → k.Fits

variable {c d : Connection}

theorem fits_create (config : ClientConfig) (server : Option String) :
    (create config server).Fits := fun _ _ hk => nomatch hk

theorem Fits.evolves (h : c.Fits) (evolves : Evolves c d) : d.Fits := by
  intro id k' hk'
  cases hk : c.cursor? id with
  | some k =>
    obtain ⟨k'', hk'', changes⟩ := evolves.kept hk
    cases hk''.symm.trans hk'
    exact (h id k hk).changes changes
  | none =>
    obtain ⟨columns, source, maxRows, fits, changes⟩ := evolves.new hk' hk
    exact (Cursor.fits_create fits maxRows).changes changes

theorem Fits.withCursor {α : Type} (h : c.Fits) (id : CursorId) {f : Cursor → α × Cursor}
    (kept : ∀ k : Cursor, k.Fits → (f k).2.Fits) : (c.withCursor id f).2.Fits := by
  intro other k' hk'
  rw [cursor?_withCursor] at hk'
  split at hk'
  · obtain ⟨k, hk, rfl⟩ := Option.map_eq_some_iff.mp hk'
    exact kept k (h id k hk)
  · exact h other k' hk'

theorem Fits.finishNext (h : c.Fits) (id : CursorId) : (c.finishNext id).2.Fits := by
  unfold Connection.finishNext
  split
  · show (c.withCursor id fun k => k.pull.2.finishNext k.pull.1).2.Fits
    exact h.withCursor id fun k fits => fits.finishNext
  · exact h

/-- What a cursor that was never created looks like fits, too. -/
theorem Fits.cursor (h : c.Fits) (id : CursorId) : (c.cursor id).Fits := by
  cases hk : c.cursor? id with
  | some k => exact cursor_of_cursor? hk ▸ h id k hk
  | none =>
    rw [Connection.cursor, show (c.statement id.statement).cursors[id.cursor]? = none from hk]
    exact Cursor.fits_of_none rfl rfl

end Connection

/-! ## Runs -/

namespace Shared

theorem fits_take {s : Shared} (regular : s.Regular) (fits : s.connection.Fits)
    (turn : Turn) : (s.take turn).connection.Fits := by
  rcases (evolves_take regular.evolving turn).2 with ⟨id, rfl⟩ | evolves
  · exact fits.finishNext id
  · exact fits.evolves evolves

/-- Whatever is done and whatever is under way, the rows of all cursors fit their columns. -/
theorem fits_run {s : Shared} (regular : s.Regular) (fits : s.connection.Fits)
    (turns : List Turn) : (s.run turns).connection.Fits := by
  induction turns generalizing s with
  | nil => exact fits
  | cons turn turns ih => exact ih (regular.take turn) (fits_take regular fits turn)

/-- **A row has one value for each column, and it may name its columns or go by their order.**
Whatever form a row has had, once it has been read it has precisely as many values as there are
columns; so in any run each column that is addressed has its value in the current row. With several
columns, or with a value for the only one, which holds no lists, an object that has the values of
the first columns by their names, in any order and among other members, comes to the same as the
array of these values, be it a row or a failure: the values, and missing ones behind them. -/
theorem row_shapes :
    (∀ columns raw row, Row.decode columns raw = .ok row → row.length = columns.length) ∧
    (∀ config server turns id row index, ∀ ref : ColumnRef,
      let k := ((create config server).run turns).connection.cursor id
      k.row = some row → ref.resolve k.columns = .ok index → ∃ v, row[index]? = some v) ∧
    (∀ columns values fields, (columns.map Column.name).Nodup → values.length ≤ columns.length →
      (1 < columns.length ∨ ∃ column, columns = [column] ∧ values.length = 1 ∧
        column.datatype ≠ .array ∧ column.datatype ≠ .multiset) →
      Row.Names columns values fields →
        Row.decode columns (.object fields) = Row.decode columns (.array values) ∧
        Row.decode columns (.array values) = (Tagged.decodeItems values).map
          (· ++ List.replicate (columns.length - values.length) Value.missing)) := by
  refine ⟨fun columns raw row h => Row.length_decode h, ?_, ?_⟩
  · intro config server turns id row index ref k hrow resolved
    have fits := fits_run (regular_create config server)
      (Connection.fits_create config server) turns
    have there : index < row.length := by
      rw [(fits.cursor id).row row hrow]
      exact ColumnRef.lt_of_resolve resolved
    exact ⟨row[index], List.getElem?_eq_getElem there⟩
  · intro columns values fields distinct fits shape named
    obtain ⟨byName, byOrder⟩ := Row.decode_object_and_array distinct named fits shape
    exact ⟨byName.trans byOrder.symm, byOrder⟩

def flags : List Column := [⟨"a", .boolean, false⟩, ⟨"b", .any, true⟩, ⟨"c", .any, true⟩]

/-- Going to the first of the wire types. -/
def firstType : List Turn :=
  [.start .typeInfo, .start (.startNext ⟨0, 0⟩), .start (.finishNext ⟨0, 0⟩)]

/-- A row names its columns in another order and misses the last one; a current row has a value for
its last column. -/
theorem flags_shapes :
    let named := Json.object [("b", .null), ("z", .bool false), ("a", .bool true)]
    let row := Connection.typeInfoRow .tinyInt
    Row.decode flags named = .ok [.boolean true, .null, .missing] ∧
      Row.decode flags (.array [.bool true, .null]) = .ok [.boolean true, .null, .missing] ∧
      [Value.boolean true, .null, .missing].length = flags.length ∧
      (((create .standard none).run firstType).connection.cursor ⟨0, 0⟩).row = some row ∧
      ∃ v, row[2]? = some v := by
  intro named row
  obtain ⟨lengths, current, shapes⟩ := row_shapes
  have reordered : Row.Names flags [.bool true, .null]
      [("b", .null), ("z", .bool false), ("a", .bool true)] :=
    ⟨[("z", .bool false)], .trans (.cons _ (.swap _ _ _)) (.swap _ _ _), by decide⟩
  obtain ⟨same, laid⟩ := shapes flags _ _ (by decide) (by decide) (Or.inl (by decide)) reordered
  have onRow : (((create .standard none).run firstType).connection.cursor ⟨0, 0⟩).row =
    some row := rfl
  exact ⟨same.trans laid, laid, lengths flags named _ (same.trans laid), onRow,
    current .standard none firstType ⟨0, 0⟩ row 2 (.name "NULLABLE") onRow rfl⟩

end Shared

end QueryClient
