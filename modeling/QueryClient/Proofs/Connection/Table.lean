import QueryClient.Proofs.Connection.Registry
import QueryClient.Proofs.Cursor.Delivery
import QueryClient.Proofs.Row.Layout

/-!
# Tables that are sent and queried back

A service that has been sent the values of a table may answer a query with them, row by row, as
objects in the text of an array. The stream takes the objects out of the text, the reader makes
values of them again, these are laid out over the columns, the cursor goes through them, and a
getter finds them. Put together, the cursor of the query shows the table that has been sent
(`executeQuery_shows`).
-/

namespace QueryClient

/-! ## Columns by name -/

namespace ColumnRef

/-- Where no name is repeated, each one addresses its own column. -/
theorem resolve_name {columns : List Column} (distinct : (columns.map Column.name).Nodup) {k : Nat}
    {column : Column} (h : columns[k]? = some column) :
    (name column.name).resolve columns = .ok k := by
  obtain ⟨hk, hcolumn⟩ := List.getElem?_eq_some_iff.mp h
  have found : columns.findIdx? (fun c => c.name == column.name) = some k := by
    rw [List.findIdx?_eq_some_iff_getElem]
    refine ⟨hk, by rw [hcolumn]; exact beq_self_eq_true _, fun j hj heq => ?_⟩
    -- an earlier column of the name would repeat it
    have same : (columns.map Column.name)[j]? = (columns.map Column.name)[k]? := by
      rw [List.getElem?_map, List.getElem?_map, h, List.getElem?_eq_getElem (by omega)]
      exact congrArg some (eq_of_beq heq)
    have place := (List.getElem?_inj (by rw [List.length_map]; omega) distinct).mp same
    omega
  rw [resolve, found]

end ColumnRef

/-! ## The columns that a response announces -/

theorem QueryResponse.columns_of_signature {r : QueryResponse} {names types : List String}
    (plan : r.isExplainOnly = false) (signature : r.signature = some ⟨names, types⟩)
    (nonempty : names ≠ []) (lengths : types.length = names.length)
    (known : ∀ type ∈ types, (Datatype.ofTypeName? type).isSome = true) :
    ∃ columns, r.columns = .ok columns ∧ columns.map Column.name = names := by
  let column (c : String × String) : Column :=
    ⟨c.1, (Datatype.ofTypeName? c.2).getD .any, Datatype.isNullableName c.2⟩
  have read (c : String × String) (h : (Datatype.ofTypeName? c.2).isSome = true) :
      columnOf c.1 c.2 = .ok (column c) := by
    obtain ⟨t, ht⟩ := Option.isSome_iff_exists.mp h
    simp only [columnOf, column, ht, Option.getD_some]
  have regular : ¬(names = [] ∨ names.length ≠ types.length) := by
    rintro (h | h)
    · exact nonempty h
    · exact h lengths.symm
  refine ⟨(names.zip types).map column, ?_, ?_⟩
  · rw [columns, plan, if_neg Bool.false_ne_true, signature]
    simp only [if_neg regular]
    refine mapM_eq_ok_iff.mpr (List.forall₂_map_right_iff.mpr (List.forall₂_same.mpr ?_))
    intro c hc
    exact read c (known c.2 (List.of_mem_zip hc).2)
  · rw [List.map_map]
    exact List.map_fst_zip (Nat.le_of_eq lengths.symm)

/-! ## Tables -/

/-- Named columns and rows of values for them. -/
structure Table where
  names : List String
  rows : List Row
  nonempty : names ≠ []
  distinct : names.Nodup
  rectangular : ∀ row ∈ rows, row.length = names.length

namespace Table

/-- The objects that the rows are sent as. -/
def encode (t : Table) : Result (List Json) := t.rows.mapM (Row.encode t.names)

/-- What the rows read back as. -/
def normal (t : Table) : List Row := t.rows.map fun row => row.map Value.normal

/-- No date-time in the table lies beyond the calendar. -/
def InCalendar (t : Table) : Prop := ∀ row ∈ t.rows, ∀ v ∈ row, v.InCalendar

/-- The answer to a query whose signature has the columns of the table. -/
structure AnnouncedBy (t : Table) (r : QueryResponse) : Prop where
  isQuery : r.isQuery = true
  isExplainOnly : r.isExplainOnly = false
  signature : ∃ types, r.signature = some ⟨t.names, types⟩ ∧ types.length = t.names.length ∧
    ∀ type ∈ types, (Datatype.ofTypeName? type).isSome = true

/-- The body of a result whose rows are the given objects, written compactly. Other members may
stand around them. -/
def IsBody (forms : List Json) (body : List UInt8) : Prop :=
  ∃ members m, Json.ObjectText members body ∧
    ElementStream.firstNamed "results" members = some m ∧
    Json.ArrayText (forms.map Json.bytes) m.2

section sent

variable {t : Table} {forms : List Json} (sent : t.encode = .ok forms)

include sent

/-- Row by row, what is sent of a table. -/
theorem forall₂_sent : List.Forall₂ (fun row form =>
    row.length = t.names.length ∧ Row.encode t.names row = .ok form) t.rows forms :=
  (List.forall₂_and_left _ _).mpr ⟨t.rectangular, mapM_eq_ok_iff.mp sent⟩

theorem rows_sent : ∀ row ∈ t.rows, ∃ form, Row.encode t.names row = .ok form := by
  have known := (forall₂_sent sent).imp fun row form h =>
    (⟨⟨form, h.2⟩, h⟩ : (∃ form, Row.encode t.names row = .ok form) ∧ _)
  exact ((List.forall₂_and_left _ _).mp known).1

theorem printable_forms : ∀ form ∈ forms, form.Printable := by
  have known := (forall₂_sent sent).flip.imp fun form row h =>
    (⟨Row.printable_encode h.1 h.2, h⟩ : form.Printable ∧ _)
  exact ((List.forall₂_and_left _ _).mp known).1

/-- Laid out over its columns, what is sent of a table is what the table reads back as. -/
theorem map_decode {columns : List Column} (names : columns.map Column.name = t.names)
    (inCalendar : t.InCalendar) : forms.map (Row.decode columns) = t.normal.map .ok := by
  have nonempty : columns ≠ [] := by
    rintro rfl
    exact t.nonempty names.symm
  have rows := (List.forall₂_and_left _ _).mpr ⟨inCalendar, forall₂_sent sent⟩
  have decoded : List.Forall₂ (fun form row =>
      Row.decode columns form = .ok (row.map Value.normal)) forms t.rows := by
    refine rows.flip.imp ?_
    rintro form row ⟨hcalendar, length, hsent⟩
    rw [← names] at hsent length
    exact Row.decode_encode nonempty (names ▸ t.distinct) (length.trans (List.length_map _)) hsent
      hcalendar
  rw [normal, List.map_map, ← List.forall₂_eq_eq_eq, List.forall₂_map_left_iff,
    List.forall₂_map_right_iff]
  exact decoded

end sent

end Table

/-- What a getter of values finds of a value that has been sent: nothing of a null, and the normal
form of any other. -/
def Value.found : Value → Option Getter.Reading
  | .null => none
  | v => some (.value v.normal)

/-- The cursor goes through the rows of the table from the first to the last, and then ends. On a
row, each value is found by the column's position and by its name. -/
structure Cursor.Shows (k : Cursor) (t : Table) : Prop where
  names : k.columns.map Column.name = t.names
  stands : ∀ uses, Stands k.columns t.normal (.ok false) (uses.countP Use.isNext) (k.afterUses uses)
  found : ∀ uses n row, uses.countP Use.isNext = n + 1 → t.rows[n]? = some row →
    ∀ i v name, row[i]? = some v → t.names[i]? = some name →
      ((k.afterUses uses).get .value (.position (i + 1))).1 = .ok v.found ∧
      ((k.afterUses uses).get .value (.name name)).1 = .ok v.found

/-! ## The cursor of a table -/

/-- A value that can be sent is read as it is, unless it is null. -/
theorem Getter.read_normal {v : Value} {j : Json} (sent : Param.encode (.value v) = .ok j)
    (c : Column) : read .value v.normal c = .ok v.found := by
  cases v with
  | missing => exact nomatch sent
  | _ => rfl

theorem Cursor.valueIn_of_resolve {columns : List Column} {ref : ColumnRef} {row : Row} {i : Nat}
    {column : Column} {v : Value} (index : ref.resolve columns = .ok i)
    (hcolumn : columns[i]? = some column) (hv : row[i]? = some v) (target : Getter.Target) :
    valueIn columns (some row) target ref = Getter.read target v column := by
  simp only [valueIn, index, bind, Except.bind, hcolumn, List.getD_eq_getElem?_getD, hv,
    Option.getD_some]

theorem Row.values_sent {names : List String} {row : Row} {form : Json}
    (sent : encode names row = .ok form) : ∀ v ∈ row, ∃ j, Param.encode (.value v) = .ok j := by
  obtain ⟨forms, hforms, -⟩ := Tagged.map_eq_ok sent
  clear sent
  induction row generalizing forms with
  | nil => exact fun _ hv => absurd hv List.not_mem_nil
  | cons v row ih =>
    obtain ⟨j, hj, h⟩ := Tagged.bind_eq_ok hforms
    obtain ⟨js, hjs, -⟩ := Tagged.bind_eq_ok h
    exact List.forall_mem_cons.mpr ⟨⟨j, hj⟩, ih js hjs⟩

/-- A cursor in front of the rows that a table reads back as shows the table. -/
theorem Cursor.shows_of_at {k : Cursor} {t : Table} {columns : List Column} {forms : List Json}
    (names : columns.map Column.name = t.names) (sent : t.encode = .ok forms)
    (hat : At columns 0 (t.normal.map .ok) 0 k) : k.Shows t := by
  -- none of the rows fails, so all of them are delivered and then comes the end
  have stands (uses : List Use) : Stands k.columns t.normal (.ok false) (uses.countP Use.isNext)
      (k.afterUses uses) := by
    have hrun := (at_afterUses hat uses).stands
    have rows : deliverable 0 (t.normal.map .ok) = t.normal := RowSource.leadingRows_map_ok _
    have ending : ending 0 (t.normal.map .ok) = .ok false := by
      rw [Cursor.ending, if_neg fun h => Nat.lt_irrefl 0 h.1, RowSource.failure?_map_ok]
      rfl
    rwa [rows, ending, Nat.zero_add, ← hat.signature] at hrun
  refine ⟨hat.signature ▸ names, stands, ?_⟩
  intro uses n row count hrow i v name hv hname
  have current : rowAt t.normal (uses.countP Use.isNext) = some (row.map Value.normal) := by
    rw [count]
    show (t.rows.map fun row => row.map Value.normal)[n]? = _
    rw [List.getElem?_map, hrow, Option.map_some]
  have value : (row.map Value.normal)[i]? = some v.normal := by
    rw [List.getElem?_map, hv, Option.map_some]
  obtain ⟨column, hcolumn, rfl⟩ : ∃ column, columns[i]? = some column ∧ column.name = name := by
    rw [← names, List.getElem?_map] at hname
    exact Option.map_eq_some_iff.mp hname
  -- the value has been sent, so it is not the missing one, which would also read as null
  obtain ⟨form, hform⟩ := Table.rows_sent sent row (List.mem_of_getElem? hrow)
  obtain ⟨j, hj⟩ := Row.values_sent hform v (List.mem_of_getElem? hv)
  have bound : i < columns.length := (List.getElem?_eq_some_iff.mp hcolumn).1
  rw [(stands uses).get, (stands uses).get, current, hat.signature,
    valueIn_of_resolve (ColumnRef.resolve_position bound) hcolumn value,
    valueIn_of_resolve (ColumnRef.resolve_name (names ▸ t.distinct) hcolumn) hcolumn value,
    Getter.read_normal hj]
  exact ⟨rfl, rfl⟩

/-! ## The cursor of a query -/

namespace Connection

theorem cursor_finishQuery {c : Connection} {i : Nat} (hi : i < c.statements.length)
    (columns : List Column) (s : ElementStream) :
    let id : CursorId := ⟨i, (c.statement i).cursors.length⟩
    (c.finishQuery i columns (.ok s)).1 = .ok id ∧
      (c.finishQuery i columns (.ok s)).2.cursor id =
        Cursor.create columns (.stream s) (c.statement i).maxRows := by
  intro id
  have number : ((c.statement i).register columns (.stream s) (c.statement i).maxRows).1 =
      (c.statement i).cursors.length := Statement.register_fst _ _ _ _
  constructor
  · exact congrArg (fun k => Except.ok (CursorId.mk i k)) number
  · have cursors : ((c.finishQuery i columns (.ok s)).2.statement i).cursors =
        ((c.statement i).register columns (.stream s) (c.statement i).maxRows).2.cursors := by
      -- the token that the statement gets at the end leaves its cursors alone
      simp only [finishQuery, openNetworkCursor, withStatement, endExecution, drawToken]
      rw [statement_modifyStatement (by rw [length_putStatement]; exact hi)]
      show Statement.cursors (statement (putStatement _ _ _) i) = _
      rw [statement_putStatement hi]
    rw [cursor, cursors, Statement.cursors_register, List.getElem?_concat_length]
    rfl

/-- A query whose rows have to be fetched makes a cursor of them. -/
theorem cursor_executeQuery {c : Connection} {i : Nat} (connected : c.closed = false)
    (opened : (c.statement i).closed = false) {r : QueryResponse} (isQuery : r.isQuery = true)
    {columns : List Column} (opening : r.opening = .ok (.fetch columns)) {s : ElementStream}
    {answers : Answers} (submitted : answers.submitted = .ok r) (fetched : answers.fetched = .ok s)
    (sql : String) (params : List Param) :
    let o := (c.executeQuery i sql params).settle answers
    let id : CursorId := ⟨i, (c.statement i).cursors.length⟩
    o.result = .ok id ∧ o.connection.cursor id =
      Cursor.create columns (.stream s) (c.statement i).maxRows := by
  have hi := lt_of_open opened
  obtain ⟨submission, hsubmission⟩ : ∃ submission,
      c.submission i .query sql params = .ok submission := by
    simp only [Connection.submission, opened, connected, Bool.false_eq_true, if_false]
    exact ⟨_, rfl⟩
  -- what is noted of the answer touches neither the cursors nor the row limit
  have hanswer : c.answerQuery i (.ok r) =
      (.fetch r columns, c.modifyStatement i fun s => s.recordOutcome r none none) := by
    simp only [answerQuery, isQuery, if_true, opening]
  have finished := cursor_finishQuery (c := c.modifyStatement i fun s => s.recordOutcome r none none)
    (i := i) (by rw [modifyStatement, length_putStatement]; exact hi) columns s
  rw [statement_modifyStatement hi] at finished
  simp only [executeQuery, hsubmission, Dialogue.settle, submitted, hanswer, fetched]
  exact finished

/-! ## From the body to the cursor -/

theorem outcome_bytes (columns : List Column) {form : Json} (printable : form.Printable)
    (shallow : form.nesting ≤ Json.depthLimit) :
    RowSource.outcome columns (Json.bytes form) = Row.decode columns form := by
  rw [RowSource.outcome, Json.read?_bytes printable.1 printable.2 shallow]

section executeQuery

variable {t : Table} {forms : List Json} (sent : t.encode = .ok forms)
  (shallow : ∀ form ∈ forms, form.nesting ≤ Json.depthLimit)
  {r : QueryResponse} (announced : t.AnnouncedBy r)
  {body : List UInt8} (isBody : Table.IsBody forms body)
  {input : Input} (brings : input.Brings body) (policy : TransientPolicy)
  {c : Connection} (connected : c.closed = false)
  {i : Nat} (opened : (c.statement i).closed = false) (unlimited : (c.statement i).maxRows = 0)
  (sql : String) (params : List Param)

include sent shallow announced isBody brings connected opened unlimited

/-- The rows are found in the body, and the cursor of the query is in front of them. -/
theorem at_executeQuery : ∃ columns s rest, r.columns = .ok columns ∧
    columns.map Column.name = t.names ∧
    ElementStream.locate "results" policy input = .ok s rest ∧
    ∀ answers : Answers, answers.submitted = .ok r → answers.fetched = .ok s →
      let o := (c.executeQuery i sql params).settle answers
      ∃ id, o.result = .ok id ∧
        Cursor.At columns 0 (forms.map (Row.decode columns)) 0 (o.connection.cursor id) := by
  obtain ⟨types, signature, lengths, known⟩ := announced.signature
  obtain ⟨columns, hcolumns, names⟩ := QueryResponse.columns_of_signature announced.isExplainOnly
    signature t.nonempty lengths known
  obtain ⟨members, m, hobject, hfind, harray⟩ := isBody
  obtain ⟨s, rest, hlocate, hholds⟩ :=
    ElementStream.locate_array hobject "results" policy brings hfind harray
  refine ⟨columns, s, rest, hcolumns, names, hlocate, fun answers submitted fetched => ?_⟩
  have opening : r.opening = .ok (.fetch columns) := by
    rw [QueryResponse.opening, hcolumns, announced.isExplainOnly]
    rfl
  obtain ⟨hresult, hcursor⟩ := cursor_executeQuery connected opened announced.isQuery opening
    submitted fetched sql params
  refine ⟨_, hresult, ?_⟩
  -- each object is read back from its text, so only laying it out over the columns may still fail
  have outcomes : (forms.map Json.bytes).map (RowSource.outcome columns) =
      forms.map (Row.decode columns) := by
    rw [List.map_map]
    refine List.map_congr_left fun form hform => ?_
    exact outcome_bytes columns (Table.printable_forms sent form hform) (shallow form hform)
  rw [hcursor, unlimited, ← outcomes]
  exact Cursor.at_create 0 (RowSource.yields_stream hholds)

/-- **The cursor of the query shows the table that has been sent**, if none of its date-times lies
beyond the calendar. -/
theorem executeQuery_shows (inCalendar : t.InCalendar) : ∃ s rest,
    ElementStream.locate "results" policy input = .ok s rest ∧
    ∀ answers : Answers, answers.submitted = .ok r → answers.fetched = .ok s →
      let o := (c.executeQuery i sql params).settle answers
      ∃ id, o.result = .ok id ∧ (o.connection.cursor id).Shows t := by
  obtain ⟨columns, s, rest, -, names, hlocate, hcursor⟩ := at_executeQuery sent shallow announced
    isBody brings policy connected opened unlimited sql params
  refine ⟨s, rest, hlocate, fun answers submitted fetched => ?_⟩
  obtain ⟨id, hresult, hat⟩ := hcursor answers submitted fetched
  rw [Table.map_decode sent names inCalendar] at hat
  exact ⟨id, hresult, Cursor.shows_of_at names sent hat⟩

end executeQuery

/-! ### Nulls, brackets in texts and leap seconds -/

/-- The answer to a query for the given columns. -/
def announce (names types : List String) : QueryResponse :=
  ⟨some .success, some ⟨some .query, [], false⟩, some ⟨names, types⟩, none, [], [], []⟩

/-- The body of a result with the given rows, behind another member. -/
def resultBody (forms : List Json) : Json :=
  .object [("handle", .string "\"results\":[]"), ("results", .array forms)]

def resultInput (forms : List Json) : Input := .ofRefills [.bytes (resultBody forms).bytes]

theorem brings_resultInput (forms : List Json) :
    (resultInput forms).Brings (resultBody forms).bytes :=
  Input.brings_ofRefills (List.append_nil _)

theorem isBody_resultBody {t : Table} {forms : List Json} (sent : t.encode = .ok forms) :
    Table.IsBody forms (resultBody forms).bytes := by
  have integral : Json.IntegralItems forms := (Json.printable_array (Table.printable_forms sent)).2
  exact ⟨_, ("results", Json.bytes (.array forms)),
    Json.objectText_bytes ⟨trivial, integral, trivial⟩, rfl, Json.arrayText_bytes integral⟩

/-- A service that answers with the given response and then with the given rows. -/
def tableService (r : QueryResponse) (s : ElementStream) : Answers :=
  { rowService with submitted := .ok r, fetched := .ok s }

def ledger : Table where
  names := ["n", "note]"]
  rows := [[.tinyInt 7, .string "\x7d],\"[\x7b"],
    [.null, .datetime Tagged.earlyLeapSecond]]
  nonempty := by decide
  distinct := by decide
  rectangular := by decide

theorem executeQuery_ledger :
    let c := (create .standard none).run [(.createStatement, rowService)]
    let r := announce ledger.names ["int8", "any"]
    ∃ forms s rest, ledger.encode = .ok forms ∧
      ElementStream.locate "results" .never (resultInput forms) = .ok s rest ∧
      let o := (c.executeQuery 0 "SELECT * FROM ledger" []).settle (tableService r s)
      ∃ id, o.result = .ok id ∧
        let second := (o.connection.cursor id).afterUses [.next, .isFirst, .next]
        (second.get .value (.name "n")).1 = .ok none ∧
        (second.get .value (.position 2)).1 = .ok (some (.value
          (.datetime ⟨⟨0, by decide, by decide⟩, ⟨0, 0, by decide, by decide⟩⟩))) ∧
        second.next.1 = .ok false := by
  intro c r
  obtain ⟨forms, sent, shallow⟩ : ∃ forms, ledger.encode = .ok forms ∧
      ∀ form ∈ forms, form.nesting ≤ Json.depthLimit := ⟨_, rfl, by decide⟩
  have announced : ledger.AnnouncedBy r :=
    ⟨by decide, by decide, ["int8", "any"], rfl, rfl, by decide⟩
  have inCalendar : ledger.InCalendar := by
    refine List.forall_mem_cons.mpr ⟨?_, List.forall_mem_cons.mpr ⟨?_, ?_⟩⟩
    · exact List.forall_mem_cons.mpr ⟨trivial, List.forall_mem_cons.mpr ⟨trivial, nofun⟩⟩
    · refine List.forall_mem_cons.mpr ⟨trivial, List.forall_mem_cons.mpr ⟨?_, nofun⟩⟩
      show ¬Datetime.isBeyond _
      decide
    · exact nofun
  obtain ⟨s, rest, hlocate, hquery⟩ := executeQuery_shows sent shallow announced
    (isBody_resultBody sent) (brings_resultInput forms) .never (c := c) (i := 0) rfl rfl rfl
    "SELECT * FROM ledger" [] inCalendar
  obtain ⟨id, hresult, hshows⟩ := hquery (tableService r s) rfl rfl
  have found := hshows.found [.next, .isFirst, .next] 1 _ rfl rfl
  refine ⟨forms, s, rest, sent, hlocate, id, hresult, (found 0 _ _ rfl rfl).2,
    (found 1 _ _ rfl rfl).1, (hshows.stands [.next, .isFirst, .next]).next⟩

def lastLeapSecond : Table where
  names := ["at"]
  rows := [[.datetime
    ⟨⟨95026236, by decide, by decide⟩, ⟨86399, 1500000000, Nat.lt_add_one 86399, by decide⟩⟩]]
  nonempty := by decide
  distinct := by decide
  rectangular := by decide

/-- A date-time beyond the calendar is sent, and yet no row is made of it again. -/
theorem executeQuery_lastLeapSecond :
    let c := (create .standard none).run [(.createStatement, rowService)]
    let r := announce lastLeapSecond.names ["datetime"]
    ∃ forms s rest, lastLeapSecond.encode = .ok forms ∧
      (∀ form ∈ forms, form.nesting ≤ Json.depthLimit) ∧
      lastLeapSecond.AnnouncedBy r ∧ Table.IsBody forms (resultBody forms).bytes ∧
      ElementStream.locate "results" .never (resultInput forms) = .ok s rest ∧
      let o := (c.executeQuery 0 "SELECT * FROM seconds" []).settle (tableService r s)
      ∃ id, o.result = .ok id ∧
        (o.connection.cursor id).next.1 =
          .error (.protocol "malformed tagged value '10:8210266876800500'") ∧
        ¬(o.connection.cursor id).Shows lastLeapSecond := by
  intro c r
  obtain ⟨forms, sent, shallow⟩ : ∃ forms, lastLeapSecond.encode = .ok forms ∧
      ∀ form ∈ forms, form.nesting ≤ Json.depthLimit := ⟨_, rfl, by decide⟩
  have announced : lastLeapSecond.AnnouncedBy r :=
    ⟨by decide, by decide, ["datetime"], rfl, rfl, by decide⟩
  obtain ⟨columns, s, rest, hcolumns, -, hlocate, hquery⟩ := at_executeQuery sent shallow announced
    (isBody_resultBody sent) (brings_resultInput forms) .never (c := c) (i := 0) rfl rfl rfl
    "SELECT * FROM seconds" []
  obtain ⟨id, hresult, hat⟩ := hquery (tableService r s) rfl rfl
  have outcomes : forms.map (Row.decode columns) =
      [.error (.protocol "malformed tagged value '10:8210266876800500'")] := by
    obtain rfl : [_] = forms := Except.ok.inj sent
    obtain rfl : [_] = columns := Except.ok.inj hcolumns
    rfl
  rw [outcomes] at hat
  have hnext := (hat.next_of_eq rfl).2.1
  refine ⟨forms, s, rest, sent, shallow, announced, isBody_resultBody sent, hlocate, id, hresult,
    hnext, fun hshows => ?_⟩
  exact nomatch hnext.symm.trans (hshows.stands []).next

end Connection

end QueryClient
