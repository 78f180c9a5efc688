import QueryClient.Proofs.Connection.Token

/-!
# Responses and the cursors made of them

The response to a query is made a cursor of at once or, if it was left behind as pending, when it is
asked for. Either way it is used up: its rows are fetched once at most. `Account` is what one
operation may do with responses, pending ones and cursors, and `account` says that there is nothing
else.
-/

namespace QueryClient

/-- The response that a call fetches the rows of. -/
def Call.fetched? : Call → Option QueryResponse
  | .fetch response => some response
  | _ => none

/-- A plan is at hand, and the rows of a result are fetched. -/
theorem QueryResponse.opening_cases {r : QueryResponse} {opening : Opening}
    (h : r.opening = .ok opening) : ∃ columns, r.columns = .ok columns ∧
      ((r.isExplainOnly = true ∧ ∃ rows, opening = .memory columns rows) ∨
        (r.isExplainOnly = false ∧ opening = .fetch columns)) := by
  unfold QueryResponse.opening at h
  cases hc : r.columns with
  | error e =>
    rw [hc] at h
    cases h
  | ok columns =>
    rw [hc] at h
    cases he : r.isExplainOnly with
    | true =>
      simp only [he, bind, Except.bind, if_true] at h
      cases hl : r.explainLines with
      | error e =>
        rw [hl] at h
        cases h
      | ok lines =>
        rw [hl] at h
        cases h
        exact ⟨columns, rfl, Or.inl ⟨rfl, _, rfl⟩⟩
    | false =>
      simp only [he, bind, Except.bind, Bool.false_eq_true, if_false] at h
      cases h
      exact ⟨columns, rfl, Or.inr ⟨rfl, rfl⟩⟩

theorem QueryResponse.opening_eq_fetch_iff {r : QueryResponse} {columns : List Column} :
    r.opening = .ok (.fetch columns) ↔ r.isExplainOnly = false ∧ r.columns = .ok columns := by
  constructor
  · intro h
    obtain ⟨columns', hcolumns, ⟨-, rows, same⟩ | ⟨noPlan, same⟩⟩ := opening_cases h
    · cases same
    · cases same
      exact ⟨noPlan, hcolumns⟩
  · rintro ⟨noPlan, hcolumns⟩
    rw [opening, hcolumns]
    simp only [bind, Except.bind, noPlan, Bool.false_eq_true, if_false]
    rfl

theorem QueryResponse.columns_of_opening_eq_memory {r : QueryResponse} {columns : List Column}
    {rows : List Row} (h : r.opening = .ok (.memory columns rows)) : r.columns = .ok columns := by
  obtain ⟨columns', hcolumns, ⟨-, rows', same⟩ | ⟨-, same⟩⟩ := opening_cases h
  · cases same
    exact hcolumns
  · cases same

namespace Connection

/-! ## What a step does with responses and cursors -/

/-- The responses whose rows a step fetches. -/
def fetches (c : Connection) (step : Operation × Answers) : List QueryResponse :=
  (c.perform step.2 step.1).1.filterMap Call.fetched?

/-- What an operation leaves pending of the response to its execution, if it records it at all. -/
def recordOf : Operation → QueryResponse → Option (Option QueryResponse)
  | .executeQuery _, r => if r.isQuery then some none else none
  | .executeUpdate _, r => if r.isQuery then none else some none
  | .execute _, r => some (if r.isQuery then some r else none)
  | _, _ => none

/-- What a step leaves pending if it records an execution of statement `i`. -/
def records (i : Nat) (c : Connection) (step : Operation × Answers) :
    Option (Option QueryResponse) :=
  if c.executes step.1 = some i then step.2.submitted.toOption.bind (recordOf step.1) else none

/-- The cursor that a step hands out. -/
def handsOut (c : Connection) : Operation × Answers → Option CursorId
  | (.executeQuery what, answers) => ((what.run c c.executeQuery).settle answers).result.toOption
  | (.resultCursor i, answers) => ((c.resultCursor i).settle answers).result.toOption.join
  | (.generatedKeys i, _) => (c.generatedKeys i).1.toOption
  | (.typeInfo, _) => c.typeInfo.1.toOption
  | (.emptyResult columns, _) => (c.emptyResult columns).1.toOption
  | _ => none

/-! ## Cursors that come -/

section Looks

variable {c d : Connection}

theorem isFed_eq (h : ∀ j, (d.statement j).cursors = (c.statement j).cursors) :
    d.isFed = c.isFed := by
  funext id
  unfold isFed Statement.isFed
  rw [h]

theorem cursor_eq (h : ∀ j, (d.statement j).cursors = (c.statement j).cursors) (id : CursorId) :
    d.cursor id = c.cursor id := by
  unfold cursor
  rw [h]

theorem cursors_endExecution (c : Connection) (i j : Nat) :
    ((c.endExecution i).statement j).cursors = (c.statement j).cursors :=
  apply_modifyStatement Statement.cursors c.drawToken.2 i
    (fun s => { s with token := c.nextToken }) (fun _ => rfl) j

theorem still_endExecution (c : Connection) (i : Nat) : Still c (c.endExecution i) := by
  have drawn : Still c c.drawToken.2 := still_of_statements_eq rfl
  exact drawn.trans (still_putStatement rfl (Statement.keeps_of_eq rfl rfl))

theorem cursors_setCurrent (c : Connection) (id : CursorId) (j : Nat) :
    ((c.setCurrent id).statement j).cursors = (c.statement j).cursors :=
  apply_modifyStatement Statement.cursors c id.statement
    (fun s => { s with current := some id.cursor }) (fun _ => rfl) j

end Looks

theorem isFed_of_length_le {c : Connection} {id : CursorId}
    (h : (c.statement id.statement).cursors.length ≤ id.cursor) : c.isFed id = false := by
  unfold isFed Statement.isFed
  rw [List.getElem?_eq_none h]
  rfl

/-- The cursor that a statement gets. -/
theorem cursor_register {c : Connection} {i : Nat} (hi : i < c.statements.length)
    (columns : List Column) (source : RowSource) (maxRows : Nat) :
    (c.putStatement i ((c.statement i).register columns source maxRows).2).cursor
      ⟨i, (c.statement i).cursors.length⟩ = Cursor.create columns source maxRows := by
  rw [cursor, statement_putStatement hi, Statement.cursors_register, List.getElem?_concat_length]
  rfl

theorem fst_memoryCursor (c : Connection) (i : Nat) (columns : List Column) (rows : List Row) :
    (c.memoryCursor i columns rows).1 = ⟨i, (c.statement i).cursors.length⟩ := by
  simp only [memoryCursor, withStatement, Statement.memoryCursor, Statement.register_fst]

/-- A cursor whose rows are at hand is not fed by the service. -/
theorem isFed_memoryCursor (c : Connection) (i : Nat) (columns : List Column) (rows : List Row) :
    (c.memoryCursor i columns rows).2.isFed (c.memoryCursor i columns rows).1 = false := by
  rw [(frame_memoryCursor c i columns rows).isFed, fst_memoryCursor]
  exact isFed_of_length_le (Nat.le_refl _)

/-- A cursor has come that is fed by the service. -/
structure Gains (c d : Connection) (id : CursorId) (columns : List Column)
    (elements : ElementStream) : Prop where
  cursor : d.cursor id =
    Cursor.create columns (.stream elements) (c.statement id.statement).maxRows
  isFed : ∀ other, d.isFed other = true ↔ c.isFed other = true ∨ other = id
  new : c.isFed id = false

theorem Gains.trans {c d e : Connection} {id : CursorId} {columns : List Column}
    {elements : ElementStream} (h : Gains c d id columns elements)
    (cursors : ∀ j, (e.statement j).cursors = (d.statement j).cursors) :
    Gains c e id columns elements where
  cursor := (cursor_eq cursors id).trans h.cursor
  isFed := by
    rw [isFed_eq cursors]
    exact h.isFed
  new := h.new

theorem gains_openNetworkCursor {c : Connection} {i : Nat} (hi : i < c.statements.length)
    (columns : List Column) (elements : ElementStream) :
    let id : CursorId := ⟨i, (c.statement i).cursors.length⟩
    (c.openNetworkCursor i columns (.ok elements)).1 = .ok id ∧
      Gains c (c.openNetworkCursor i columns (.ok elements)).2 id columns elements := by
  intro id
  let s := ((c.statement i).register columns (.stream elements) (c.statement i).maxRows).2
  have opened : (c.openNetworkCursor i columns (.ok elements)).2 = c.putStatement i s := rfl
  refine ⟨?_, ?_⟩
  · simp only [openNetworkCursor, withStatement, Statement.register_fst]
    rfl
  rw [opened]
  refine ⟨?_, ?_, isFed_of_length_le (Nat.le_refl _)⟩
  · exact cursor_register hi columns (.stream elements) _
  · rintro ⟨j, k⟩
    show ((c.putStatement i s).statement j).isFed k = true ↔ (c.statement j).isFed k = true ∨ _
    by_cases hij : i = j
    · subst hij
      rw [statement_putStatement hi, Statement.isFed_register]
      simp [RowSource.ownsNetwork, id]
    · rw [statement_putStatement_of_ne hij]
      refine (or_iff_left ?_).symm
      intro same
      exact hij (congrArg CursorId.statement same).symm

/-! ## Pending responses that stay -/

/-- The same statements are open, with the same pending responses. -/
structure SamePending (c d : Connection) : Prop where
  length : d.statements.length = c.statements.length
  closed : ∀ j, (d.statement j).closed = (c.statement j).closed
  pending : ∀ j, (d.statement j).pending = (c.statement j).pending

theorem samePending_putStatement {c : Connection} {i : Nat} {s : Statement}
    (closed : s.closed = (c.statement i).closed) (pending : s.pending = (c.statement i).pending) :
    SamePending c (c.putStatement i s) where
  length := c.length_putStatement i s
  closed := apply_putStatement Statement.closed closed
  pending := apply_putStatement Statement.pending pending

theorem samePending_endExecution (c : Connection) (i : Nat) : SamePending c (c.endExecution i) :=
  have drawn : SamePending c.drawToken.2 (c.endExecution i) := samePending_putStatement rfl rfl
  ⟨drawn.length, drawn.closed, drawn.pending⟩

theorem samePending_setCurrent (c : Connection) (id : CursorId) : SamePending c (c.setCurrent id) :=
  samePending_putStatement rfl rfl

theorem samePending_register (c : Connection) (i : Nat) (columns : List Column) (source : RowSource)
    (maxRows : Nat) :
    SamePending c (c.putStatement i ((c.statement i).register columns source maxRows).2) :=
  samePending_putStatement ((c.statement i).closed_register columns source maxRows)
    ((c.statement i).register_eq columns source maxRows).2.2

theorem samePending_memoryCursor (c : Connection) (i : Nat) (columns : List Column)
    (rows : List Row) : SamePending c (c.memoryCursor i columns rows).2 :=
  samePending_register c i columns (.memory rows) 0

theorem samePending_openNetworkCursor (c : Connection) (i : Nat) (columns : List Column)
    (fetched : Result ElementStream) : SamePending c (c.openNetworkCursor i columns fetched).2 := by
  cases fetched with
  | error e => exact ⟨rfl, fun _ => rfl, fun _ => rfl⟩
  | ok elements => exact samePending_register c i columns (.stream elements) _

/-! ## The account of one operation -/

/-- Statement `i` is left with a pending response, or with none; all others keep theirs. -/
structure Leaves (i : Nat) (p : Option QueryResponse) (c d : Connection) : Prop where
  length : d.statements.length = c.statements.length
  closed : ∀ j, (d.statement j).closed = (c.statement j).closed
  own : (d.statement i).pending = p
  others : ∀ j, j ≠ i → (d.statement j).pending = (c.statement j).pending

/-- The rows of a response have been asked for, to hand out a cursor over them. -/
structure Received (i : Nat) (r : QueryResponse) (fetched : Result ElementStream)
    (handed : Option CursorId) (c d : Connection) : Prop where
  noPlan : r.isExplainOnly = false
  failed : ∀ e, fetched = .error e → handed = none ∧ d.isFed = c.isFed
  opened : ∀ elements, fetched = .ok elements → ∃ id columns, handed = some id ∧
    id.statement = i ∧ r.columns = .ok columns ∧
      d.cursor id = Cursor.create columns (.stream elements) (c.statement i).maxRows ∧
      c.isFed id = false ∧ ∀ other, d.isFed other = true ↔ c.isFed other = true ∨ other = id

/-- What an operation that leads to another connection may do with responses and cursors. -/
inductive Account (c : Connection) (op : Operation) (answers : Answers) (d : Connection) :
    Prop where
  /-- Nothing is recorded and nothing is taken. -/
  | quiet (fetches : c.fetches (op, answers) = [])
      (records : ∀ j, records j c (op, answers) = none) (still : Still c d)
      (unfed : ∀ id, c.handsOut (op, answers) = some id → d.isFed id = false)
      (untaken : ∀ i, op = .resultCursor i → c.handsOut (op, answers) = none)
  /-- An execution is recorded, and no rows are fetched. -/
  | recorded (i : Nat) (p : Option QueryResponse) (fetches : c.fetches (op, answers) = [])
      (executes : c.executes op = some i)
      (records : ∀ j, records j c (op, answers) = if i = j then some p else none)
      (isFed : d.isFed = c.isFed) (leaves : Leaves i p c d)
      (unfed : ∀ id, c.handsOut (op, answers) = some id → d.isFed id = false)
  /-- A query is recorded, and its rows are fetched. -/
  | queried (what : Executable) (i : Nat) (r : QueryResponse) (asked : op = .executeQuery what)
      (executes : c.executes op = some i) (submitted : answers.submitted = .ok r)
      (isQuery : r.isQuery = true) (fetches : c.fetches (op, answers) = [r])
      (records : ∀ j, records j c (op, answers) = if i = j then some none else none)
      (leaves : Leaves i none c d)
      (received : Received i r answers.fetched (c.handsOut (op, answers)) c d)
  /-- A pending response is taken, and its rows are at hand or cannot be had. -/
  | taken (i : Nat) (r : QueryResponse) (asked : op = .resultCursor i)
      (pending : (c.statement i).pending = some r) (fetches : c.fetches (op, answers) = [])
      (isFed : d.isFed = c.isFed) (leaves : Leaves i none c d)
      (handed : ∀ id, c.handsOut (op, answers) = some id → d.isFed id = false ∧
        id.statement = i ∧ r.columns = .ok (d.cursor id).columns)
  /-- A pending response is taken, and its rows are fetched. -/
  | received (i : Nat) (r : QueryResponse) (asked : op = .resultCursor i)
      (pending : (c.statement i).pending = some r) (fetches : c.fetches (op, answers) = [r])
      (leaves : Leaves i none c d)
      (received : Received i r answers.fetched (c.handsOut (op, answers)) c d)

theorem Leaves.trans {c d e : Connection} {i : Nat} {p : Option QueryResponse}
    (h : Leaves i p c d) (same : SamePending d e) : Leaves i p c e where
  length := same.length.trans h.length
  closed := fun j => (same.closed j).trans (h.closed j)
  own := (same.pending i).trans h.own
  others := fun j hj => (same.pending j).trans (h.others j hj)

/-- Giving a statement that is there another pending response changes nothing else. -/
theorem leaves_modifyStatement {c : Connection} {i : Nat} (hi : i < c.statements.length)
    {f : Statement → Statement} {p : Option QueryResponse} (closed : ∀ s, (f s).closed = s.closed)
    (pending : ∀ s, (f s).pending = p) : Leaves i p c (c.modifyStatement i f) where
  length := c.length_putStatement i _
  closed := apply_modifyStatement Statement.closed c i f closed
  own := by
    rw [statement_modifyStatement hi]
    exact pending _
  others := by
    intro j hj
    rw [modifyStatement, statement_putStatement_of_ne hj.symm]

/-! ### Executions -/

theorem records_of_executes_eq_none {c : Connection} {op : Operation} (h : c.executes op = none)
    (answers : Answers) (j : Nat) : records j c (op, answers) = none := by
  rw [records, h]
  exact if_neg nofun

theorem records_eq_none {c : Connection} {op : Operation} {answers : Answers}
    (h : ∀ r, answers.submitted = .ok r → recordOf op r = none) (j : Nat) :
    records j c (op, answers) = none := by
  unfold records
  split
  · cases hanswer : answers.submitted with
    | error e => rfl
    | ok r => exact h r hanswer
  · rfl

theorem records_of_recordOf {op : Operation} (h : ∀ r, recordOf op r = none) (c : Connection)
    (answers : Answers) (j : Nat) : records j c (op, answers) = none :=
  records_eq_none (fun r _ => h r) j

theorem records_of_failed {c : Connection} {op : Operation} {answers : Answers} {e : ClientError}
    (h : answers.submitted = .error e) (j : Nat) : records j c (op, answers) = none := by
  refine records_eq_none ?_ j
  intro r answered
  rw [h] at answered
  cases answered

theorem records_of_unrecorded {c : Connection} {op : Operation} {answers : Answers}
    {r : QueryResponse} (answered : answers.submitted = .ok r) (left : recordOf op r = none)
    (j : Nat) : records j c (op, answers) = none := by
  refine records_eq_none ?_ j
  intro r' answered'
  cases answered.symm.trans answered'
  exact left

theorem records_of_answered {c : Connection} {op : Operation} {i : Nat} {answers : Answers}
    {r : QueryResponse} {p : Option (Option QueryResponse)} (executes : c.executes op = some i)
    (answered : answers.submitted = .ok r) (left : recordOf op r = p) (j : Nat) :
    records j c (op, answers) = if i = j then p else none := by
  rw [records, executes, answered]
  simp only [Option.some.injEq]
  exact congrArg (fun p => if i = j then p else none) left

theorem leaves_recordOutcome {c : Connection} {i : Nat} (hi : i < c.statements.length)
    (r : QueryResponse) (updateCount : Option Int) (p : Option QueryResponse) :
    Leaves i p c (c.modifyStatement i fun s => s.recordOutcome r updateCount p) :=
  leaves_modifyStatement hi (fun _ => rfl) fun _ => rfl

theorem isFed_recordOutcome (c : Connection) (i : Nat) (r : QueryResponse)
    (updateCount : Option Int) (p : Option QueryResponse) :
    (c.modifyStatement i fun s => s.recordOutcome r updateCount p).isFed = c.isFed :=
  isFed_eq (apply_modifyStatement Statement.cursors c i
    (fun s => s.recordOutcome r updateCount p) fun _ => rfl)

/-- Nothing has come of an operation that could be of interest. -/
theorem account_of_still {c d : Connection} {op : Operation} {answers : Answers} (still : Still c d)
    (fetches : c.fetches (op, answers) = []) (records : ∀ j, records j c (op, answers) = none)
    (handsOut : c.handsOut (op, answers) = none) : Account c op answers d :=
  .quiet fetches records still (fun id hid => by rw [handsOut] at hid; cases hid)
    fun _ _ => handsOut

/-- An execution is recorded and ends. -/
theorem account_recordOutcome {c : Connection} {op : Operation} {answers : Answers} {i : Nat}
    {r : QueryResponse} {p : Option QueryResponse} (executes : c.executes op = some i)
    (hi : i < c.statements.length) (answered : answers.submitted = .ok r)
    (left : recordOf op r = some p) (fetches : c.fetches (op, answers) = [])
    (handsOut : c.handsOut (op, answers) = none) (updateCount : Option Int) :
    Account c op answers
      ((c.modifyStatement i fun s => s.recordOutcome r updateCount p).endExecution i) := by
  have still := still_endExecution
    (c.modifyStatement i fun s => s.recordOutcome r updateCount p) i
  refine .recorded i p fetches executes (records_of_answered executes answered left) ?_ ?_ ?_
  · exact still.isFed.trans (isFed_recordOutcome c i r updateCount p)
  · exact (leaves_recordOutcome hi r updateCount p).trans (samePending_endExecution _ i)
  · intro id hid
    rw [handsOut] at hid
    cases hid

theorem account_answerUpdate {c : Connection} {what : Executable} {answers : Answers} {i : Nat}
    (executes : c.executes (.executeUpdate what) = some i) (hi : i < c.statements.length)
    (fetches : c.fetches (.executeUpdate what, answers) = []) :
    Account c (.executeUpdate what) answers (c.answerUpdate i answers.submitted).2 := by
  have ended := still_endExecution c i
  cases hanswer : answers.submitted with
  | error e => exact account_of_still ended fetches (records_of_failed hanswer) rfl
  | ok r =>
    unfold answerUpdate
    simp only
    split
    · next hr =>
      -- A query is refused before it is recorded.
      exact account_of_still ended fetches (records_of_unrecorded hanswer (if_pos hr)) rfl
    · next hr =>
      exact account_recordOutcome executes hi hanswer (if_neg hr) fetches rfl _

theorem account_answerAny {c : Connection} {what : Executable} {answers : Answers} {i : Nat}
    (executes : c.executes (.execute what) = some i) (hi : i < c.statements.length)
    (fetches : c.fetches (.execute what, answers) = []) :
    Account c (.execute what) answers (c.answerAny i answers.submitted).2 := by
  have recorded {r : QueryResponse} {p : Option QueryResponse}
      (answered : answers.submitted = .ok r) (left : (if r.isQuery then some r else none) = p) :=
    account_recordOutcome executes hi answered (congrArg some left) fetches rfl
  cases hanswer : answers.submitted with
  | error e =>
    exact account_of_still (still_endExecution c i) fetches (records_of_failed hanswer) rfl
  | ok r =>
    unfold answerAny
    simp only
    split
    · next hr => exact recorded hanswer (if_pos hr) none
    · next hr => exact recorded hanswer (if_neg hr) _

/-! ### Cursors over fetched rows -/

/-- The rows of a response are asked for on a connection whose cursors are still those of `c`. -/
theorem received_openNetworkCursor {c before after : Connection} {i : Nat} {r : QueryResponse}
    {columns : List Column} {fetched : Result ElementStream} {handed : Option CursorId}
    (opening : r.opening = .ok (.fetch columns)) (hi : i < before.statements.length)
    (isFed : before.isFed = c.isFed)
    (maxRows : (before.statement i).maxRows = (c.statement i).maxRows)
    (handsOut : handed = (before.openNetworkCursor i columns fetched).1.toOption)
    (cursors : ∀ j, (after.statement j).cursors =
      ((before.openNetworkCursor i columns fetched).2.statement j).cursors) :
    Received i r fetched handed c after := by
  obtain ⟨noPlan, hcolumns⟩ := QueryResponse.opening_eq_fetch_iff.mp opening
  refine ⟨noPlan, ?_, ?_⟩
  · rintro e rfl
    exact ⟨handsOut, (isFed_eq cursors).trans isFed⟩
  · rintro elements rfl
    obtain ⟨given, opened⟩ := gains_openNetworkCursor hi columns elements
    have gains := opened.trans cursors
    have hfed := gains.isFed
    have hnew := gains.new
    rw [isFed] at hfed hnew
    rw [given] at handsOut
    exact ⟨_, columns, handsOut, rfl, hcolumns, maxRows ▸ gains.cursor, hnew, hfed⟩

/-- A recorded query is over, or its rows are fetched. -/
theorem account_queryAnswered {c : Connection} {what : Executable} {answers : Answers} {i : Nat}
    (executes : c.executes (.executeQuery what) = some i) (hi : i < c.statements.length)
    (fetches : c.fetches (.executeQuery what, answers) =
      ((c.queryAnswered i answers.submitted).settle answers).calls.filterMap Call.fetched?)
    (handsOut : c.handsOut (.executeQuery what, answers) =
      ((c.queryAnswered i answers.submitted).settle answers).result.toOption) :
    Account c (.executeQuery what) answers
      ((c.queryAnswered i answers.submitted).settle answers).connection := by
  unfold queryAnswered answerQuery at *
  cases hanswer : answers.submitted with
  | error e =>
    rw [hanswer] at fetches handsOut
    exact account_of_still (still_endExecution c i) fetches (records_of_failed hanswer)
      handsOut
  | ok r =>
    rw [hanswer] at fetches handsOut
    by_cases hr : r.isQuery = true
    · simp only [hr, if_true] at fetches handsOut ⊢
      have records := records_of_answered executes hanswer (if_pos hr)
      have created : i < (c.modifyStatement i fun s =>
          s.recordOutcome r none none).statements.length := by
        rw [modifyStatement, length_putStatement]
        exact hi
      have isFed := isFed_recordOutcome c i r none none
      have leaves := leaves_recordOutcome hi r none none
      -- The query is recorded before its rows are asked for, and stays so if there are none.
      cases hopening : r.opening with
      | error e =>
        rw [hopening] at fetches handsOut
        exact account_recordOutcome executes hi hanswer (if_pos hr) fetches handsOut none
      | ok opening =>
        cases opening with
        | memory columns rows =>
          rw [hopening] at fetches handsOut
          have still := still_endExecution
            ((c.modifyStatement i fun s => s.recordOutcome r none none).memoryCursor i columns
              rows).2 i
          refine .recorded i none fetches executes records
            ((still.isFed.trans (frame_memoryCursor _ i columns rows).isFed).trans isFed)
            ((leaves.trans (samePending_memoryCursor _ i columns rows)).trans
              (samePending_endExecution _ i)) ?_
          intro id hid
          rw [handsOut] at hid
          cases hid
          show ((memoryCursor _ i columns rows).2.endExecution i).isFed _ = false
          rw [still.isFed]
          exact isFed_memoryCursor _ i columns rows
        | fetch columns =>
          rw [hopening] at fetches handsOut
          refine .queried what i r rfl executes hanswer hr fetches records
            ((leaves.trans (samePending_openNetworkCursor _ i columns answers.fetched)).trans
              (samePending_endExecution _ i)) ?_
          exact received_openNetworkCursor hopening created isFed
            (apply_modifyStatement Statement.maxRows c i (fun s => s.recordOutcome r none none)
              (fun _ => rfl) i) handsOut (cursors_endExecution _ i)
    · simp only [hr] at fetches handsOut ⊢
      exact account_of_still (still_endExecution c i) fetches
        (records_of_unrecorded hanswer (if_neg hr)) handsOut

/-- What is executed is refused, or all comes of the answer to its submission. -/
theorem account_of_runs {α : Type} {c : Connection} {op : Operation} {answers : Answers}
    {d : Dialogue α} {next : Nat → Connection → Result QueryResponse → Dialogue α}
    (handed : Result α → Option CursorId) (runs : Runs c op d next)
    (after : c.after (op, answers) = (d.settle answers).connection)
    (fetches : c.fetches (op, answers) = (d.settle answers).calls.filterMap Call.fetched?)
    (handsOut : c.handsOut (op, answers) = handed (d.settle answers).result)
    (refusal : ∀ e, handed (.error e) = none)
    (answered : ∀ i, c.executes op = some i → i < c.statements.length →
      let outcome := (next i c answers.submitted).settle answers
      c.fetches (op, answers) = outcome.calls.filterMap Call.fetched? →
        c.handsOut (op, answers) = handed outcome.result →
          Account c op answers outcome.connection) :
    Account c op answers (c.after (op, answers)) := by
  rw [after]
  cases runs with
  | refused e submits dialogue =>
    have executes : c.executes op = none := by rw [executes, submits]; rfl
    rw [dialogue] at fetches handsOut ⊢
    exact account_of_still (.refl c) fetches (records_of_executes_eq_none executes answers)
      (handsOut.trans (refusal e))
  | submitted submission i submits executes there token dialogue =>
    rw [dialogue] at fetches handsOut ⊢
    exact answered i executes there fetches handsOut

theorem account_executeQuery (c : Connection) (what : Executable) (answers : Answers) :
    Account c (.executeQuery what) answers (c.after (.executeQuery what, answers)) := by
  refine account_of_runs Except.toOption (c.runs_executeQuery what) rfl rfl rfl
    (fun _ => rfl) ?_
  intro i executes there outcome fetches handsOut
  exact account_queryAnswered executes there fetches handsOut

theorem account_executeUpdate (c : Connection) (what : Executable) (answers : Answers) :
    Account c (.executeUpdate what) answers (c.after (.executeUpdate what, answers)) := by
  refine account_of_runs (fun _ => none) (c.runs_executeUpdate what) rfl rfl rfl
    (fun _ => rfl) ?_
  intro i executes there outcome fetches _
  exact account_answerUpdate executes there fetches

theorem account_execute (c : Connection) (what : Executable) (answers : Answers) :
    Account c (.execute what) answers (c.after (.execute what, answers)) := by
  refine account_of_runs (fun _ => none) (c.runs_execute what) rfl rfl rfl
    (fun _ => rfl) ?_
  intro i executes there outcome fetches _
  exact account_answerAny executes there fetches

/-! ### Pending responses -/

/-- Making a cursor of a pending response is making a cursor, which is then noted. -/
theorem finishResult_eq (c : Connection) (i : Nat) (columns : List Column)
    (fetched : Result ElementStream) :
    (∀ j, ((c.finishResult i columns fetched).2.statement j).cursors =
      ((c.openNetworkCursor i columns fetched).2.statement j).cursors) ∧
    SamePending (c.openNetworkCursor i columns fetched).2 (c.finishResult i columns fetched).2 ∧
    (c.finishResult i columns fetched).1.toOption.join =
      (c.openNetworkCursor i columns fetched).1.toOption := by
  cases fetched with
  | error e => exact ⟨fun _ => rfl, ⟨rfl, fun _ => rfl, fun _ => rfl⟩, rfl⟩
  | ok elements => exact ⟨cursors_setCurrent _ _, samePending_setCurrent _ _, rfl⟩

theorem account_resultCursor (c : Connection) (i : Nat) (answers : Answers) :
    Account c (.resultCursor i) answers (c.after (.resultCursor i, answers)) := by
  have executes : c.executes (.resultCursor i) = none := rfl
  have fetches : c.fetches (.resultCursor i, answers) =
    ((c.resultCursor i).settle answers).calls.filterMap Call.fetched? := rfl
  have handsOut : c.handsOut (.resultCursor i, answers) =
    ((c.resultCursor i).settle answers).result.toOption.join := rfl
  show Account c _ answers ((c.resultCursor i).settle answers).connection
  unfold resultCursor takeResult at *
  simp only at *
  by_cases hclosed : (c.statement i).closed = true
  · simp only [hclosed, if_true] at fetches handsOut ⊢
    exact account_of_still (.refl c) fetches (records_of_executes_eq_none executes answers) handsOut
  simp only [hclosed] at fetches handsOut ⊢
  have hi := lt_of_open (Bool.eq_false_iff.mpr hclosed)
  cases hpending : (c.statement i).pending with
  | none =>
    rw [hpending] at fetches handsOut
    exact account_of_still (.refl c) fetches (records_of_executes_eq_none executes answers) handsOut
  | some r =>
    rw [hpending] at fetches handsOut
    -- The response is taken before anything else is tried, so it is gone even if no cursor comes.
    have leaves : Leaves i none c (c.modifyStatement i fun s => { s with pending := none }) :=
      leaves_modifyStatement hi (fun _ => rfl) fun _ => rfl
    have isFed := isFed_eq (apply_modifyStatement Statement.cursors c i
      (fun s => { s with pending := none }) fun _ => rfl)
    have created : i <
        (c.modifyStatement i fun s => { s with pending := none }).statements.length := by
      rw [modifyStatement, length_putStatement]
      exact hi
    simp only at fetches handsOut ⊢
    cases hopening : r.opening with
    | error e =>
      rw [hopening] at fetches handsOut
      refine .taken i r rfl hpending fetches isFed leaves ?_
      intro id hid
      rw [handsOut] at hid
      cases hid
    | ok opening =>
      cases opening with
      | memory columns rows =>
        rw [hopening] at fetches handsOut
        have noted := cursors_setCurrent ((c.modifyStatement i fun s =>
          { s with pending := none }).memoryCursor i columns rows).2
        refine .taken i r rfl hpending fetches
          ((isFed_eq (noted _)).trans ((frame_memoryCursor _ i columns rows).isFed.trans isFed))
          ((leaves.trans (samePending_memoryCursor _ i columns rows)).trans
            (samePending_setCurrent _ _)) ?_
        intro id hid
        rw [handsOut] at hid
        cases hid
        refine ⟨?_, ?_, ?_⟩
        · show (setCurrent _ _).isFed _ = false
          rw [isFed_eq (noted _)]
          exact isFed_memoryCursor _ i columns rows
        · rw [fst_memoryCursor]
        · rw [QueryResponse.columns_of_opening_eq_memory hopening]
          show _ = Except.ok ((setCurrent _ _).cursor _).columns
          rw [cursor_eq (noted _), fst_memoryCursor]
          exact congrArg (fun k => Except.ok (Cursor.columns k))
            (cursor_register created columns (.memory rows) 0).symm
      | fetch columns =>
        rw [hopening] at fetches handsOut
        obtain ⟨cursors, noted, given⟩ := finishResult_eq
          (c.modifyStatement i fun s => { s with pending := none }) i columns answers.fetched
        refine .received i r rfl hpending fetches ((leaves.trans
          (samePending_openNetworkCursor _ i columns answers.fetched)).trans noted) ?_
        exact received_openNetworkCursor hopening created isFed
          (apply_modifyStatement Statement.maxRows c i (fun s => { s with pending := none })
            (fun _ => rfl) i) (handsOut.trans given) cursors

/-! ### Everything else -/

theorem fetches_teardown (closing : Bool × Connection) (answers : Answers) :
    (effect answers (teardown closing)).1.filterMap Call.fetched? = [] := by
  obtain ⟨due, d⟩ := closing
  cases due <;> rfl

/-- What is idle calls the service for nothing but to cancel, to close or to see whether it is
there. -/
theorem fetches_of_isIdle (c : Connection) {op : Operation} (idle : op.isIdle = true)
    (answers : Answers) : c.fetches (op, answers) = [] := by
  cases op with
  | isValid timeout =>
    show (effect answers (c.isValid timeout)).1.filterMap Call.fetched? = []
    unfold isValid
    split <;> rfl
  | close => exact fetches_teardown c.close answers
  | runDeferred => exact fetches_teardown c.runDeferred answers
  | drop => exact fetches_teardown c.drop answers
  | cancel i =>
    show (effect answers (c.cancelRunning i)).1.filterMap Call.fetched? = []
    unfold cancelRunning
    split <;> rfl
  | cancelIfCurrent i token =>
    show (effect answers (c.cancelIfCurrent i token)).1.filterMap Call.fetched? = []
    unfold cancelIfCurrent
    split <;> rfl
  | prepare sql => cases idle
  | executeQuery what => cases idle
  | executeUpdate what => cases idle
  | execute what => cases idle
  | resultCursor i => cases idle
  | _ => rfl

theorem still_after_of_isIdle (c : Connection) {op : Operation} (idle : op.isIdle = true)
    (answers : Answers) : Still c (c.after (op, answers)) := by
  rw [after, perform_eq_effect]
  refine (goes_of_isIdle c idle).settle (P := Still c) (Q := Still c) (.refl c) ?_ ?_ answers
  all_goals
    intro a b still frame
    exact still.trans frame.toStill

theorem account_of_isIdle (c : Connection) {op : Operation} (idle : op.isIdle = true)
    (answers : Answers) : Account c op answers (c.after (op, answers)) := by
  have still := still_after_of_isIdle c idle answers
  have fetches := fetches_of_isIdle c idle answers
  cases op with
  | generatedKeys i =>
    -- the one idle operation that hands out a cursor
    refine .quiet fetches (records_of_recordOf (fun _ => rfl) c answers) still ?_ nofun
    intro id hid
    have hid : (c.generatedKeys i).1.toOption = some id := hid
    show (c.generatedKeys i).2.isFed id = false
    unfold generatedKeys at hid ⊢
    split at hid
    · cases hid
    · next hopen =>
      cases hid
      rw [if_neg hopen]
      exact isFed_memoryCursor c i [] []
  | executeQuery what => cases idle
  | executeUpdate what => cases idle
  | execute what => cases idle
  | _ =>
    refine account_of_still still fetches (records_of_recordOf (fun _ => rfl) c answers) ?_
    first | rfl | cases idle

theorem still_addStatement (c : Connection) : Still c c.addStatement.2 where
  isFed := isFed_eq (apply_addStatement Statement.cursors c rfl)
  length := by
    show c.statements.length ≤ (c.statements ++ [Statement.create c.nextToken]).length
    rw [List.length_append]
    exact Nat.le_add_right _ _
  keeps := by
    intro i hi
    have same : c.addStatement.2.statement i = c.statement i := by
      show (c.statements ++ [Statement.create c.nextToken])[i]?.getD noStatement = _
      rw [List.getElem?_append_left hi]
      rfl
    rw [same]
    exact .refl _
  come := by
    intro i hi
    rw [apply_addStatement Statement.pending c rfl i]
    exact pending_of_length_le hi

theorem still_createStatement (c : Connection) : Still c c.createStatement.2 := by
  unfold createStatement
  split
  · exact .refl c
  · exact still_addStatement c

theorem still_openCatalog (c : Connection) : Still c c.openCatalog.2 := by
  have noted (d : Connection) (i : Nat) : Still d { d with catalog := some i } :=
    still_of_statements_eq rfl
  unfold openCatalog
  split
  · exact .refl c
  · split
    · exact .refl c
    · exact (still_addStatement c).trans (noted _ _)

/-- A result that the client makes itself is not fed by the service. -/
theorem account_catalogCursor (c : Connection) (columns : List Column) (rows : List Row) :
    Still c (c.catalogCursor columns rows).2 ∧
      ∀ id, (c.catalogCursor columns rows).1.toOption = some id →
        (c.catalogCursor columns rows).2.isFed id = false := by
  have opened := still_openCatalog c
  unfold catalogCursor
  split
  · next heq =>
    rw [heq] at opened
    exact ⟨opened, nofun⟩
  · next i d heq =>
    rw [heq] at opened
    split
    · exact ⟨opened, nofun⟩
    · refine ⟨opened.trans (frame_memoryCursor d i columns rows).toStill, ?_⟩
      intro id hid
      cases hid
      exact isFed_memoryCursor d i columns rows

theorem account_prepare (c : Connection) (sql : String) (answers : Answers) :
    Account c (.prepare sql) answers (c.after (.prepare sql, answers)) := by
  have created := still_createStatement c
  have records (j : Nat) : records j c (.prepare sql, answers) = none :=
    records_of_recordOf (fun _ => rfl) c answers j
  have finished (d : Connection) (i : Nat) (compiled : Result QueryResponse) :
      Still d (d.finishPrepare i sql compiled).2 := by
    unfold finishPrepare
    split
    · exact (frame_closeStatement d i).toStill
    · exact still_of_statements_eq rfl
  have fetches : c.fetches (.prepare sql, answers) =
    ((c.prepare sql).settle answers).calls.filterMap Call.fetched? := rfl
  show Account c _ answers ((c.prepare sql).settle answers).connection
  unfold prepare at *
  rcases hcreate : c.createStatement with ⟨_ | i, d⟩
  · rw [hcreate] at fetches created
    exact account_of_still created fetches records rfl
  · rw [hcreate] at fetches created
    simp only at fetches created ⊢
    cases hsub : d.submission i .compile sql [] with
    | error e =>
      rw [hsub] at fetches
      exact account_of_still (created.trans (finished d i _)) fetches records rfl
    | ok submission =>
      rw [hsub] at fetches
      exact account_of_still ((created.trans (still_endExecution d i)).trans (finished _ i _))
        fetches records rfl

theorem still_after_of_isSetter (c : Connection) {op : Operation} (h : op.isSetter = true)
    (answers : Answers) : Still c (c.after (op, answers)) := by
  cases op with
  | setDataverse dataverse => exact still_of_statements_eq (c.statements_setDataverse dataverse).1
  | bindParam p position value =>
    exact still_of_statements_eq (c.statements_bindParam p position value).1
  | clearParams p => exact still_of_statements_eq (c.statements_clearParams p).1
  | set i setting =>
    cases setting with
    | timeout seconds =>
      show Still c (c.putStatement i ((c.statement i).setTimeout seconds).2)
      unfold Statement.setTimeout Statement.change
      split <;> exact still_putStatement rfl (Statement.keeps_of_eq rfl rfl)
    | _ => cases h
  | _ => cases h

/-- **Whatever an operation is, this is its account.** -/
theorem account (c : Connection) (op : Operation) (answers : Answers) :
    Account c op answers (c.after (op, answers)) := by
  cases hi : op.isIdle with
  | true => exact account_of_isIdle c hi answers
  | false =>
    cases hs : op.isSetter with
    | true =>
      have still := still_after_of_isSetter c hs answers
      refine account_of_still still ?_ (records_of_recordOf (fun _ => ?_) c answers) ?_
      all_goals cases op <;> first | rfl | cases hs
    | false =>
      cases op with
      | createStatement =>
        exact account_of_still (still_createStatement c) rfl
          (records_of_recordOf (fun _ => rfl) c answers) rfl
      | openCatalog =>
        exact account_of_still (still_openCatalog c) rfl
          (records_of_recordOf (fun _ => rfl) c answers) rfl
      | typeInfo =>
        obtain ⟨still, unfed⟩ := account_catalogCursor c typeInfoColumns
          (Datatype.all.map typeInfoRow)
        exact .quiet rfl (records_of_recordOf (fun _ => rfl) c answers) still unfed nofun
      | emptyResult columns =>
        obtain ⟨still, unfed⟩ := account_catalogCursor c columns []
        exact .quiet rfl (records_of_recordOf (fun _ => rfl) c answers) still unfed nofun
      | prepare sql => exact account_prepare c sql answers
      | executeQuery what => exact account_executeQuery c what answers
      | executeUpdate what => exact account_executeUpdate c what answers
      | execute what => exact account_execute c what answers
      | resultCursor i => exact account_resultCursor c i answers
      | set i setting =>
        have sent : Statement.isSent setting = true := by simpa [Operation.isIdle] using hi
        exact absurd hs (by simp [Operation.isSetter, sent])
      | _ => simp [Operation.isSetter, Operation.isIdle] at hs hi

end Connection

end QueryClient
