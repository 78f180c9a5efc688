import QueryClient.Proofs.Statement.Step

/-!
# What can happen to a connection

`Connection.Step` lists the changes that a connection can undergo, as far as its statements and its
being closed are concerned. Main statement: whatever a client does, and whatever the service
answers, the connection changes by a sequence of such steps (`steps_after`).
-/

namespace QueryClient.Connection

open Relation.ReflTransGen (refl single)

/-- One change of a connection. -/
inductive Step : Connection → Connection → Prop where
  /-- What has nothing to do with statements and closing may change in any way. -/
  | other {c d : Connection} (closed : d.closed = c.closed) (deferred : d.deferred = c.deferred)
      (statements : d.statements = c.statements) (registry : d.registry = c.registry) : Step c d
  /-- An open connection gets a new statement. -/
  | addStatement {c : Connection} (isOpen : c.closed = false) : Step c c.addStatement.2
  /-- A statement changes. -/
  | statement {c : Connection} (i : Nat) (s : Statement)
      (steps : Statement.Steps (c.statement i) s) : Step c (c.putStatement i s)
  /-- An open connection is closed with all its statements. -/
  | close {c : Connection} (isOpen : c.closed = false) :
      Step c { c with closed := true }.closeStatements
  /-- An open connection is closed, and its statements are left for later. -/
  | closeDeferred {c : Connection} (isOpen : c.closed = false) :
      Step c { c with closed := true, deferred := true }
  /-- The statements that have been left are closed. -/
  | runDeferred {c : Connection} (isDeferred : c.deferred = true) :
      Step c { c with deferred := false }.closeStatements

/-- A sequence of changes of a connection. -/
abbrev Steps : Connection → Connection → Prop := Relation.ReflTransGen Step

theorem steps_other {c d : Connection} (closed : d.closed = c.closed)
    (deferred : d.deferred = c.deferred) (statements : d.statements = c.statements)
    (registry : d.registry = c.registry) : Steps c d :=
  single (.other closed deferred statements registry)

/-! ## Statements by their number -/

theorem statement_of_length_le {c : Connection} {i : Nat} (h : c.statements.length ≤ i) :
    c.statement i = noStatement := by
  rw [statement, List.getElem?_eq_none h]
  rfl

/-- A statement that is open has been created. -/
theorem lt_of_open {c : Connection} {i : Nat} (h : (c.statement i).closed = false) :
    i < c.statements.length := by
  rcases Nat.lt_or_ge i c.statements.length with hi | hi
  · exact hi
  · rw [statement_of_length_le hi] at h
    cases h

theorem statement_of_getElem? {c : Connection} {i : Nat} {s : Statement}
    (h : c.statements[i]? = some s) : c.statement i = s := by
  rw [statement, h]
  rfl

theorem statement_putStatement {c : Connection} {i : Nat} (hi : i < c.statements.length)
    (s : Statement) : (c.putStatement i s).statement i = s :=
  statement_of_getElem? (List.getElem?_set_self hi)

theorem statement_modifyStatement {c : Connection} {i : Nat} (hi : i < c.statements.length)
    (f : Statement → Statement) : (c.modifyStatement i f).statement i = f (c.statement i) :=
  statement_putStatement hi _

theorem length_putStatement (c : Connection) (i : Nat) (s : Statement) :
    (c.putStatement i s).statements.length = c.statements.length := List.length_set

theorem length_addStatement (c : Connection) :
    c.addStatement.2.statements.length = c.statements.length + 1 := List.length_append

/-- A new statement is the last one. -/
theorem statement_addStatement (c : Connection) (j : Nat) : c.addStatement.2.statement j =
    if j = c.statements.length then Statement.create c.nextToken else c.statement j := by
  rcases Nat.lt_trichotomy j c.statements.length with before | rfl | beyond
  · rw [if_neg (Nat.ne_of_lt before)]
    exact congrArg (fun s => s.getD noStatement) (List.getElem?_append_left before)
  · rw [if_pos rfl]
    exact statement_of_getElem? List.getElem?_concat_length
  · have missing : c.addStatement.2.statements.length ≤ j := c.length_addStatement ▸ beyond
    rw [if_neg (Nat.ne_of_gt beyond), statement_of_length_le missing,
      statement_of_length_le (Nat.le_of_lt beyond)]

theorem steps_modifyStatement (c : Connection) (i : Nat) {f : Statement → Statement}
    (h : ∀ s, Statement.Steps s (f s)) : Steps c (c.modifyStatement i f) :=
  single (.statement i _ (h _))

theorem steps_withStatement {α : Type} (c : Connection) (i : Nat) {f : Statement → α × Statement}
    (h : ∀ s, Statement.Steps s (f s).2) : Steps c (c.withStatement i f).2 :=
  single (.statement i _ (h _))

theorem steps_withCursor {α : Type} (c : Connection) (id : CursorId) {f : Cursor → α × Cursor}
    (h : ∀ k, Cursor.Moved k (f k).2) : Steps c (c.withCursor id f).2 := by
  have move : Statement.Step (c.statement id.statement)
      ((c.statement id.statement).modifyCursor id.cursor fun _ => (f (c.cursor id)).2) := by
    refine .move id.cursor _ ?_
    -- a cursor of another place is not asked for, so `f` runs on the one that is there
    intro k hk
    rw [cursor, hk]
    exact h k
  exact single (.statement id.statement _ (single move))

/-! ## New statements and new cursors -/

theorem steps_createStatement (c : Connection) : Steps c c.createStatement.2 := by
  unfold createStatement
  split
  · exact refl
  · next h => exact single (.addStatement (Bool.eq_false_iff.mpr h))

theorem steps_openCatalog (c : Connection) : Steps c c.openCatalog.2 := by
  unfold openCatalog
  split
  · exact refl
  · next h =>
    split
    · exact refl
    · have add : Steps c c.addStatement.2 := single (.addStatement (Bool.eq_false_iff.mpr h))
      exact add.trans (steps_other rfl rfl rfl rfl)

theorem steps_register (c : Connection) (i : Nat) (columns : List Column) (source : RowSource)
    (maxRows : Statement → Nat) (isOpen : (c.statement i).closed = false) :
    Steps c (c.withStatement i fun s => s.register columns source (maxRows s)).2 :=
  single (.statement i _ (Statement.steps_register columns source _ isOpen))

theorem steps_memoryCursor (c : Connection) (i : Nat) (columns : List Column) (rows : List Row)
    (isOpen : (c.statement i).closed = false) : Steps c (c.memoryCursor i columns rows).2 :=
  steps_register c i columns (.memory rows) (fun _ => 0) isOpen

theorem steps_generatedKeys (c : Connection) (i : Nat) : Steps c (c.generatedKeys i).2 := by
  unfold generatedKeys
  split
  · exact refl
  · next h => exact steps_memoryCursor c i [] [] (Bool.eq_false_iff.mpr h)

theorem steps_catalogCursor (c : Connection) (columns : List Column) (rows : List Row) :
    Steps c (c.catalogCursor columns rows).2 := by
  have hc := steps_openCatalog c
  unfold catalogCursor
  split
  · next heq => rwa [heq] at hc
  · next i d heq =>
    rw [heq] at hc
    split
    · exact hc
    · next h => exact hc.trans (steps_memoryCursor d i columns rows (Bool.eq_false_iff.mpr h))

theorem steps_openNetworkCursor (c : Connection) (i : Nat) (columns : List Column)
    (fetched : Result ElementStream) (isOpen : (c.statement i).closed = false) :
    Steps c (c.openNetworkCursor i columns fetched).2 := by
  unfold openNetworkCursor
  split
  · exact refl
  · next elements => exact steps_register c i columns (.stream elements) Statement.maxRows isOpen

/-! ## Executions -/

/-- Only an open statement submits anything. -/
theorem open_of_submission {c : Connection} {i : Nat} {purpose : Purpose} {sql : String}
    {params : List Param} {sent : Submission}
    (h : c.submission i purpose sql params = .ok sent) : (c.statement i).closed = false := by
  unfold submission at h
  simp only at h
  split at h
  · exact absurd h (by simp)
  · next hs => exact Bool.eq_false_iff.mpr hs

theorem steps_endExecution (c : Connection) (i : Nat) : Steps c (c.endExecution i) := by
  have draw : Steps c c.drawToken.2 := steps_other rfl rfl rfl rfl
  have renew : Steps c.drawToken.2
      (c.drawToken.2.modifyStatement i fun s => { s with token := c.nextToken }) :=
    steps_modifyStatement _ i fun _ => Statement.steps_other rfl rfl rfl rfl
  exact draw.trans renew

theorem steps_recordOutcome (c : Connection) (i : Nat) (r : QueryResponse)
    (updateCount : Option Int) (pending : Option QueryResponse) :
    Steps c (c.modifyStatement i fun s => s.recordOutcome r updateCount pending) :=
  steps_modifyStatement c i fun s => s.steps_recordOutcome r updateCount pending

theorem steps_answerUpdate (c : Connection) (i : Nat) (answer : Result QueryResponse) :
    Steps c (c.answerUpdate i answer).2 := by
  unfold answerUpdate
  split
  · exact steps_endExecution c i
  · split
    · exact steps_endExecution c i
    · exact (steps_recordOutcome c i _ _ _).trans (steps_endExecution _ i)

theorem steps_answerAny (c : Connection) (i : Nat) (answer : Result QueryResponse) :
    Steps c (c.answerAny i answer).2 := by
  unfold answerAny
  split
  · exact steps_endExecution c i
  · split <;> exact (steps_recordOutcome c i _ _ _).trans (steps_endExecution _ i)

/-- A change of an open statement that leaves it open. -/
theorem open_modifyStatement {c : Connection} {i : Nat} {f : Statement → Statement}
    (isOpen : (c.statement i).closed = false) (h : ∀ s, (f s).closed = s.closed) :
    ((c.modifyStatement i f).statement i).closed = false := by
  rw [modifyStatement, statement_putStatement (lt_of_open isOpen), h]
  exact isOpen

/-- What is over has no rows to fetch. -/
theorem elim_fetch_of_done {α : Type} {result : Result α} {response : QueryResponse}
    {columns : List Column} {p : Prop} (h : Progress.done result = .fetch response columns) : p :=
  nomatch h

/-- The answer to a query changes the connection step by step, and a statement whose rows have
still to be fetched stays open. -/
theorem steps_answerQuery (c : Connection) (i : Nat) (answer : Result QueryResponse)
    (isOpen : (c.statement i).closed = false) :
    Steps c (c.answerQuery i answer).2 ∧ ∀ response columns,
      (c.answerQuery i answer).1 = .fetch response columns →
        ((c.answerQuery i answer).2.statement i).closed = false := by
  -- recording an outcome closes nothing, so a cursor may be opened behind it
  have open' (r : QueryResponse) := open_modifyStatement (i := i)
    (f := fun s => s.recordOutcome r none none) isOpen fun _ => rfl
  unfold answerQuery
  split
  · exact ⟨steps_endExecution c i, fun _ _ => elim_fetch_of_done⟩
  · next r =>
    split
    · have hr := steps_recordOutcome c i r none none
      simp only
      split
      · exact ⟨hr.trans (steps_endExecution _ i), fun _ _ => elim_fetch_of_done⟩
      · next columns rows _ =>
        exact ⟨(hr.trans (steps_memoryCursor _ i columns rows (open' r))).trans
          (steps_endExecution _ i), fun _ _ => elim_fetch_of_done⟩
      · exact ⟨hr, fun _ _ _ => open' r⟩
    · exact ⟨steps_endExecution c i, fun _ _ => elim_fetch_of_done⟩

theorem steps_finishQuery (c : Connection) (i : Nat) (columns : List Column)
    (fetched : Result ElementStream) (isOpen : (c.statement i).closed = false) :
    Steps c (c.finishQuery i columns fetched).2 :=
  (steps_openNetworkCursor c i columns fetched isOpen).trans (steps_endExecution _ i)

theorem steps_setCurrent (c : Connection) (id : CursorId) : Steps c (c.setCurrent id) :=
  steps_modifyStatement c id.statement fun _ => Statement.steps_other rfl rfl rfl rfl

/-- Taking a pending response changes the connection step by step, and a statement whose rows have
still to be fetched is open. -/
theorem steps_takeResult (c : Connection) (i : Nat) :
    Steps c (c.takeResult i).2 ∧ ∀ response columns,
      (c.takeResult i).1 = .fetch response columns →
        ((c.takeResult i).2.statement i).closed = false := by
  unfold takeResult
  simp only
  split
  · exact ⟨refl, fun _ _ => elim_fetch_of_done⟩
  · next hs =>
    have isOpen : (c.statement i).closed = false := Bool.eq_false_iff.mpr hs
    have open' := open_modifyStatement (f := fun s => { s with pending := none }) isOpen
      fun _ => rfl
    have hp : Steps c (c.modifyStatement i fun s => { s with pending := none }) :=
      steps_modifyStatement c i fun _ => Statement.steps_other rfl rfl rfl rfl
    split
    · exact ⟨refl, fun _ _ => elim_fetch_of_done⟩
    · split
      · exact ⟨hp, fun _ _ => elim_fetch_of_done⟩
      · next columns rows _ =>
        exact ⟨(hp.trans (steps_memoryCursor _ i columns rows open')).trans
          (steps_setCurrent _ _), fun _ _ => elim_fetch_of_done⟩
      · exact ⟨hp, fun _ _ _ => open'⟩

theorem steps_finishResult (c : Connection) (i : Nat) (columns : List Column)
    (fetched : Result ElementStream) (isOpen : (c.statement i).closed = false) :
    Steps c (c.finishResult i columns fetched).2 := by
  have hc := steps_openNetworkCursor c i columns fetched isOpen
  unfold finishResult
  split
  · next heq => rwa [heq] at hc
  · next heq =>
    rw [heq] at hc
    exact hc.trans (steps_setCurrent _ _)

theorem steps_closeStatement (c : Connection) (i : Nat) : Steps c (c.closeStatement i) :=
  steps_modifyStatement c i Statement.steps_close

theorem steps_finishPrepare (c : Connection) (i : Nat) (sql : String)
    (compiled : Result QueryResponse) : Steps c (c.finishPrepare i sql compiled).2 := by
  unfold finishPrepare
  split
  · exact steps_closeStatement c i
  · exact steps_other rfl rfl rfl rfl

/-! ## Dialogues

A dialogue that no one interferes with is taken apart call by call. -/

section Settle

variable {α : Type} (answers : Answers)

/-- What is executed does not matter to what every execution does. -/
theorem steps_executable (what : Executable) {c : Connection}
    {f : Nat → String → List Param → Dialogue α}
    (h : ∀ i sql params, Steps c ((f i sql params).settle answers).connection) :
    Steps c ((what.run c f).settle answers).connection := by
  cases what with
  | text i sql => exact h i sql []
  | prepared p =>
    exact h (c.preparedStatement p).statement (c.preparedStatement p).sql
      (c.preparedStatement p).params

theorem steps_executeQuery (c : Connection) (i : Nat) (sql : String) (params : List Param) :
    Steps c ((c.executeQuery i sql params).settle answers).connection := by
  unfold executeQuery
  split
  · exact refl
  · next hsub =>
    -- between the two calls the answer has been recorded, and the statement is still open
    have ⟨hq, hopen⟩ := steps_answerQuery c i answers.submitted (open_of_submission hsub)
    simp only [Dialogue.settle]
    split
    · next heq => rwa [heq] at hq
    · next response columns d heq =>
      rw [heq] at hq hopen
      exact hq.trans (steps_finishQuery d i columns answers.fetched (hopen _ _ rfl))

theorem steps_executeUpdate (c : Connection) (i : Nat) (sql : String) (params : List Param) :
    Steps c ((c.executeUpdate i sql params).settle answers).connection := by
  unfold executeUpdate
  split
  · exact refl
  · exact steps_answerUpdate c i answers.submitted

theorem steps_execute (c : Connection) (i : Nat) (sql : String) (params : List Param) :
    Steps c ((c.execute i sql params).settle answers).connection := by
  unfold execute
  split
  · exact refl
  · exact steps_answerAny c i answers.submitted

theorem steps_prepare (c : Connection) (sql : String) :
    Steps c ((c.prepare sql).settle answers).connection := by
  have hc := steps_createStatement c
  unfold prepare
  split
  · next heq => rwa [heq] at hc
  · next i d heq =>
    rw [heq] at hc
    split
    · exact hc.trans (steps_finishPrepare d i sql _)
    · exact (hc.trans (steps_endExecution d i)).trans (steps_finishPrepare _ i sql _)

theorem steps_resultCursor (c : Connection) (i : Nat) :
    Steps c ((c.resultCursor i).settle answers).connection := by
  have ⟨ht, hopen⟩ := steps_takeResult c i
  unfold resultCursor
  split
  · next heq => rwa [heq] at ht
  · next response columns d heq =>
    rw [heq] at ht hopen
    exact ht.trans (steps_finishResult d i columns answers.fetched (hopen _ _ rfl))

theorem steps_cancelRunning (c : Connection) (i : Nat) :
    Steps c ((c.cancelRunning i).settle answers).connection := by
  unfold cancelRunning
  split <;> exact refl

theorem steps_cancelIfCurrent (c : Connection) (i : Nat) (token : Token) :
    Steps c ((c.cancelIfCurrent i token).settle answers).connection := by
  unfold cancelIfCurrent
  split <;> exact refl

theorem steps_isValid (c : Connection) (timeout : Nat) :
    Steps c ((c.isValid timeout).settle answers).connection := by
  unfold isValid
  split <;> exact refl

theorem connection_settle_teardown (closing : Bool × Connection) :
    ((teardown closing).settle answers).connection = closing.2 := by
  obtain ⟨due, c⟩ := closing
  cases due <;> rfl

end Settle

/-! ## Closing -/

theorem steps_close (c : Connection) : Steps c c.close.2 := by
  unfold close
  split
  · exact refl
  · next h => exact single (.close (Bool.eq_false_iff.mpr h))

theorem steps_closeDeferred (c : Connection) : Steps c c.closeDeferred.2 := by
  unfold closeDeferred
  split
  · exact refl
  · next h => exact single (.closeDeferred (Bool.eq_false_iff.mpr h))

theorem steps_runDeferred (c : Connection) : Steps c c.runDeferred.2 := by
  unfold runDeferred
  split
  · next h => exact single (.runDeferred h)
  · exact refl

theorem steps_drop (c : Connection) : Steps c c.drop.2 :=
  (steps_close c).trans (steps_other rfl rfl rfl rfl)

/-! ## Cursors -/

theorem steps_startNext (c : Connection) (id : CursorId) : Steps c (c.startNext id).2 := by
  unfold startNext
  split
  · exact refl
  · exact steps_withCursor c id Cursor.moved_startNext

theorem steps_finishNext (c : Connection) (id : CursorId) : Steps c (c.finishNext id).2 := by
  unfold finishNext
  split
  · exact steps_withCursor c id fun k => (Cursor.moved_pull k).trans (Cursor.moved_finishNext _ _)
  · exact refl

theorem steps_get (c : Connection) (id : CursorId) (target : Getter.Target) (ref : ColumnRef) :
    Steps c (c.get id target ref).2 := by
  unfold get
  split
  · exact refl
  · exact steps_withCursor c id fun k => Cursor.moved_get k target ref

/-! ## Operations -/

/-- **Whatever a client does, the connection changes by steps.** -/
theorem steps_after (c : Connection) (op : Operation) (answers : Answers) :
    Steps c (c.after (op, answers)) := by
  cases op with
  | createStatement => exact steps_createStatement c
  | prepare sql => exact steps_prepare answers c sql
  | openCatalog => exact steps_openCatalog c
  | typeInfo => exact steps_catalogCursor c _ _
  | emptyResult columns => exact steps_catalogCursor c columns []
  | setDataverse dataverse =>
    simp only [after, perform, Connection.setDataverse]
    split
    · exact refl
    · split <;> exact steps_other rfl rfl rfl rfl
  | clearWarnings =>
    simp only [after, perform, Connection.clearWarnings]
    split <;> exact steps_other rfl rfl rfl rfl
  | isValid timeout => exact steps_isValid answers c timeout
  | close =>
    simp only [after, perform, effect, connection_settle_teardown]
    exact steps_close c
  | closeDeferred => exact steps_closeDeferred c
  | runDeferred =>
    simp only [after, perform, effect, connection_settle_teardown]
    exact steps_runDeferred c
  | drop =>
    simp only [after, perform, effect, connection_settle_teardown]
    exact steps_drop c
  | executeQuery what => exact steps_executable answers what (steps_executeQuery answers c)
  | executeUpdate what => exact steps_executable answers what (steps_executeUpdate answers c)
  | execute what => exact steps_executable answers what (steps_execute answers c)
  | resultCursor i => exact steps_resultCursor answers c i
  | moreResults i => exact steps_withStatement c i Statement.steps_moreResults
  | generatedKeys i => exact steps_generatedKeys c i
  | set i setting => exact steps_withStatement c i fun s => s.steps_set setting
  | cancel i => exact steps_cancelRunning answers c i
  | cancelIfCurrent i token => exact steps_cancelIfCurrent answers c i token
  | closeStatement i => exact steps_closeStatement c i
  | bindParam p position value =>
    simp only [after, perform, Connection.bindParam]
    split
    · exact refl
    · split <;> exact steps_other rfl rfl rfl rfl
  | clearParams p =>
    simp only [after, perform, Connection.clearParams]
    split <;> exact steps_other rfl rfl rfl rfl
  | startNext id => exact steps_startNext c id
  | finishNext id => exact steps_finishNext c id
  | get id target column => exact steps_get c id target column
  | closeCursor id => exact steps_modifyStatement c id.statement fun s => s.steps_closeCursor _
  | dropCursor id => exact steps_modifyStatement c id.statement fun s => s.steps_dropCursor _

end QueryClient.Connection
