import QueryClient.Proofs.Connection.Registry

/-!
# Closing while the service is at work

While the service works on a call the connection lies open to others, who may close the statement
that waits for the answer, or the whole connection. Whether the statement is open is seen before
the call only, so the rows that the service sends still make a cursor, and no one is left to close
it. Such a stray cursor is the one that the operation returns, and there is no other. Main
statement: `strays_errand`.
-/

namespace QueryClient

/-! ## Turns of others -/

namespace Dialogue

variable {α : Type} (answers : Answers)

/-- What comes of a dialogue during whose calls others get a turn: a session during each call, in
order, and none once they have run out. -/
def settleAmid : Dialogue α → List (List (Operation × Answers)) → Outcome α
  | .done result c, _ => ⟨result, [], c⟩
  | .submit submission c next, turns =>
    let rest := settleAmid (next (c.run (turns.headD [])) answers.submitted) turns.tail
    { rest with calls := .submit submission :: rest.calls }
  | .fetch response c next, turns =>
    let rest := settleAmid (next (c.run (turns.headD [])) answers.fetched) turns.tail
    { rest with calls := .fetch response :: rest.calls }
  | .cancel token c next, turns =>
    let rest := settleAmid (next (c.run (turns.headD [])) answers.cancelled) turns.tail
    { rest with calls := .cancel token :: rest.calls }
  | .ping timeout c next, turns =>
    let rest := settleAmid (next (c.run (turns.headD [])) answers.ping) turns.tail
    { rest with calls := .ping timeout :: rest.calls }
  | .close c next, turns =>
    let rest := settleAmid (next (c.run (turns.headD [])) answers.closed) turns.tail
    { rest with calls := .close :: rest.calls }

/-- If no one makes use of the turns, no one interferes. -/
theorem settleAmid_nil (d : Dialogue α) : d.settleAmid answers [] = d.settle answers := by
  induction d with
  | done result c => rfl
  | submit submission c next ih => simp [settleAmid, settle, Connection.run, ih]
  | fetch response c next ih => simp [settleAmid, settle, Connection.run, ih]
  | cancel token c next ih => simp [settleAmid, settle, Connection.run, ih]
  | ping timeout c next ih => simp [settleAmid, settle, Connection.run, ih]
  | close c next ih => simp [settleAmid, settle, Connection.run, ih]

end Dialogue

/-- Change the result of an operation. -/
def Outcome.map {α β : Type} (f : α → β) (o : Outcome α) : Outcome β :=
  ⟨o.result.map f, o.calls, o.connection⟩

/-- What has a statement submit a text or fetch rows. -/
inductive Errand where
  | query (what : Executable)
  | update (what : Executable)
  | any (what : Executable)
  | compile (sql : String)
  /-- The rows that an execution has left behind. -/
  | rows (i : Nat)

/-- What comes of an errand. Its result is the cursor that it has opened, if any. -/
def Errand.settleAmid (c : Connection) (answers : Answers)
    (turns : List (List (Operation × Answers))) : Errand → Outcome (Option CursorId)
  | .query what => ((what.run c c.executeQuery).settleAmid answers turns).map some
  | .update what => ((what.run c c.executeUpdate).settleAmid answers turns).map fun _ => none
  | .any what => ((what.run c c.execute).settleAmid answers turns).map fun _ => none
  | .compile sql => ((c.prepare sql).settleAmid answers turns).map fun _ => none
  | .rows i => (c.resultCursor i).settleAmid answers turns

namespace Connection

/-- The one cursor of a closed statement that is open, if there is any, is the given one. -/
def Strays (c : Connection) (stray : Option CursorId) : Prop :=
  ∀ i k, (c.statement i).closed = true →
    ((c.statement i).isClosedCursor k = false ↔ stray = some ⟨i, k⟩)

/-! ## Where nothing strays -/

/-- Where the registries are exact, a closed statement has no open cursor. -/
theorem Exact.strays {c : Connection} (h : c.Exact) : c.Strays none := by
  intro i k hs
  have closed : (c.statement i).isClosedCursor k = true := by
    unfold Statement.isClosedCursor
    split
    · next cursor hk => exact (h.statement i).closed hs cursor (List.mem_of_getElem? hk)
    · rfl
  rw [closed]
  exact iff_of_false (fun h => Bool.false_ne_true h.symm) (fun h => nomatch h)

/-- A change of a statement that leaves its cursors alone strays none. -/
theorem Strays.modifyStatement {c : Connection} {stray : Option CursorId} (h : c.Strays stray)
    {i : Nat} {f : Statement → Statement} (closed : ∀ s, (f s).closed = s.closed)
    (cursors : ∀ s, (f s).cursors = s.cursors) : (c.modifyStatement i f).Strays stray := by
  intro j k
  rw [Statement.isClosedCursor, apply_modifyStatement Statement.closed c i f closed,
    apply_modifyStatement Statement.cursors c i f cursors]
  exact h j k

theorem Strays.endExecution {c : Connection} {stray : Option CursorId} (h : c.Strays stray)
    (i : Nat) : (c.endExecution i).Strays stray := by
  have drawn : c.drawToken.2.Strays stray := h
  exact drawn.modifyStatement (fun _ => rfl) fun _ => rfl

theorem Strays.setCurrent {c : Connection} {stray : Option CursorId} (h : c.Strays stray)
    (id : CursorId) : (c.setCurrent id).Strays stray :=
  h.modifyStatement (fun _ => rfl) fun _ => rfl

/-! ## A new cursor -/

theorem isClosedCursor_register (s : Statement) (columns : List Column) (source : RowSource)
    (maxRows k : Nat) : (s.register columns source maxRows).2.isClosedCursor k = false ↔
      s.isClosedCursor k = false ∨ k = s.cursors.length := by
  unfold Statement.isClosedCursor
  rw [Statement.cursors_register]
  rcases Nat.lt_trichotomy k s.cursors.length with hk | rfl | hk
  · rw [List.getElem?_append_left hk]
    constructor
    · exact Or.inl
    · rintro (hopen | rfl)
      · exact hopen
      · exact absurd hk (Nat.lt_irrefl _)
  · rw [List.getElem?_concat_length]
    exact iff_of_true rfl (Or.inr rfl)
  · have beyond : (s.cursors ++ [Cursor.create columns source maxRows]).length ≤ k := by
      rw [List.length_append]
      exact hk
    rw [List.getElem?_eq_none beyond, List.getElem?_eq_none (Nat.le_of_lt hk)]
    refine iff_of_false (fun h => Bool.false_ne_true h.symm) ?_
    rintro (h | rfl)
    · exact Bool.false_ne_true h.symm
    · exact Nat.lt_irrefl _ hk

/-- A cursor that a statement gets is the stray one, should the statement be closed. -/
theorem Exact.strays_register {c : Connection} (h : c.Exact) {i : Nat}
    (hi : i < c.statements.length) (columns : List Column) (source : RowSource)
    (maxRows : Statement → Nat) :
    (c.withStatement i fun s => s.register columns source (maxRows s)).2.Strays
      (some ⟨i, (c.statement i).cursors.length⟩) := by
  intro j k
  have after : (c.withStatement i fun s => s.register columns source (maxRows s)).2 =
    c.putStatement i ((c.statement i).register columns source (maxRows (c.statement i))).2 := rfl
  rw [after]
  by_cases hij : i = j
  · subst hij
    rw [statement_putStatement hi, Statement.closed_register, isClosedCursor_register]
    intro hs
    rw [h.strays i k hs]
    simp [eq_comm]
  · rw [statement_putStatement_of_ne hij]
    intro hs
    rw [h.strays j k hs]
    simp [hij]

theorem Exact.strays_memoryCursor {c : Connection} (h : c.Exact) {i : Nat}
    (hi : i < c.statements.length) (columns : List Column) (rows : List Row) :
    (c.memoryCursor i columns rows).2.Strays (some (c.memoryCursor i columns rows).1) := by
  have number : (c.memoryCursor i columns rows).1 = ⟨i, (c.statement i).cursors.length⟩ := by
    simp only [memoryCursor, withStatement, Statement.memoryCursor, Statement.register_fst]
  rw [number]
  exact h.strays_register hi columns (.memory rows) fun _ => 0

theorem Exact.strays_openNetworkCursor {c : Connection} (h : c.Exact) {i : Nat}
    (hi : i < c.statements.length) (columns : List Column) (fetched : Result ElementStream) :
    (c.openNetworkCursor i columns fetched).2.Strays
      (c.openNetworkCursor i columns fetched).1.toOption := by
  cases fetched with
  | error e => exact h.strays
  | ok elements =>
    have number : (c.openNetworkCursor i columns (.ok elements)).1 =
        .ok ⟨i, (c.statement i).cursors.length⟩ := by
      simp only [openNetworkCursor, withStatement, Statement.register_fst]
    rw [number]
    exact h.strays_register hi columns (.stream elements) Statement.maxRows

theorem Exact.strays_finishQuery {c : Connection} (h : c.Exact) {i : Nat}
    (hi : i < c.statements.length) (columns : List Column) (fetched : Result ElementStream) :
    (c.finishQuery i columns fetched).2.Strays (c.finishQuery i columns fetched).1.toOption :=
  (h.strays_openNetworkCursor hi columns fetched).endExecution i

theorem Exact.strays_finishResult {c : Connection} (h : c.Exact) {i : Nat}
    (hi : i < c.statements.length) (columns : List Column) (fetched : Result ElementStream) :
    (c.finishResult i columns fetched).2.Strays
      (c.finishResult i columns fetched).1.toOption.join := by
  have opened := h.strays_openNetworkCursor hi columns fetched
  unfold finishResult
  split
  · next heq => rwa [heq] at opened
  · next id d heq =>
    rw [heq] at opened
    exact opened.setCurrent id

/-! ## Going on with an answer -/

/-- A part of an operation accounts for what strays: its result does, if it is over; else the rows
are still to be fetched for a statement that is there, and nothing strays. -/
def Accounts {α : Type} (cursor : α → Option CursorId) (i : Nat) :
    Progress α × Connection → Prop
  | (.done result, c) => c.Strays (result.toOption.bind cursor)
  | (.fetch _ _, c) => c.Exact ∧ i < c.statements.length

theorem Exact.modifyStatement {c : Connection} (h : c.Exact) (i : Nat) {f : Statement → Statement}
    (steps : ∀ s, Statement.Steps s (f s)) : (c.modifyStatement i f).Exact :=
  h.steps (steps_modifyStatement c i steps)

theorem Exact.accounts_answerQuery {c : Connection} (h : c.Exact) {i : Nat}
    (hi : i < c.statements.length) (answer : Result QueryResponse) :
    Accounts some i (c.answerQuery i answer) := by
  unfold answerQuery
  cases answer with
  | error e => exact h.strays.endExecution i
  | ok r =>
    simp only
    split
    · have recorded := h.modifyStatement i fun s => s.steps_recordOutcome r none none
      have created : i < (c.modifyStatement i fun s =>
          s.recordOutcome r none none).statements.length := by
        rw [Connection.modifyStatement, length_putStatement]
        exact hi
      split
      · exact recorded.strays.endExecution i
      · next columns rows _ =>
        exact (recorded.strays_memoryCursor created columns rows).endExecution i
      · exact ⟨recorded, created⟩
    · exact h.strays.endExecution i

theorem Exact.accounts_takeResult {c : Connection} (h : c.Exact) (i : Nat) :
    Accounts id i (c.takeResult i) := by
  unfold takeResult
  simp only
  split
  · exact h.strays
  · next hs =>
    split
    · exact h.strays
    · have taken := h.modifyStatement (f := fun s => { s with pending := none }) i fun _ =>
        Statement.steps_other rfl rfl rfl rfl
      have created : i < (c.modifyStatement i fun s =>
          { s with pending := none }).statements.length := by
        rw [Connection.modifyStatement, length_putStatement]
        exact lt_of_open (Bool.eq_false_iff.mpr hs)
      split
      · exact taken.strays
      · next columns rows _ =>
        exact (taken.strays_memoryCursor created columns rows).setCurrent _
      · exact ⟨taken, created⟩

/-! ## Operations amid which others get their turns -/

/-- The turn of others leaves the registries exact and the statements there. -/
theorem Exact.run {c : Connection} (h : c.Exact) (session : List (Operation × Answers)) {i : Nat}
    (hi : i < c.statements.length) :
    (c.run session).Exact ∧ i < (c.run session).statements.length := by
  have steps := steps_run c session
  exact ⟨h.steps steps, Nat.lt_of_lt_of_le hi (kept_of_steps steps).statements⟩

section

variable (answers : Answers) (turns : List (List (Operation × Answers)))

theorem strays_executeQuery {c : Connection} (h : c.Exact) (i : Nat) (sql : String)
    (params : List Param) :
    ((c.executeQuery i sql params).settleAmid answers turns).connection.Strays
      ((c.executeQuery i sql params).settleAmid answers turns).result.toOption := by
  unfold executeQuery
  split
  · exact h.strays
  · next hsub =>
    -- the statement has been created, though it may be closed when the answer comes
    obtain ⟨exact, created⟩ := h.run (turns.headD []) (lt_of_open (open_of_submission hsub))
    have accounts := exact.accounts_answerQuery created answers.submitted
    simp only [Dialogue.settleAmid]
    split
    · next result d heq =>
      rw [heq] at accounts
      simpa [Accounts, Dialogue.settleAmid] using accounts
    · next response columns d heq =>
      rw [heq] at accounts
      obtain ⟨exact, created⟩ := accounts.1.run (turns.tail.headD []) accounts.2
      exact exact.strays_finishQuery created columns answers.fetched

theorem strays_resultCursor {c : Connection} (h : c.Exact) (i : Nat) :
    ((c.resultCursor i).settleAmid answers turns).connection.Strays
      ((c.resultCursor i).settleAmid answers turns).result.toOption.join := by
  have accounts := h.accounts_takeResult i
  unfold resultCursor
  split
  · next result d heq =>
    rw [heq] at accounts
    exact accounts
  · next response columns d heq =>
    rw [heq] at accounts
    obtain ⟨exact, created⟩ := accounts.1.run (turns.headD []) accounts.2
    exact exact.strays_finishResult created columns answers.fetched

theorem exact_executeUpdate {c : Connection} (h : c.Exact) (i : Nat) (sql : String)
    (params : List Param) :
    ((c.executeUpdate i sql params).settleAmid answers turns).connection.Exact := by
  unfold executeUpdate
  split
  · exact h
  · exact (h.steps (steps_run c _)).steps (steps_answerUpdate _ i answers.submitted)

theorem exact_execute {c : Connection} (h : c.Exact) (i : Nat) (sql : String)
    (params : List Param) :
    ((c.execute i sql params).settleAmid answers turns).connection.Exact := by
  unfold execute
  split
  · exact h
  · exact (h.steps (steps_run c _)).steps (steps_answerAny _ i answers.submitted)

theorem exact_prepare {c : Connection} (h : c.Exact) (sql : String) :
    ((c.prepare sql).settleAmid answers turns).connection.Exact := by
  have created := h.steps (steps_createStatement c)
  unfold prepare
  split
  · next heq => rwa [heq] at created
  · next i d heq =>
    rw [heq] at created
    split
    · exact created.steps (steps_finishPrepare d i sql _)
    · have waited := created.steps (steps_run d (turns.headD []))
      exact (waited.steps (steps_endExecution _ i)).steps (steps_finishPrepare _ i sql _)

/-- Nothing strays but the cursor that an errand returns. -/
theorem strays_settleAmid {c : Connection} (h : c.Exact) (errand : Errand) :
    (errand.settleAmid c answers turns).connection.Strays
      (errand.settleAmid c answers turns).result.toOption.join := by
  -- an errand that opens no cursor leaves the registries exact
  have without {α : Type} {o : Outcome α} (exact : o.connection.Exact) :
      (o.map fun _ => (none : Option CursorId)).connection.Strays
        (o.map fun _ => (none : Option CursorId)).result.toOption.join := by
    obtain ⟨result, calls, d⟩ := o
    cases result <;> exact exact.strays
  have opened {o : Outcome CursorId} (strays : o.connection.Strays o.result.toOption) :
      (o.map some).connection.Strays (o.map some).result.toOption.join := by
    obtain ⟨result, calls, d⟩ := o
    cases result <;> exact strays
  cases errand with
  | query what => cases what <;> exact opened (strays_executeQuery answers turns h _ _ _)
  | update what => cases what <;> exact without (exact_executeUpdate answers turns h _ _ _)
  | any what => cases what <;> exact without (exact_execute answers turns h _ _ _)
  | compile sql => exact without (exact_prepare answers turns h sql)
  | rows i => exact strays_resultCursor answers turns h i

end

/-! ## What others do goes unnoticed -/

/-- Two parts of operations that come to the same, but for the number of a cursor. -/
inductive Alike : Progress CursorId → Progress CursorId → Prop where
  | done {r r' : Result CursorId} (statement : r.map CursorId.statement = r'.map CursorId.statement) :
      Alike (.done r) (.done r')
  | fetch (response : QueryResponse) (columns : List Column) :
      Alike (.fetch response columns) (.fetch response columns)

theorem alike_answerQuery (c d : Connection) (i : Nat) (answer : Result QueryResponse) :
    Alike (c.answerQuery i answer).1 (d.answerQuery i answer).1 := by
  cases answer with
  | error e => exact .done rfl
  | ok r =>
    unfold answerQuery
    by_cases hq : r.isQuery = true
    · simp only [hq, if_true]
      cases r.opening with
      | error e => exact .done rfl
      | ok opening =>
        cases opening with
        | memory columns rows => exact .done rfl
        | fetch columns => exact .fetch r columns
    · simp only [hq]
      exact .done rfl

theorem statement_finishQuery (c : Connection) (i : Nat) (columns : List Column)
    (fetched : Result ElementStream) :
    (c.finishQuery i columns fetched).1.map CursorId.statement = fetched.map fun _ => i := by
  cases fetched <;> rfl

theorem statement_finishResult (c : Connection) (i : Nat) (columns : List Column)
    (fetched : Result ElementStream) :
    (c.finishResult i columns fetched).1.map (Option.map CursorId.statement) =
      fetched.map fun _ => some i := by
  cases fetched <;> rfl

section

variable (answers : Answers) (turns turns' : List (List (Operation × Answers)))

theorem statement_executeQuery (c : Connection) (i : Nat) (sql : String) (params : List Param) :
    ((c.executeQuery i sql params).settleAmid answers turns).result.map CursorId.statement =
      ((c.executeQuery i sql params).settleAmid answers turns').result.map CursorId.statement := by
  unfold executeQuery
  split
  · rfl
  · have alike := alike_answerQuery (c.run (turns.headD [])) (c.run (turns'.headD [])) i
      answers.submitted
    simp only [Dialogue.settleAmid]
    cases hq : (c.run (turns.headD [])).answerQuery i answers.submitted with | _ progress d
    cases hq' : (c.run (turns'.headD [])).answerQuery i answers.submitted with | _ progress' d'
    rw [hq, hq'] at alike
    cases alike with
    | done statement => exact statement
    | fetch response columns =>
      exact (statement_finishQuery _ i columns _).trans (statement_finishQuery _ i columns _).symm

theorem statement_resultCursor (c : Connection) (i : Nat) :
    ((c.resultCursor i).settleAmid answers turns).result.map (Option.map CursorId.statement) =
      ((c.resultCursor i).settleAmid answers turns').result.map
        (Option.map CursorId.statement) := by
  unfold resultCursor
  split
  · rfl
  · next response columns d _ =>
    exact (statement_finishResult _ i columns _).trans (statement_finishResult _ i columns _).symm

/-- The statement of the cursor that is returned, if one is. -/
theorem returns_iff (r : Result (Option CursorId)) (i : Nat) :
    (∃ k, r = .ok (some ⟨i, k⟩)) ↔ r.map (Option.map CursorId.statement) = .ok (some i) := by
  rcases r with e | _ | ⟨j, k⟩
  · simp [Except.map]
  · simp [Except.map]
  · simp [Except.map]

/-- Whether an errand returns a cursor, and of which statement, does not depend on others. -/
theorem returns_settleAmid (c : Connection) (errand : Errand) (i : Nat) :
    (∃ k, (errand.settleAmid c answers turns).result = .ok (some ⟨i, k⟩)) ↔
      ∃ k, (errand.settleAmid c answers turns').result = .ok (some ⟨i, k⟩) := by
  have without {α : Type} (o : Outcome α) :
      ¬∃ k, (o.map fun _ => (none : Option CursorId)).result = .ok (some ⟨i, k⟩) := by
    obtain ⟨result, calls, d⟩ := o
    cases result <;> rintro ⟨k, h⟩ <;> exact nomatch h
  have opened {o o' : Outcome CursorId}
      (same : o.result.map CursorId.statement = o'.result.map CursorId.statement) :
      (o.map some).result.map (Option.map CursorId.statement) =
        (o'.map some).result.map (Option.map CursorId.statement) := by
    obtain ⟨result, calls, d⟩ := o
    obtain ⟨result', calls', d'⟩ := o'
    cases result <;> cases result' <;> simp_all [Outcome.map, Except.map]
  cases errand with
  | query what =>
    rw [returns_iff, returns_iff]
    cases what <;> exact Eq.congr_left (opened (statement_executeQuery answers turns turns' c _ _ _))
  | update what => exact iff_of_false (without _) (without _)
  | any what => exact iff_of_false (without _) (without _)
  | compile sql => exact iff_of_false (without _) (without _)
  | rows j =>
    rw [returns_iff, returns_iff]
    exact Eq.congr_left (statement_resultCursor answers turns turns' c j)

end

/-- **A close amid an errand leaves the cursor open that the errand returns, and no other.** So all
cursors of a statement that is closed by the end are closed precisely if the errand, left alone,
returns no cursor of that statement. -/
theorem strays_errand (config : ClientConfig) (server : Option String)
    (session : List (Operation × Answers)) (errand : Errand) (answers : Answers)
    (turns : List (List (Operation × Answers))) (i : Nat) :
    let c := (create config server).run session
    let o := errand.settleAmid c answers turns
    (o.connection.statement i).closed = true →
      (∀ k, (o.connection.statement i).isClosedCursor k = false ↔ o.result = .ok (some ⟨i, k⟩)) ∧
      ((∀ k, (o.connection.statement i).isClosedCursor k = true) ↔
        ¬∃ k, (errand.settleAmid c answers []).result = .ok (some ⟨i, k⟩)) := by
  intro c o closed
  have stray (k : Nat) : (o.connection.statement i).isClosedCursor k = false ↔
      o.result = .ok (some ⟨i, k⟩) := by
    have hc : c.Exact := exact_run config server session
    rw [strays_settleAmid answers turns hc errand i k closed]
    show o.result.toOption.join = some ⟨i, k⟩ ↔ _
    rcases o.result with e | _ | id
    · simp [Except.toOption]
    · simp [Except.toOption]
    · simp [Except.toOption]
  refine ⟨stray, ?_⟩
  rw [← returns_settleAmid answers turns [] c errand i, not_exists]
  refine forall_congr' fun k => ?_
  rw [← stray k, Bool.not_eq_false]

/-- A session with a statement that has run nothing yet. -/
def idleStatement : List (Operation × Answers) := [(.createStatement, rowService)]

/-- A query on that statement. -/
def rowQuery : Errand := .query (.text 0 "SELECT n FROM t")

theorem closedWhileFetching_strays :
    let c := (create .standard none).run idleStatement
    let o := rowQuery.settleAmid c rowService [[], [(.close, rowService)]]
    (o.connection.statement 0).closed = true ∧
    (∀ k, (o.connection.statement 0).isClosedCursor k = false ↔ o.result = .ok (some ⟨0, k⟩)) ∧
    ¬∀ k, (o.connection.statement 0).isClosedCursor k = true := by
  intro c o
  have closed : (o.connection.statement 0).closed = true := rfl
  have alone : (rowQuery.settleAmid c rowService []).result = .ok (some ⟨0, 0⟩) := rfl
  obtain ⟨stray, met⟩ := strays_errand .standard none idleStatement rowQuery rowService
    [[], [(.close, rowService)]] 0 closed
  exact ⟨closed, stray, fun all => met.mp all ⟨0, alone⟩⟩

/-- A statement that is closed while its query is with the service has an open cursor. -/
theorem closedWhileSubmitting_opens :
    let c := (create .standard none).run idleStatement
    let o := rowQuery.settleAmid c rowService [[(.closeStatement 0, rowService)]]
    o.result = .ok (some ⟨0, 0⟩) ∧ (o.connection.statement 0).closed = true ∧
      (o.connection.statement 0).isClosedCursor 0 = false := by
  intro c o
  exact ⟨rfl, rfl, rfl⟩

end Connection

end QueryClient
