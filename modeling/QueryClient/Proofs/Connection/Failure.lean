import QueryClient.Proofs.Connection.Completion

/-!
# What a failed execution leaves behind

An execution may be refused at once, the service may fail to answer it, the response may be of the
wrong category, and a query may fail when a cursor is to be made of its response. `Failed` lists all
that can go wrong once something has been submitted. None of it brings a cursor, and only the last
leaves anything of the response behind. A statement that cannot be compiled leaves the registry of
its connection as it was. Main statement: `failure_leaves`.
-/

namespace QueryClient

/-- Whether an execution for a purpose takes a response. -/
def Purpose.accepts (r : QueryResponse) : Purpose → Bool
  | .query => r.isQuery
  | .update => !r.isQuery
  | .any | .compile => true

/-- The cursors of a statement and its registries. -/
def Statement.holdings (s : Statement) : List Cursor × List Nat × List Nat :=
  (s.cursors, s.networkCursors, s.memoryCursors)

namespace Connection

variable {c : Connection} {answers : Answers} {e : ClientError}

/-! ## Executions -/

/-- How an execution on statement `i` fails that has been submitted, and what it leaves behind. -/
inductive Failed (c : Connection) (i : Nat) (purpose : Purpose) (answers : Answers)
    (e : ClientError) (d : Connection) : Prop where
  /-- It is not answered, or not with what it is for. -/
  | early (refused : answers.submitted = .error e ∨
        ∃ r, answers.submitted = .ok r ∧ purpose.accepts r = false)
      (left : d = c.endExecution i)
  /-- No cursor can be made of the response to a query. -/
  | late (r : QueryResponse) (query : purpose = .query) (submitted : answers.submitted = .ok r)
      (accepted : purpose.accepts r = true)
      (why : r.opening = .error e ∨
        ∃ columns, r.opening = .ok (.fetch columns) ∧ answers.fetched = .error e)
      (left : d = (c.modifyStatement i fun s => s.recordOutcome r none none).endExecution i)

theorem failed_answerUpdate (i : Nat) (h : (c.answerUpdate i answers.submitted).1 = .error e) :
    Failed c i .update answers e (c.answerUpdate i answers.submitted).2 := by
  unfold answerUpdate at h ⊢
  cases hs : answers.submitted with
  | error e' =>
    rw [hs] at h
    cases h
    exact .early (Or.inl hs) rfl
  | ok r =>
    simp only [hs] at h ⊢
    split at h
    · next hq =>
      rw [if_pos hq]
      exact .early (Or.inr ⟨r, hs, by rw [Purpose.accepts, hq]; rfl⟩) rfl
    · cases h

theorem failed_answerAny (i : Nat) (h : (c.answerAny i answers.submitted).1 = .error e) :
    Failed c i .any answers e (c.answerAny i answers.submitted).2 := by
  unfold answerAny at h ⊢
  cases hs : answers.submitted with
  | error e' =>
    rw [hs] at h
    cases h
    exact .early (Or.inl hs) rfl
  | ok r =>
    simp only [hs] at h
    split at h <;> cases h

theorem failed_queryAnswered (i : Nat)
    (h : ((c.queryAnswered i answers.submitted).settle answers).result = .error e) :
    Failed c i .query answers e
      ((c.queryAnswered i answers.submitted).settle answers).connection := by
  unfold queryAnswered answerQuery at h ⊢
  cases hs : answers.submitted with
  | error e' =>
    rw [hs] at h
    cases h
    exact .early (Or.inl hs) rfl
  | ok r =>
    rw [hs] at h
    by_cases hq : r.isQuery = true
    · simp only [hq, if_true] at h ⊢
      cases ho : r.opening with
      | error e' =>
        rw [ho] at h
        cases h
        exact .late r rfl hs hq (Or.inl ho) rfl
      | ok opening =>
        cases opening with
        | memory columns rows =>
          rw [ho] at h
          cases h
        | fetch columns =>
          rw [ho] at h
          cases hf : answers.fetched with
          | error e' =>
            simp only [Dialogue.settle, Dialogue.ended, finishQuery, openNetworkCursor, hf] at h ⊢
            cases h
            exact .late r rfl hs hq (Or.inr ⟨columns, ho, hf⟩) rfl
          | ok elements =>
            simp only [Dialogue.settle, Dialogue.ended, finishQuery, openNetworkCursor, hf] at h
            cases h
    · simp only [hq] at h ⊢
      exact .early (Or.inr ⟨r, hs, Bool.eq_false_iff.mpr hq⟩) rfl

/-- What has been submitted fails as its answers do. -/
theorem failed_of_runs {α : Type} {op : Operation} {q : Request} {d : Dialogue α}
    {next : Nat → Connection → Result QueryResponse → Dialogue α} (runs : Runs c op d next)
    (request : c.request? op = some q) (submits : c.submits? op ≠ none)
    (fails : (d.forget.settle answers).result = .error e)
    (failed : ((next q.statement c answers.submitted).settle answers).result = .error e →
      Failed c q.statement q.purpose answers e
        ((next q.statement c answers.submitted).settle answers).connection) :
    Failed c q.statement q.purpose answers e (d.forget.settle answers).connection := by
  obtain ⟨result, connection⟩ := Dialogue.settle_of_forget_fails fails
  rw [connection]
  cases runs with
  | refused e' none dialogue => exact absurd none submits
  | submitted submission i sends executes there token dialogue =>
    obtain rfl : q.statement = i := by
      rw [Connection.executes, sends, request] at executes
      exact Option.some.inj executes
    rw [dialogue] at result ⊢
    exact failed result

/-- Every execution that fails does so in one of these ways. -/
theorem failed_of_submits {op : Operation} {q : Request} (request : c.request? op = some q)
    (runs : q.purpose ≠ .compile) (submits : c.submits? op ≠ none)
    (fails : ((c.dialogue op).settle answers).result = .error e) :
    Failed c q.statement q.purpose answers e ((c.dialogue op).settle answers).connection := by
  cases op with
  | executeQuery what =>
    refine failed_of_runs (c.runs_executeQuery what) request submits fails fun result => ?_
    cases request
    rw [what.purpose_request]
    exact failed_queryAnswered _ result
  | executeUpdate what =>
    refine failed_of_runs (c.runs_executeUpdate what) request submits fails fun result => ?_
    cases request
    rw [what.purpose_request]
    exact failed_answerUpdate _ result
  | execute what =>
    refine failed_of_runs (c.runs_execute what) request submits fails fun result => ?_
    cases request
    rw [what.purpose_request]
    exact failed_answerAny _ result
  | prepare sql =>
    cases request
    exact absurd rfl runs
  | _ => cases request

/-- What is refused leaves no trace. -/
theorem settle_of_refused {op : Operation} {q : Request} (answers : Answers)
    (request : c.request? op = some q) (refused : c.submits? op = none) :
    ∃ e, (c.dialogue op).settle answers = ⟨.error e, [], c⟩ := by
  have trace {α : Type} {d : Dialogue α}
      {next : Nat → Connection → Result QueryResponse → Dialogue α} (runs : Runs c op d next) :
      ∃ e, d.forget.settle answers = ⟨.error e, [], c⟩ := by
    cases runs with
    | refused e none dialogue =>
      rw [dialogue]
      exact ⟨e, rfl⟩
    | submitted submission i sends =>
      rw [refused] at sends
      cases sends
  cases op with
  | executeQuery what => exact trace (c.runs_executeQuery what)
  | executeUpdate what => exact trace (c.runs_executeUpdate what)
  | execute what => exact trace (c.runs_execute what)
  | prepare sql =>
    cases hc : c.closed with
    | true =>
      rw [dialogue, prepare_of_closed hc]
      exact ⟨closedError, rfl⟩
    | false =>
      obtain ⟨submission, -, submits, -⟩ := prepare_of_open hc sql
      rw [refused] at submits
      cases submits
  | _ => cases request

theorem isPrepare_iff_of_request {op : Operation} {q : Request} (request : c.request? op = some q) :
    op.isPrepare = true ↔ q.purpose = .compile := by
  cases op with
  | executeQuery what | executeUpdate what | execute what =>
    cases request
    rw [what.purpose_request]
    exact iff_of_false nofun nofun
  | prepare sql =>
    cases request
    exact iff_of_true rfl rfl
  | _ => cases request

theorem executeQuery_of_request {op : Operation} {q : Request} (request : c.request? op = some q)
    (query : q.purpose = .query) : ∃ what, op = .executeQuery what := by
  cases op with
  | executeQuery what => exact ⟨what, rfl⟩
  | executeUpdate what | execute what =>
    cases request
    rw [what.purpose_request] at query
    cases query
  | prepare sql =>
    cases request
    cases query
  | _ => cases request

/-- What is asked for is refused if something is closed: the connection or, unless it is created
only now, the statement. -/
theorem submits_eq_none_iff {op : Operation} {q : Request} (request : c.request? op = some q) :
    c.submits? op = none ↔
      c.closed = true ∨ op.isPrepare = false ∧ (c.statement q.statement).closed = true := by
  have asked (ready : c.ready op = c) : c.submits? op = none ↔
      c.closed = true ∨ (c.statement q.statement).closed = true := by
    rw [submits?, request, ready]
    show (c.submission _ _ _ _).toOption = none ↔ _
    unfold Connection.submission
    simp only
    split
    · next hs => exact iff_of_true rfl (Or.inr hs)
    · next hs =>
      split
      · next hc => exact iff_of_true rfl (Or.inl hc)
      · next hc => exact iff_of_false (Option.some_ne_none _) (not_or.mpr ⟨hc, hs⟩)
  cases op with
  | executeQuery what | executeUpdate what | execute what =>
    exact (asked rfl).trans (or_congr_right (and_iff_right rfl).symm)
  | prepare sql =>
    cases hc : c.closed with
    | true => exact iff_of_true (submits_prepare_of_closed hc sql) (Or.inl rfl)
    | false =>
      obtain ⟨submission, -, submits, -⟩ := prepare_of_open hc sql
      rw [submits]
      refine iff_of_false (Option.some_ne_none _) (not_or.mpr ⟨Bool.false_ne_true, fun h => ?_⟩)
      exact Bool.false_ne_true h.1.symm
  | _ => cases request

/-! ## What is left -/

theorem holdings_endExecution (c : Connection) (i j : Nat) :
    ((c.endExecution i).statement j).holdings = (c.statement j).holdings :=
  apply_modifyStatement Statement.holdings c.drawToken.2 i
    (fun s => { s with token := c.nextToken }) (fun _ => rfl) j

theorem statement_endExecution {i : Nat} (hi : i < c.statements.length) :
    (c.endExecution i).statement i = { c.statement i with token := c.nextToken } :=
  statement_modifyStatement (c := c.drawToken.2) hi _

theorem Failed.holdings {i : Nat} {purpose : Purpose} {d : Connection}
    (h : Failed c i purpose answers e d) (j : Nat) :
    (d.statement j).holdings = (c.statement j).holdings := by
  cases h with
  | early refused left =>
    rw [left]
    exact holdings_endExecution c i j
  | late r query submitted accepted why left =>
    rw [left, holdings_endExecution]
    exact apply_modifyStatement Statement.holdings c i
      (fun s => s.recordOutcome r none none) (fun _ => rfl) j

theorem Failed.statement_of_ne {i : Nat} {purpose : Purpose} {d : Connection}
    (h : Failed c i purpose answers e d) {j : Nat} (hj : j ≠ i) :
    d.statement j = c.statement j := by
  cases h with
  | early refused left =>
    rw [left]
    exact (extends_endExecution c i).statement hj
  | late r query submitted accepted why left =>
    rw [left]
    exact ((extends_recordOutcome c i r none none).trans (extends_endExecution _ i)).statement hj

/-- The statement of a failed execution has a new token and, if the response has got that far, what
is recorded of a query. -/
theorem Failed.statement {i : Nat} {purpose : Purpose} {d : Connection}
    (h : Failed c i purpose answers e d) (hi : i < c.statements.length) :
    (answers.submitted = .error e ∨
        ∃ r, answers.submitted = .ok r ∧ purpose.accepts r = false) ∧
      d.statement i = { c.statement i with token := c.nextToken } ∨
    ∃ r, purpose = .query ∧ answers.submitted = .ok r ∧ purpose.accepts r = true ∧
      (r.opening = .error e ∨
        ∃ columns, r.opening = .ok (.fetch columns) ∧ answers.fetched = .error e) ∧
      d.statement i =
        { (c.statement i).recordOutcome r none none with token := c.nextToken } := by
  cases h with
  | early refused left =>
    rw [left]
    exact Or.inl ⟨refused, statement_endExecution hi⟩
  | late r query submitted accepted why left =>
    refine Or.inr ⟨r, query, submitted, accepted, why, ?_⟩
    have recorded : i < (c.modifyStatement i
        fun s => s.recordOutcome r none none).statements.length := by
      rw [modifyStatement, length_putStatement]
      exact hi
    rw [left, statement_endExecution recorded, statement_modifyStatement hi]
    rfl

/-! ### Preparing in vain -/

/-- A new statement has been compiled on, and closed. -/
def compiledInVain (c : Connection) : Connection :=
  (c.addStatement.2.endExecution c.statements.length).closeStatement c.statements.length

/-- A statement that cannot be compiled comes closed. -/
theorem prepare_of_fails {sql : String} (hc : c.closed = false)
    (fails : ((c.dialogue (.prepare sql)).settle answers).result = .error e) :
    ((c.dialogue (.prepare sql)).settle answers).connection = c.compiledInVain := by
  obtain ⟨submission, -, -, prepared⟩ := prepare_of_open hc sql
  obtain ⟨result, connection⟩ := Dialogue.settle_of_forget_fails fails
  rw [prepared] at result
  rw [dialogue, connection, prepared]
  simp only [Dialogue.settle, Dialogue.ended] at result ⊢
  rcases finishPrepare_closes_or_keeps (c.addStatement.2.endExecution c.statements.length)
    c.statements.length sql answers.submitted with ⟨e', failed⟩ | ⟨p, d, made, -⟩
  · rw [failed]
    rfl
  · rw [made] at result
    cases result

/-- A new statement whose execution has ended. -/
theorem statement_created (c : Connection) :
    (c.addStatement.2.endExecution c.statements.length).statement c.statements.length =
      { Statement.create c.nextToken with token := c.nextToken + 1 } := by
  have there : c.statements.length < c.addStatement.2.statements.length :=
    c.length_addStatement ▸ Nat.lt_succ_self _
  rw [statement_endExecution there, statement_addStatement, if_pos rfl]
  rfl

/-- But for its token, the new statement looks like a missing one, and the others are as they
were. -/
theorem statement_compiledInVain (c : Connection) (j : Nat) : c.compiledInVain.statement j =
    if j = c.statements.length then { noStatement with token := c.nextToken + 1 }
    else c.statement j := by
  unfold compiledInVain
  split
  · next hj =>
    have there : c.statements.length <
        (c.addStatement.2.endExecution c.statements.length).statements.length := by
      refine lt_of_open ?_
      rw [statement_created]
      rfl
    rw [hj, closeStatement, statement_modifyStatement there, statement_created]
    rfl
  · next hj =>
    rw [closeStatement, modifyStatement, statement_putStatement_of_ne (Ne.symm hj),
      (extends_endExecution _ _).statement hj, statement_addStatement, if_neg hj]

theorem holdings_compiledInVain (c : Connection) (j : Nat) :
    (c.compiledInVain.statement j).holdings = (c.statement j).holdings := by
  rw [statement_compiledInVain]
  split
  · next hj =>
    rw [hj, statement_of_length_le (Nat.le_refl _)]
    rfl
  · rfl

/-- The new statement has left the registry. -/
theorem registry_compiledInVain (tracks : c.Tracks) : c.compiledInVain.registry = c.registry := by
  have new : c.statements.length ∉ c.registry := by
    rw [tracks.registered]
    exact fun isOpen => absurd (lt_of_open isOpen) (Nat.lt_irrefl _)
  have created : (c.addStatement.2.endExecution c.statements.length).registry =
      c.registry ++ [c.statements.length] := by
    have isOpen : (c.addStatement.2.statement c.statements.length).closed = false := by
      rw [statement_addStatement, if_pos rfl]
      rfl
    exact if_neg (Bool.eq_false_iff.mp isOpen)
  show (if _ then _ else _) = _
  rw [Statement.closed_close, if_pos rfl, created, List.filter_append]
  have kept : c.registry.filter (· ≠ c.statements.length) = c.registry := by
    refine List.filter_eq_self.mpr fun i hi => decide_eq_true ?_
    rintro rfl
    exact new hi
  have struck : [c.statements.length].filter (· ≠ c.statements.length) = [] := by simp
  rw [kept, struck, List.append_nil]

/-- **What a failure leaves behind**, whatever has been done before. No failed execution brings a
cursor or touches a registry, nor any statement but its own. What is refused leaves everything as it
was. What is not answered, or not with what it is for, leaves a new token behind and nothing else. A
query that fails later leaves the warnings of its response behind as well, and neither an update
count nor a pending response. Preparing in vain leaves the registry of the connection as it was. -/
theorem failure_leaves (config : ClientConfig) (server : Option String) (turns : List Turn)
    (op : Operation) {q : Request} {answers : Answers} {e : ClientError} :
    let c := ((Shared.create config server).run turns).connection
    let o := (c.dialogue op).settle answers
    let s := c.statement q.statement
    c.request? op = some q → o.result = .error e →
      (∀ j, (o.connection.statement j).holdings = (c.statement j).holdings) ∧
      (∀ j, j ≠ q.statement → o.connection.statement j = c.statement j) ∧
      (c.closed = true ∨ op.isPrepare = false ∧ s.closed = true →
        o.calls = [] ∧ o.connection = c) ∧
      (op.isPrepare = false → c.closed = false → s.closed = false → c.nextToken ∉ c.tokens ∧
        ((answers.submitted = .error e ∨
            ∃ r, answers.submitted = .ok r ∧ q.purpose.accepts r = false) ∧
          o.connection.statement q.statement = { s with token := c.nextToken } ∨
        ∃ what r, op = .executeQuery what ∧ answers.submitted = .ok r ∧ r.isQuery = true ∧
          (r.opening = .error e ∨
            ∃ columns, r.opening = .ok (.fetch columns) ∧ answers.fetched = .error e) ∧
          o.connection.statement q.statement = { s with
            token := c.nextToken
            warnings := r.warningList
            updateCount := none
            pending := none })) ∧
      (op.isPrepare = true → o.connection.registry = c.registry) := by
  intro c o s request fails
  have tracks : c.Tracks := (Shared.watched_run config server turns).tracks
  have fresh : c.Fresh := (Shared.orderly_run config server turns).traced.fresh
  have refusal := submits_eq_none_iff request
  cases hs : c.submits? op with
  | none =>
    obtain ⟨e', refused⟩ := settle_of_refused answers request hs
    have left : o.connection = c := congrArg Outcome.connection refused
    rw [left]
    refine ⟨fun _ => rfl, fun _ _ => rfl, fun _ => ⟨congrArg Outcome.calls refused, rfl⟩, ?_,
      fun _ => rfl⟩
    intro _ connection statement
    rcases refusal.mp hs with closed | ⟨-, closed⟩
    · rw [connection] at closed
      cases closed
    · rw [show (c.statement q.statement).closed = false from statement] at closed
      cases closed
  | some submission =>
    have submits : c.submits? op ≠ none := hs ▸ nofun
    have sent {p : Prop} (closed : c.closed = true ∨ op.isPrepare = false ∧ s.closed = true) : p :=
      absurd (refusal.mpr closed) submits
    cases hp : op.isPrepare with
    | false =>
      have runs : q.purpose ≠ .compile := by
        rw [ne_eq, ← isPrepare_iff_of_request request, hp]
        exact nofun
      have failed : Failed c q.statement q.purpose answers e o.connection :=
        failed_of_submits request runs submits fails
      refine ⟨failed.holdings, fun j => failed.statement_of_ne, fun closed => sent (hp ▸ closed),
        fun _ _ isOpen => ⟨fresh.nextToken_not_mem, ?_⟩, nofun⟩
      refine (failed.statement (lt_of_open isOpen)).imp_right ?_
      rintro ⟨r, query, submitted, accepted, why, left⟩
      obtain ⟨what, asks⟩ := executeQuery_of_request request query
      rw [query] at accepted
      exact ⟨what, r, asks, submitted, accepted, why, left⟩
    | true =>
      cases op with
      | prepare sql =>
        cases request
        have isOpen : c.closed = false := Bool.eq_false_iff.mpr fun hc => sent (Or.inl hc)
        have left : o.connection = _ := prepare_of_fails isOpen fails
        rw [left]
        refine ⟨holdings_compiledInVain c, fun j hj => ?_, fun closed => sent closed, nofun,
          fun _ => registry_compiledInVain tracks⟩
        rw [statement_compiledInVain, if_neg hj]
      | _ => cases hp

/-- A statement with a pending response, for which another query is sent whose rows cannot be
had. -/
def unfetched : List Turn :=
  [.start .createStatement, .start (.execute (.text 0 "SELECT n FROM t")), .answer 0 rowService]

/-- The service answers, but does not send any rows. -/
def rowlessService : Answers := { rowService with fetched := .error (.closed "result") }

theorem unfetched_leaves :
    let c := ((Shared.create .standard none).run unfetched).connection
    let o := (c.dialogue (.executeQuery (.text 0 "SELECT m FROM t"))).settle rowlessService
    (c.statement 0).pending.isSome = true ∧ (o.connection.statement 0).pending = none ∧
      (o.connection.statement 0).cursors = [] := by
  intro c o
  have fails : o.result = .error (.closed "result") := rfl
  obtain ⟨holdings, -, -, left, -⟩ := failure_leaves .standard none unfetched
    (.executeQuery (.text 0 "SELECT m FROM t")) rfl fails
  obtain ⟨-, ⟨refused | ⟨r, submitted, rejected⟩, -⟩ | ⟨what, r, -, -, -, -, recorded⟩⟩ :=
    left rfl rfl rfl
  · cases refused
  · cases submitted
    cases rejected
  · exact ⟨rfl, congrArg Statement.pending recorded, congrArg Prod.fst (holdings 0)⟩

end Connection

end QueryClient
