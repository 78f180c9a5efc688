import Mathlib.Data.List.Nodup
import QueryClient.Proofs.Connection.Frame

/-!
# When tokens are drawn

A statement gets its first token when it is created and another one whenever an execution of it
ends, be it well or not. No other operation draws one. What an execution submits carries the token
that its statement has when it starts. `Course` is what may become of an operation as far as all
this goes, and `course` says that there is nothing else.
-/

namespace QueryClient

/-- Whether an operation is the setting of something that is sent. -/
def Operation.isSetter : Operation → Bool
  | .setDataverse _ | .bindParam _ _ _ | .clearParams _ => true
  | .set _ setting => Statement.isSent setting
  | _ => false

/-- Whether an operation prepares a statement. -/
def Operation.isPrepare : Operation → Bool
  | .prepare _ => true
  | _ => false

namespace Connection

/-- The tokens are as they were, or a statement has come with the next one. -/
def Drawn (c d : Connection) : Prop :=
  (d.tokens = c.tokens ∧ d.nextToken = c.nextToken) ∨
    (d.tokens = c.tokens ++ [c.nextToken] ∧ d.nextToken = c.nextToken + 1)

/-- Nothing has changed that submissions are made of, but that a statement may have come. -/
structure Grown (c d : Connection) : Prop where
  settings : d.settings = c.settings
  prepared : d.prepared = c.prepared
  drawn : Drawn c d

/-- An execution of statement `i` has ended, and the statement has got the next token. -/
structure Renewed (i : Nat) (c d : Connection) : Prop where
  settings : d.settings = c.settings
  tokens : d.tokens = c.tokens.set i c.nextToken
  nextToken : d.nextToken = c.nextToken + 1

theorem Steady.grown {c d : Connection} (h : Steady c d) : Grown c d :=
  ⟨h.settings, h.prepared, Or.inl ⟨h.tokens, h.nextToken⟩⟩

theorem Grown.refl (c : Connection) : Grown c c := (Steady.refl c).grown

theorem Grown.steady {c d e : Connection} (h : Grown c d) (h' : Steady d e) : Grown c e where
  settings := h'.settings.trans h.settings
  prepared := h'.prepared.trans h.prepared
  drawn := by
    unfold Drawn
    rw [h'.tokens, h'.nextToken]
    exact h.drawn

theorem Steady.renewed {i : Nat} {c d e : Connection} (h : Steady c d) (h' : Renewed i d e) :
    Renewed i c e where
  settings := h'.settings.trans h.settings
  tokens := by rw [h'.tokens, h.tokens, h.nextToken]
  nextToken := by rw [h'.nextToken, h.nextToken]

theorem Renewed.steady {i : Nat} {c d e : Connection} (h : Renewed i c d) (h' : Steady d e) :
    Renewed i c e where
  settings := h'.settings.trans h.settings
  tokens := h'.tokens.trans h.tokens
  nextToken := h'.nextToken.trans h.nextToken

/-! ## Tokens are drawn once -/

/-- The tokens of the statements are different, and none of them will be drawn again. -/
structure Fresh (c : Connection) : Prop where
  nodup : c.tokens.Nodup
  lt : ∀ token ∈ c.tokens, token < c.nextToken

section Fresh

variable {c d : Connection} {i : Nat} {token : Token}

theorem fresh_create (config : ClientConfig) (server : Option String) :
    (create config server).Fresh :=
  ⟨List.nodup_nil, nofun⟩

/-- The next token is a new one. -/
theorem Fresh.nextToken_not_mem (fresh : c.Fresh) : c.nextToken ∉ c.tokens :=
  fun hmem => absurd (fresh.lt _ hmem) (Nat.lt_irrefl _)

theorem Fresh.drawn (fresh : c.Fresh) (h : Drawn c d) : d.Fresh := by
  rcases h with ⟨tokens, nextToken⟩ | ⟨tokens, nextToken⟩
  · exact ⟨tokens ▸ fresh.nodup, tokens ▸ nextToken ▸ fresh.lt⟩
  · refine ⟨?_, ?_⟩
    · rw [tokens, ← List.concat_eq_append]
      exact fresh.nodup.concat fresh.nextToken_not_mem
    · intro t ht
      rw [tokens] at ht
      rw [nextToken]
      rcases List.mem_append.mp ht with ht | ht
      · exact Nat.lt_succ_of_lt (fresh.lt t ht)
      · rw [List.mem_singleton.mp ht]
        exact Nat.lt_succ_self _

theorem Fresh.renewed (fresh : c.Fresh) (h : Renewed i c d) : d.Fresh := by
  refine ⟨?_, ?_⟩
  · rw [h.tokens]
    exact fresh.nodup.set fresh.nextToken_not_mem
  · intro t ht
    rw [h.tokens] at ht
    rw [h.nextToken]
    rcases List.mem_or_eq_of_mem_set ht with ht | rfl
    · exact Nat.lt_succ_of_lt (fresh.lt t ht)
    · exact Nat.lt_succ_self _

/-- Different statements have different tokens. -/
theorem Fresh.eq_of_getElem? (fresh : c.Fresh) {j : Nat} (hi : c.tokens[i]? = some token)
    (hj : c.tokens[j]? = some token) : i = j := by
  obtain ⟨hlt, -⟩ := List.getElem?_eq_some_iff.mp hi
  exact (List.getElem?_inj hlt fresh.nodup).mp (hi.trans hj.symm)

/-- Which statement has an old token is what it was. -/
theorem Drawn.getElem?_iff (h : Drawn c d) (old : token < c.nextToken) (j : Nat) :
    d.tokens[j]? = some token ↔ c.tokens[j]? = some token := by
  rcases h with ⟨tokens, -⟩ | ⟨tokens, -⟩
  · rw [tokens]
  · rw [tokens, List.getElem?_append]
    split
    · rfl
    · next beyond =>
      rw [List.getElem?_eq_none (Nat.le_of_not_lt beyond)]
      refine iff_of_false ?_ nofun
      intro h
      have new := List.mem_of_getElem? h
      exact absurd old (by rw [List.mem_singleton.mp new]; exact Nat.lt_irrefl _)

/-- Which statement has an old token is what it was, but the renewed one has none any more. -/
theorem Renewed.getElem?_iff (h : Renewed i c d) (old : token < c.nextToken) (j : Nat) :
    d.tokens[j]? = some token ↔ c.tokens[j]? = some token ∧ j ≠ i := by
  rw [h.tokens, List.getElem?_set']
  split
  · next hij =>
    refine iff_of_false ?_ fun h => h.2 hij.symm
    intro h
    obtain ⟨_, _, new⟩ := Option.map_eq_some_iff.mp h
    exact absurd old (new ▸ Nat.lt_irrefl _)
  · next hij => exact (and_iff_left fun h => hij h.symm).symm

theorem Drawn.nextToken_le (h : Drawn c d) : c.nextToken ≤ d.nextToken := by
  rcases h with ⟨-, nextToken⟩ | ⟨-, nextToken⟩
  · exact Nat.le_of_eq nextToken.symm
  · exact nextToken ▸ Nat.le_succ _

theorem Drawn.length_le (h : Drawn c d) : c.tokens.length ≤ d.tokens.length := by
  rcases h with ⟨tokens, -⟩ | ⟨tokens, -⟩
  · exact Nat.le_of_eq (congrArg List.length tokens.symm)
  · rw [tokens, List.length_append]
    exact Nat.le_add_right _ _

theorem Renewed.nextToken_le (h : Renewed i c d) : c.nextToken ≤ d.nextToken :=
  h.nextToken ▸ Nat.le_succ _

end Fresh

/-! ## Statements that come -/

/-- A new statement looks like a missing one in most respects. -/
theorem apply_addStatement {β : Type} (look : Statement → β) (c : Connection)
    (h : look (Statement.create c.nextToken) = look noStatement) (j : Nat) :
    look (c.addStatement.2.statement j) = look (c.statement j) := by
  rw [statement_addStatement]
  split
  · next hj => rw [h, hj, statement_of_length_le (Nat.le_refl _)]
  · rfl

theorem grown_addStatement (c : Connection) : Grown c c.addStatement.2 where
  settings := by
    have timeouts := apply_addStatement Statement.timeout c rfl
    exact congrArg (fun timeout => (c.dataverse, c.sqlCompat, timeout)) (funext timeouts)
  prepared := rfl
  drawn := Or.inr ⟨List.map_append, rfl⟩

theorem grown_createStatement (c : Connection) : Grown c c.createStatement.2 := by
  unfold createStatement
  split
  · exact .refl c
  · exact grown_addStatement c

theorem grown_openCatalog (c : Connection) : Grown c c.openCatalog.2 := by
  have noted (d : Connection) (i : Nat) : Steady d { d with catalog := some i } :=
    ⟨rfl, rfl, rfl, rfl⟩
  unfold openCatalog
  split
  · exact .refl c
  · split
    · exact .refl c
    · exact (grown_addStatement c).steady (noted _ _)

theorem grown_catalogCursor (c : Connection) (columns : List Column) (rows : List Row) :
    Grown c (c.catalogCursor columns rows).2 := by
  have opened := grown_openCatalog c
  unfold catalogCursor
  split
  · next heq => rwa [heq] at opened
  · next i d heq =>
    rw [heq] at opened
    split
    · exact opened
    · exact opened.steady (frame_memoryCursor d i columns rows).toSteady

/-! ## Cursors over fetched rows -/

theorem steady_openNetworkCursor (c : Connection) (i : Nat) (columns : List Column)
    (fetched : Result ElementStream) : Steady c (c.openNetworkCursor i columns fetched).2 := by
  unfold openNetworkCursor
  split
  · exact .refl c
  · next elements =>
    obtain ⟨token, timeout, -⟩ := (c.statement i).register_eq columns (.stream elements)
      (c.statement i).maxRows
    exact steady_putStatement token timeout

theorem steady_setCurrent (c : Connection) (id : CursorId) : Steady c (c.setCurrent id) :=
  steady_putStatement rfl rfl

theorem steady_takeResult (c : Connection) (i : Nat) : Steady c (c.takeResult i).2 := by
  have taken : Steady c (c.modifyStatement i fun s => { s with pending := none }) :=
    steady_putStatement rfl rfl
  unfold takeResult
  simp only
  split
  · exact .refl c
  · split
    · exact .refl c
    · split
      · exact taken
      · next columns rows _ =>
        exact (taken.trans (frame_memoryCursor _ i columns rows).toSteady).trans
          (steady_setCurrent _ _)
      · exact taken

theorem steady_finishResult (c : Connection) (i : Nat) (columns : List Column)
    (fetched : Result ElementStream) : Steady c (c.finishResult i columns fetched).2 := by
  have opened := steady_openNetworkCursor c i columns fetched
  unfold finishResult
  split
  · next heq => rwa [heq] at opened
  · next heq =>
    rw [heq] at opened
    exact opened.trans (steady_setCurrent _ _)

theorem goes_resultCursor (c : Connection) (i : Nat) :
    (c.resultCursor i).Goes Steady Steady c := by
  have taken := steady_takeResult c i
  unfold resultCursor
  split
  · next heq => rwa [heq] at taken
  · next response columns d heq =>
    rw [heq] at taken
    refine ⟨taken, ?_⟩
    intro e fetched
    exact steady_finishResult e i columns fetched

/-! ## Executions that end -/

theorem renewed_endExecution (c : Connection) (i : Nat) : Renewed i c (c.endExecution i) := by
  refine ⟨?_, ?_, rfl⟩
  · exact settings_putStatement (c := c.drawToken.2) rfl
  · exact tokens_putStatement c.drawToken.2 i _

theorem steady_recordOutcome (c : Connection) (i : Nat) (r : QueryResponse)
    (updateCount : Option Int) (pending : Option QueryResponse) :
    Steady c (c.modifyStatement i fun s => s.recordOutcome r updateCount pending) :=
  steady_putStatement rfl rfl

/-- The end of an execution that leaves the prepared statements as they are. -/
structure Ended (i : Nat) (c d : Connection) : Prop extends Renewed i c d where
  prepared : d.prepared = c.prepared

theorem Steady.ended {c d : Connection} (h : Steady c d) (i : Nat) :
    Ended i c (d.endExecution i) :=
  { h.renewed (renewed_endExecution d i) with prepared := h.prepared }

theorem ended_answerUpdate (c : Connection) (i : Nat) (answer : Result QueryResponse) :
    Ended i c (c.answerUpdate i answer).2 := by
  unfold answerUpdate
  split
  · exact (Steady.refl c).ended i
  · split
    · exact (Steady.refl c).ended i
    · exact (steady_recordOutcome c i _ _ _).ended i

theorem ended_answerAny (c : Connection) (i : Nat) (answer : Result QueryResponse) :
    Ended i c (c.answerAny i answer).2 := by
  unfold answerAny
  split
  · exact (Steady.refl c).ended i
  · split
    · exact (steady_recordOutcome c i _ _ _).ended i
    · exact (steady_recordOutcome c i _ _ _).ended i

/-- How a query goes on with the answer to it. -/
def queryAnswered (c : Connection) (i : Nat) (answer : Result QueryResponse) : Dialogue CursorId :=
  match c.answerQuery i answer with
  | (.done result, c) => .done result c
  | (.fetch response columns, c) =>
    .fetch response c fun c fetched => .ended (c.finishQuery i columns fetched)

theorem executeQuery_of_submission {c : Connection} {i : Nat} {sql : String} {params : List Param}
    {submission : Submission} (h : c.submission i .query sql params = .ok submission) :
    c.executeQuery i sql params =
      .submit submission c fun c answer => c.queryAnswered i answer := by
  rw [executeQuery, h]
  rfl

theorem goes_queryAnswered (c : Connection) (i : Nat) (answer : Result QueryResponse) :
    (c.queryAnswered i answer).Goes Steady (Ended i) c := by
  unfold queryAnswered answerQuery
  cases answer with
  | error e => exact (Steady.refl c).ended i
  | ok r =>
    by_cases hq : r.isQuery = true
    · have recorded := steady_recordOutcome c i r none none
      simp only [hq, if_true]
      cases r.opening with
      | error e => exact recorded.ended i
      | ok opening =>
        cases opening with
        | memory columns rows =>
          exact (recorded.trans (frame_memoryCursor _ i columns rows).toSteady).ended i
        | fetch columns =>
          refine ⟨recorded, ?_⟩
          intro d fetched
          exact (steady_openNetworkCursor d i columns fetched).ended i
    · simp only [hq]
      exact (Steady.refl c).ended i

/-- What has been compiled may add a prepared statement, and a failure closes the statement. -/
theorem renewed_finishPrepare (c : Connection) (i : Nat) (sql : String)
    (answer : Result QueryResponse) :
    Renewed i c ((c.endExecution i).finishPrepare i sql answer).2 := by
  have renewed := renewed_endExecution c i
  unfold finishPrepare
  split
  · exact renewed.steady (frame_closeStatement _ i).toSteady
  · exact ⟨renewed.settings, renewed.tokens, renewed.nextToken⟩

/-! ## Operations -/

/-- The statement that an operation has executed, unless it is refused. -/
def executes (c : Connection) (op : Operation) : Option Nat :=
  (c.submits? op).bind fun _ => (c.request? op).map Request.statement

theorem token_of_submission {c : Connection} {i : Nat} {purpose : Purpose} {sql : String}
    {params : List Param} {submission : Submission}
    (h : c.submission i purpose sql params = .ok submission) :
    c.tokens[i]? = some submission.token := by
  have there : i < c.statements.length := lt_of_open (open_of_submission h)
  unfold Connection.submission at h
  simp only at h
  split at h
  · cases h
  · split at h
    · cases h
    · cases h
      unfold tokens statement
      rw [List.getElem?_map, List.getElem?_eq_getElem there]
      rfl

/-- What becomes of something that is to be executed: it is refused without a trace, or its
submission is the first thing that is done. -/
inductive Runs {α : Type} (c : Connection) (op : Operation) (d : Dialogue α)
    (next : Nat → Connection → Result QueryResponse → Dialogue α) : Prop where
  | refused (e : ClientError) (submits : c.submits? op = none) (dialogue : d = .done (.error e) c)
  | submitted (submission : Submission) (i : Nat) (submits : c.submits? op = some submission)
      (executes : c.executes op = some i) (there : i < c.statements.length)
      (token : c.tokens[i]? = some submission.token)
      (dialogue : d = .submit submission c (next i))

/-- What is not refused goes on with the answer, on a statement that is there. -/
theorem Runs.submit_of_executes {α : Type} {c : Connection} {op : Operation} {d : Dialogue α}
    {next : Nat → Connection → Result QueryResponse → Dialogue α} {i : Nat}
    (h : Runs c op d next) (executes : c.executes op = some i) :
    i < c.statements.length ∧ ∃ submission, d = .submit submission c (next i) := by
  cases h with
  | refused e submits dialogue =>
    rw [Connection.executes, submits] at executes
    cases executes
  | submitted submission j submits executes' there token dialogue =>
    cases executes.symm.trans executes'
    exact ⟨there, submission, dialogue⟩

theorem runs_executable {α : Type} {f : Nat → String → List Param → Dialogue α} {c : Connection}
    {what : Executable} {op : Operation}
    {next : Nat → Connection → Result QueryResponse → Dialogue α} (purpose : Purpose)
    (request : c.request? op = some (what.request c purpose)) (ready : c.ready op = c)
    (refused : ∀ i sql params e, c.submission i purpose sql params = .error e →
      f i sql params = .done (.error e) c)
    (submitted : ∀ i sql params submission, c.submission i purpose sql params = .ok submission →
      f i sql params = .submit submission c (next i)) : Runs c op (what.run c f) next := by
  rw [what.run_eq c purpose f]
  have submits : c.submits? op = (c.submission (what.request c purpose).statement
      (what.request c purpose).purpose (what.request c purpose).sql
        (what.request c purpose).params).toOption := by
    rw [submits?, request, ready]
    rfl
  rw [what.purpose_request] at submits
  cases hq : c.submission (what.request c purpose).statement purpose
      (what.request c purpose).sql (what.request c purpose).params with
  | error e =>
    rw [hq] at submits
    exact .refused e submits (refused _ _ _ e hq)
  | ok submission =>
    rw [hq] at submits
    refine .submitted submission (what.request c purpose).statement submits ?_
      (lt_of_open (open_of_submission hq)) (token_of_submission hq) (submitted _ _ _ _ hq)
    rw [executes, submits, request]
    rfl

theorem runs_executeQuery (c : Connection) (what : Executable) :
    Runs c (.executeQuery what) (what.run c c.executeQuery)
      fun i d answer => d.queryAnswered i answer := by
  refine runs_executable .query rfl rfl ?_ fun _ _ _ _ h => executeQuery_of_submission h
  intro i sql params e h
  rw [executeQuery, h]

theorem runs_executeUpdate (c : Connection) (what : Executable) :
    Runs c (.executeUpdate what) (what.run c c.executeUpdate)
      fun i d answer => .ended (d.answerUpdate i answer) := by
  refine runs_executable .update rfl rfl ?_ ?_
  · intro i sql params e h
    rw [executeUpdate, h]
  · intro i sql params submission h
    rw [executeUpdate, h]

theorem runs_execute (c : Connection) (what : Executable) :
    Runs c (.execute what) (what.run c c.execute)
      fun i d answer => .ended (d.answerAny i answer) := by
  refine runs_executable .any rfl rfl ?_ ?_
  · intro i sql params e h
    rw [execute, h]
  · intro i sql params submission h
    rw [execute, h]

/-- What may become of an operation. -/
inductive Course (c : Connection) (op : Operation) : Prop where
  /-- It starts with a submission under the token of its statement and ends with a new one. -/
  | executing (submission : Submission) (i : Nat)
      (next : Connection → Result QueryResponse → Dialogue Unit)
      (submits : c.submits? op = some submission) (executes : c.executes op = some i)
      (dialogue : c.dialogue op = .submit submission (c.ready op) next)
      (token : (c.ready op).tokens[i]? = some submission.token)
      (goes : ∀ e answer, (next e answer).Goes Steady
        (fun a b => Renewed i a b ∧ (op.isPrepare = false → b.prepared = a.prepared)) e)
  /-- It submits nothing. -/
  | going (submits : c.submits? op = none) (goes : (c.dialogue op).Goes Grown Grown c)
  /-- It sets something. -/
  | setting (submits : c.submits? op = none) (isSetter : op.isSetter = true)
      (result : Result Unit) (d : Connection) (dialogue : c.dialogue op = .done result d)
      (tokens : d.tokens = c.tokens) (nextToken : d.nextToken = c.nextToken)

theorem Runs.course {α : Type} {c : Connection} {op : Operation} {d : Dialogue α}
    {next : Nat → Connection → Result QueryResponse → Dialogue α} (h : Runs c op d next)
    (ready : c.ready op = c) (dialogue : c.dialogue op = d.forget)
    (goes : ∀ i e answer, (next i e answer).Goes Steady (Ended i) e) : Course c op := by
  cases h with
  | refused e submits refused =>
    refine .going submits ?_
    rw [dialogue, refused]
    exact Grown.refl c
  | submitted submission i submits executes there token submitted =>
    refine .executing submission i (fun e answer => (next i e answer).forget) submits executes
      ?_ ?_ ?_
    · rw [dialogue, submitted, ready]
      rfl
    · rw [ready]
      exact token
    · intro e answer
      refine (goes i e answer).forget.mono (fun _ _ => id) ?_
      intro a b ended
      exact ⟨ended.toRenewed, fun _ => ended.prepared⟩

theorem prepare_of_closed {c : Connection} (hc : c.closed = true) (sql : String) :
    c.prepare sql = .done (.error closedError) c := by
  have created : c.createStatement = (.error closedError, c) := if_pos hc
  rw [prepare, created]

theorem submits_prepare_of_closed {c : Connection} (hc : c.closed = true) (sql : String) :
    c.submits? (.prepare sql) = none := by
  have created : c.createStatement = (.error closedError, c) := if_pos hc
  show (c.createStatement.2.submission c.statements.length .compile sql []).toOption = none
  rw [created, Connection.submission]
  simp only [hc, if_true]
  split <;> rfl

theorem ready_prepare {c : Connection} (hc : c.closed = false) (sql : String) :
    c.ready (.prepare sql) = c.addStatement.2 := by
  rw [ready, createStatement, if_neg (Bool.eq_false_iff.mp hc)]

/-- Preparing makes a statement and compiles on it. -/
theorem prepare_of_open {c : Connection} (hc : c.closed = false) (sql : String) :
    ∃ submission,
      c.addStatement.2.submission c.statements.length .compile sql [] = .ok submission ∧
      c.submits? (.prepare sql) = some submission ∧
      c.prepare sql = .submit submission c.addStatement.2 fun d answer =>
        .ended ((d.endExecution c.statements.length).finishPrepare c.statements.length sql
          answer) := by
  have created : c.createStatement = (.ok c.statements.length, c.addStatement.2) :=
    if_neg (Bool.eq_false_iff.mp hc)
  -- the statement is new and the connection is open, so nothing is refused
  have new : c.addStatement.2.statement c.statements.length = Statement.create c.nextToken := by
    rw [statement_addStatement, if_pos rfl]
  have down : c.addStatement.2.closed = false := hc
  cases hq : c.addStatement.2.submission c.statements.length .compile sql [] with
  | error e => simp [Connection.submission, new, Statement.create, down] at hq
  | ok submission =>
    refine ⟨submission, rfl, ?_, ?_⟩
    · show ((c.ready (.prepare sql)).submission _ _ _ _).toOption = _
      rw [ready_prepare hc, hq]
      rfl
    · rw [prepare, created]
      simp only [hq]
      rfl

theorem course_prepare (c : Connection) (sql : String) : Course c (.prepare sql) := by
  cases hc : c.closed with
  | true =>
    refine .going (submits_prepare_of_closed hc sql) ?_
    show (c.prepare sql).forget.Goes Grown Grown c
    rw [prepare_of_closed hc]
    exact Grown.refl c
  | false =>
    have ready := ready_prepare hc sql
    obtain ⟨submission, hq, submits, prepared⟩ := prepare_of_open hc sql
    let next (e : Connection) (answer : Result QueryResponse) : Dialogue Nat :=
      .ended ((e.endExecution c.statements.length).finishPrepare c.statements.length sql answer)
    refine .executing submission c.statements.length (fun e answer => (next e answer).forget)
      submits ?_ ?_ ?_ ?_
    · rw [executes, submits]
      rfl
    · show (c.prepare sql).forget = _
      rw [prepared, ready]
      rfl
    · rw [ready]
      exact token_of_submission hq
    · intro e answer
      exact ⟨renewed_finishPrepare e _ sql answer, nofun⟩

section Setters

variable (c : Connection)

theorem statements_setDataverse (dataverse : String) :
    (c.setDataverse dataverse).2.statements = c.statements ∧
      (c.setDataverse dataverse).2.nextToken = c.nextToken := by
  unfold setDataverse
  split
  · exact ⟨rfl, rfl⟩
  · split <;> exact ⟨rfl, rfl⟩

theorem statements_bindParam (p position : Nat) (value : Param) :
    (c.bindParam p position value).2.statements = c.statements ∧
      (c.bindParam p position value).2.nextToken = c.nextToken := by
  unfold bindParam
  simp only
  split
  · exact ⟨rfl, rfl⟩
  · split <;> exact ⟨rfl, rfl⟩

theorem statements_clearParams (p : Nat) : (c.clearParams p).2.statements = c.statements ∧
    (c.clearParams p).2.nextToken = c.nextToken := by
  unfold clearParams
  simp only
  split <;> exact ⟨rfl, rfl⟩

end Setters

/-- A setting leaves the tokens alone. -/
theorem course_setter (c : Connection) {op : Operation} (h : op.isSetter = true) :
    Course c op := by
  have submits : c.submits? op = none := by cases op <;> first | rfl | cases h
  have tokens {d : Connection} (same : d.statements = c.statements) : d.tokens = c.tokens :=
    congrArg (List.map Statement.token) same
  cases op with
  | setDataverse dataverse =>
    obtain ⟨same, nextToken⟩ := c.statements_setDataverse dataverse
    exact .setting submits h _ _ rfl (tokens same) nextToken
  | bindParam p position value =>
    obtain ⟨same, nextToken⟩ := c.statements_bindParam p position value
    exact .setting submits h _ _ rfl (tokens same) nextToken
  | clearParams p =>
    obtain ⟨same, nextToken⟩ := c.statements_clearParams p
    exact .setting submits h _ _ rfl (tokens same) nextToken
  | set i setting =>
    refine .setting submits h _ _ rfl ?_ rfl
    refine tokens_putStatement_self ?_
    cases setting with
    | timeout seconds =>
      show ((c.statement i).setTimeout seconds).2.token = (c.statement i).token
      unfold Statement.setTimeout Statement.change
      split <;> rfl
    | _ => exact absurd h (by simp [Operation.isSetter, Statement.isSent])
  | _ => exact absurd h (by simp [Operation.isSetter])

/-- **Whatever an operation is, this is what may become of it.** -/
theorem course (c : Connection) (op : Operation) : Course c op := by
  cases hs : op.isSetter with
  | true => exact course_setter c hs
  | false =>
    cases hi : op.isIdle with
    | true =>
      refine .going ?_ ?_
      · cases op <;> first | rfl | cases hi
      · exact (goes_of_isIdle c hi).mono (fun _ _ h => h.toSteady.grown)
          fun _ _ h => h.toSteady.grown
    | false =>
      cases op with
      | createStatement => exact .going rfl (grown_createStatement c)
      | prepare sql => exact course_prepare c sql
      | openCatalog => exact .going rfl (grown_openCatalog c)
      | typeInfo => exact .going rfl (grown_catalogCursor c _ _)
      | emptyResult columns => exact .going rfl (grown_catalogCursor c columns [])
      | executeQuery what =>
        exact (runs_executeQuery c what).course rfl rfl fun i e => goes_queryAnswered e i
      | executeUpdate what =>
        exact (runs_executeUpdate c what).course rfl rfl fun i e => ended_answerUpdate e i
      | execute what => exact (runs_execute c what).course rfl rfl fun i e => ended_answerAny e i
      | resultCursor i =>
        refine .going rfl ?_
        exact (goes_resultCursor c i).forget.mono (fun _ _ h => h.grown) fun _ _ h => h.grown
      | set i setting =>
        have sent : Statement.isSent setting = true := by simpa [Operation.isIdle] using hi
        exact absurd hs (by simp [Operation.isSetter, sent])
      | _ => simp [Operation.isSetter, Operation.isIdle] at hs hi

theorem grown_ready (c : Connection) (op : Operation) : Grown c (c.ready op) := by
  cases op with
  | prepare sql => exact grown_createStatement c
  | _ => exact .refl c

/-! ## Operations left alone -/

theorem perform_of_dialogue_eq {c : Connection} {op : Operation} {submission : Submission}
    {d : Connection} {next : Connection → Result QueryResponse → Dialogue Unit}
    (h : c.dialogue op = .submit submission d next) (answers : Answers) :
    c.perform answers op = (.submit submission :: (effect answers (next d answers.submitted)).1,
      (effect answers (next d answers.submitted)).2) := by
  rw [perform_eq_effect, h]
  rfl

/-- What an operation submits is what it asks for. -/
theorem submission_mem_perform {c : Connection} {op : Operation} {answers : Answers}
    {submission : Submission} :
    .submit submission ∈ (c.perform answers op).1 ↔ c.submits? op = some submission := by
  cases course c op with
  | executing sent i next submits executes dialogue token goes =>
    rw [perform_of_dialogue_eq dialogue, submits, List.mem_cons]
    constructor
    · rintro (same | later)
      · cases same
        rfl
      · exact absurd ((goes _ _).submission?_of_mem_calls later) nofun
    · intro same
      cases same
      exact Or.inl rfl
  | going submits goes =>
    rw [submits]
    refine iff_of_false ?_ nofun
    intro h
    rw [perform_eq_effect] at h
    exact absurd (goes.submission?_of_mem_calls h) nofun
  | setting submits isSetter result d dialogue tokens nextToken =>
    rw [submits, perform_eq_effect, dialogue]
    exact iff_of_false List.not_mem_nil nofun

end Connection

end QueryClient
