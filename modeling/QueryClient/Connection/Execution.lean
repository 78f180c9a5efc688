import QueryClient.Connection.Basic

/-!
# Executing statements

An execution starts with `submission`, which says what to send to the service and changes nothing.
The service's answer goes to one of the `answer` operations. A query whose rows have to be fetched
is only half done then, and `finishQuery` takes the service's second answer. Whatever the outcome,
the end of an execution gives the statement a new token.

`takeResult` and `finishResult` make a cursor of a response that an execution has left behind.
-/

namespace QueryClient

/-- What an execution is for. -/
inductive Purpose where
  /-- To get the rows of a query. -/
  | query
  /-- To get the update count of anything but a query. -/
  | update
  /-- To get whatever there is. -/
  | any
  /-- To learn about the statement without running it. -/
  | compile
  deriving DecidableEq

/-- How the rows of a query are to be had: from the response itself, or by fetching them. -/
inductive Opening where
  | memory (columns : List Column) (rows : List Row)
  | fetch (columns : List Column)

/-- How the rows of a response are to be had. The plan of a statement is at hand, a row a line. -/
def QueryResponse.opening (r : QueryResponse) : Result Opening := do
  let columns ← r.columns
  if r.isExplainOnly then
    let lines ← r.explainLines
    return .memory columns (lines.map fun line => [Value.string line])
  else return .fetch columns

/-- What is left to do for a cursor. -/
inductive Progress (α : Type) where
  | done (result : Result α)
  /-- The rows of a response are to be fetched. -/
  | fetch (response : QueryResponse) (columns : List Column)

namespace Connection

/-! ### Starting -/

/-- What to send to the service. -/
def submission (c : Connection) (i : Nat) (purpose : Purpose) (sql : String)
    (params : List Param) : Result Submission :=
  let s := c.statement i
  if s.closed then .error Statement.closedError
  else if c.closed then .error closedError
  else
    .ok {
      sql := sql
      params := params
      token := s.token
      options := {
        dataverse := some c.dataverse
        timeout := s.timeout
        forceReadOnly := purpose = .query
        compileOnly := purpose = .compile
        sqlCompat := c.sqlCompat } }

/-- Give a statement whose execution has ended a new token. -/
def endExecution (c : Connection) (i : Nat) : Connection :=
  let (token, c) := c.drawToken
  c.modifyStatement i fun s => { s with token }

/-! ### Going on with the answer -/

/-- The end of an execution that was for an update count. -/
def answerUpdate (c : Connection) (i : Nat) (answer : Result QueryResponse) :
    Result Int × Connection :=
  match answer with
  | .error e => (.error e, c.endExecution i)
  | .ok r =>
    if r.isQuery then (.error .invalidStatementCategory, c.endExecution i)
    else
      let c := c.modifyStatement i fun s => s.recordOutcome r (some r.updateCount) none
      (.ok r.updateCount, c.endExecution i)

/-- The end of an execution that was for whatever there is. Answers whether there are rows. -/
def answerAny (c : Connection) (i : Nat) (answer : Result QueryResponse) :
    Result Bool × Connection :=
  match answer with
  | .error e => (.error e, c.endExecution i)
  | .ok r =>
    if r.isQuery then
      let c := c.modifyStatement i fun s => s.recordOutcome r none (some r)
      (.ok true, c.endExecution i)
    else
      let c := c.modifyStatement i fun s => s.recordOutcome r (some r.updateCount) none
      (.ok false, c.endExecution i)

/-- The end of an execution that only compiled. -/
def answerCompile (c : Connection) (i : Nat) (answer : Result QueryResponse) :
    Result QueryResponse × Connection :=
  (answer, c.endExecution i)

/-- The answer to an execution that was for rows. -/
def answerQuery (c : Connection) (i : Nat) (answer : Result QueryResponse) :
    Progress CursorId × Connection :=
  match answer with
  | .error e => (.done (.error e), c.endExecution i)
  | .ok r =>
    if r.isQuery then
      let c := c.modifyStatement i fun s => s.recordOutcome r none none
      match r.opening with
      | .error e => (.done (.error e), c.endExecution i)
      | .ok (.memory columns rows) =>
        let (id, c) := c.memoryCursor i columns rows
        (.done (.ok id), c.endExecution i)
      | .ok (.fetch columns) => (.fetch r columns, c)
    else (.done (.error .invalidStatementCategory), c.endExecution i)

/-- Make a cursor of rows that the service sends. -/
def openNetworkCursor (c : Connection) (i : Nat) (columns : List Column)
    (fetched : Result ElementStream) : Result CursorId × Connection :=
  match fetched with
  | .error e => (.error e, c)
  | .ok elements =>
    let (k, c) := c.withStatement i fun s => s.register columns (.stream elements) s.maxRows
    (.ok ⟨i, k⟩, c)

/-- The end of an execution that was for rows, once they have been fetched. -/
def finishQuery (c : Connection) (i : Nat) (columns : List Column)
    (fetched : Result ElementStream) : Result CursorId × Connection :=
  let (result, c) := c.openNetworkCursor i columns fetched
  (result, c.endExecution i)

/-! ### Rows left behind by an execution -/

/-- Note the cursor that has been made of a pending response. -/
def setCurrent (c : Connection) (id : CursorId) : Connection :=
  c.modifyStatement id.statement fun s => { s with current := some id.cursor }

/-- Take the pending response of a statement to make a cursor of it; nothing if there is none. -/
def takeResult (c : Connection) (i : Nat) : Progress (Option CursorId) × Connection :=
  let s := c.statement i
  if s.closed then (.done (.error Statement.closedError), c)
  else
    match s.pending with
    | none => (.done (.ok none), c)
    | some r =>
      let c := c.modifyStatement i fun s => { s with pending := none }
      match r.opening with
      | .error e => (.done (.error e), c)
      | .ok (.memory columns rows) =>
        let (id, c) := c.memoryCursor i columns rows
        (.done (.ok (some id)), c.setCurrent id)
      | .ok (.fetch columns) => (.fetch r columns, c)

/-- Make a cursor of a pending response whose rows have been fetched. -/
def finishResult (c : Connection) (i : Nat) (columns : List Column)
    (fetched : Result ElementStream) : Result (Option CursorId) × Connection :=
  match c.openNetworkCursor i columns fetched with
  | (.error e, c) => (.error e, c)
  | (.ok id, c) => (.ok (some id), c.setCurrent id)

/-! ### Cancelling -/

/-- The token of the execution to cancel. -/
def cancel (c : Connection) (i : Nat) : Result Token :=
  let s := c.statement i
  s.whenOpen s.token

/-- The token of the execution to cancel, if it is still the statement's own; nothing for that of an
execution that has ended. -/
def cancelContext (c : Connection) (i : Nat) (token : Token) : Result (Option Token) :=
  (c.cancel i).map fun own => if own = token then some own else none

end Connection

end QueryClient
