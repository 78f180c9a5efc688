import QueryClient.Connection.Basic
import QueryClient.Http.Message

/-!
# Scenarios: steps, answers and logs

A scenario is a list of steps that a client takes on named objects: a connection, statements,
prepared statements, cursors and tokens of executions. A step has an answer, and the calls that it
makes to the service are logged.
-/

namespace QueryClient.Scenario

/-- What a client does with an object. Which actions an object knows depends on its kind. -/
inductive Action where
  | drop
  | runDeferred
  | stopServer
  | createStatement
  | prepare (sql : String)
  | metadata
  | typeInfo
  | emptyResult (columns : List Column)
  | serverVersion
  | dataverse
  | setDataverse (dataverse : String)
  | isValid (timeout : Nat)
  | warnings
  | clearWarnings
  | close
  | closeDeferred
  | isClosed
  | executeQuery (sql : String)
  | executeUpdate (sql : String)
  | execute (sql : String)
  | resultCursor
  | moreResults
  | updateCount
  | queryTimeout
  | setQueryTimeout (seconds : Nat)
  | maxRows
  | setMaxRows (rows : Nat)
  | generatedKeys
  | context
  | cancel
  | cancelContext (context : String)
  | closeOnCompletion
  | isCloseOnCompletion
  | bind (position : Nat) (value : Param)
  | clearParameters
  | parameterCount
  | sql
  | statement
  | id
  | next
  | row
  | position
  | columns
  | findColumn (name : String)
  | wasNull
  | get (target : Getter.Target) (column : ColumnRef)
  | all

/-- A step of a scenario. -/
structure Step where
  /-- The name of the object that it is about. -/
  subject : String
  /-- The name for an object that it creates. -/
  name : Option String
  action : Action

/-- What a step answers. -/
inductive Answer where
  | unit
  | noSuchObject
  | nothing
  | bool (b : Bool)
  | number (n : Int)
  | text (s : String)
  | failure (e : ClientError)
  | columns (columns : List Column)
  /-- A new cursor with its columns. -/
  | cursor (columns : List Column)
  /-- A new prepared statement with the count of its parameters. -/
  | prepared (parameters : Nat)
  | catalog (version : ProductVersion) (closed : Bool)
  | version (v : ProductVersion)
  /-- Whether a close has been put off. -/
  | scheduled (b : Bool)
  | warnings (ws : List Warning)
  | reading (r : Getter.Reading)
  /-- The number of the current row, and whether the cursor is before the first row, on it, or
  after the last. -/
  | position (row : Result Nat) (isBeforeFirst isFirst isAfterLast : Result Bool)
  /-- The values of rows and the failure that ended them. -/
  | rows (rows : List (List (Result (Option Getter.Reading)))) (failure : Option ClientError)

/-- The answer that a result gives. -/
def Answer.ofResult {α : Type} (answer : α → Answer) : Result α → Answer
  | .ok v => answer v
  | .error e => .failure e

/-- A call of the service, or what happened in the middle of one. Executions are named by the order
in which they are first met. -/
inductive LogEntry where
  | connect
  | ping (timeout : Nat)
  | submit (sql : String) (args : List Json) (execution : String) (options : SubmitOptions)
  | fetch (handle : Option String)
  | cancel (execution : String)
  | close
  /-- A step taken in the middle of a call. -/
  | hook (answer : Answer)
  /-- A request that a server has seen. -/
  | request (r : HttpRequest)

/-- What is seen of one step. -/
structure Entry where
  answer : Answer
  log : List LogEntry
  /-- The names of objects that are closed after the step, sorted. -/
  closed : List String

end QueryClient.Scenario
