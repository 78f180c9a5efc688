import QueryClient.Session.Client

/-!
# Sessions

An `Operation` is what a client does in one go, and a session is a list of them, one after the
other. Going to the next row is cut in two operations, so that others may come in between. Asking
an object for what it holds is left out: it changes nothing and calls no one.
-/

namespace QueryClient

/-- A setting of a statement. -/
inductive Setting where
  | timeout (seconds : Nat)
  | maxRows (rows : Nat)
  | noWarnings
  | closeOnCompletion

/-- Change a setting of a statement. -/
def Statement.set (s : Statement) : Setting → Result Unit × Statement
  | .timeout seconds => s.setTimeout seconds
  | .maxRows rows => s.setMaxRows rows
  | .noWarnings => s.clearWarnings
  | .closeOnCompletion => s.setCloseOnCompletion

/-- What is executed. -/
inductive Executable where
  /-- A text, on a statement. -/
  | text (i : Nat) (sql : String)
  /-- A prepared statement with the parameters that it has got. -/
  | prepared (p : Nat)

/-- Execute something, given what to do with a statement, a text and parameters. -/
def Executable.run {α : Type} (what : Executable) (c : Connection)
    (f : Nat → String → List Param → Dialogue α) : Dialogue α :=
  match what with
  | .text i sql => f i sql []
  | .prepared p =>
    let own := c.preparedStatement p
    f own.statement own.sql own.params

/-- An operation on a connection or on something that belongs to it. -/
inductive Operation where
  -- the connection
  | createStatement
  | prepare (sql : String)
  | openCatalog
  | typeInfo
  | emptyResult (columns : List Column)
  | setDataverse (dataverse : String)
  | clearWarnings
  | isValid (timeout : Nat)
  | close
  | closeDeferred
  | runDeferred
  | drop
  -- a statement or a prepared one
  | executeQuery (what : Executable)
  | executeUpdate (what : Executable)
  | execute (what : Executable)
  | resultCursor (i : Nat)
  | moreResults (i : Nat)
  | generatedKeys (i : Nat)
  | set (i : Nat) (setting : Setting)
  | cancel (i : Nat)
  | cancelIfCurrent (i : Nat) (token : Token)
  | closeStatement (i : Nat)
  | bindParam (p position : Nat) (value : Param)
  | clearParams (p : Nat)
  -- a cursor
  | startNext (id : CursorId)
  | finishNext (id : CursorId)
  | get (id : CursorId) (target : Getter.Target) (column : ColumnRef)
  | closeCursor (id : CursorId)
  | dropCursor (id : CursorId)

namespace Connection

/-- What is left of a dialogue once its result is forgotten: its calls and the connection. -/
def effect {α : Type} (answers : Answers) (d : Dialogue α) : List Call × Connection :=
  ((d.settle answers).calls, (d.settle answers).connection)

/-- Do one thing, given what the service answers to it. Returns the calls of the service. -/
def perform (c : Connection) (answers : Answers) : Operation → List Call × Connection
  | .createStatement => ([], c.createStatement.2)
  | .prepare sql => effect answers (c.prepare sql)
  | .openCatalog => ([], c.openCatalog.2)
  | .typeInfo => ([], c.typeInfo.2)
  | .emptyResult columns => ([], (c.emptyResult columns).2)
  | .setDataverse dataverse => ([], (c.setDataverse dataverse).2)
  | .clearWarnings => ([], c.clearWarnings.2)
  | .isValid timeout => effect answers (c.isValid timeout)
  | .close => effect answers (teardown c.close)
  | .closeDeferred => ([], c.closeDeferred.2)
  | .runDeferred => effect answers (teardown c.runDeferred)
  | .drop => effect answers (teardown c.drop)
  | .executeQuery what => effect answers (what.run c c.executeQuery)
  | .executeUpdate what => effect answers (what.run c c.executeUpdate)
  | .execute what => effect answers (what.run c c.execute)
  | .resultCursor i => effect answers (c.resultCursor i)
  | .moreResults i => ([], (c.moreResults i).2)
  | .generatedKeys i => ([], (c.generatedKeys i).2)
  | .set i setting => ([], (c.withStatement i fun s => s.set setting).2)
  | .cancel i => effect answers (c.cancelRunning i)
  | .cancelIfCurrent i token => effect answers (c.cancelIfCurrent i token)
  | .closeStatement i => ([], c.closeStatement i)
  | .bindParam p position value => ([], (c.bindParam p position value).2)
  | .clearParams p => ([], (c.clearParams p).2)
  | .startNext id => ([], (c.startNext id).2)
  | .finishNext id => ([], (c.finishNext id).2)
  | .get id target column => ([], (c.get id target column).2)
  | .closeCursor id => ([], c.closeCursor id)
  | .dropCursor id => ([], c.dropCursor id)

/-- The connection after one operation with its answers. -/
def after (c : Connection) (step : Operation × Answers) : Connection :=
  (c.perform step.2 step.1).2

/-- The connection after a session. -/
def run (c : Connection) (session : List (Operation × Answers)) : Connection :=
  session.foldl after c

end Connection

/-- Whether an operation takes a connection down: it closes or drops it while it is open, or it runs
the teardown that has been put off. -/
def Operation.takesDown (op : Operation) (c : Connection) : Bool :=
  match op with
  | .close | .drop => !c.closed
  | .runDeferred => c.deferred
  | _ => false

end QueryClient
