import QueryClient.Config.Basic
import QueryClient.ProductVersion
import QueryClient.Statement.Basic

/-!
# Connections

A `Connection` owns the statements that it has created, numbered in order, and a registry of the
open ones. Closing it closes every registered statement and then the service. A teardown that is
put off marks the connection as closed at once and closes the rest when it is run.

No operation here calls the service. One that needs the service says so in its answer, and the
caller hands the service's answer to the operation that goes on with it. In between, anything may
happen to the connection.
-/

namespace QueryClient

/-- A statement that is compiled once and executed with parameters. -/
structure PreparedStatement where
  /-- The number of the statement that runs it. -/
  statement : Nat
  sql : String
  params : List Param

/-- The number of a cursor's statement and that of the cursor itself. -/
structure CursorId where
  statement : Nat
  cursor : Nat
  deriving DecidableEq

/-- A session with one service, with all the statements that it has ever created. -/
structure Connection where
  closed : Bool
  /-- Whether the client has given its handle away. -/
  dropped : Bool
  /-- Whether a teardown has been put off. -/
  deferred : Bool
  statements : List Statement
  /-- The open statements. -/
  registry : List Nat
  prepared : List PreparedStatement
  /-- The statement of the system catalog, once it has been asked for. -/
  catalog : Option Nat
  /-- The token that is drawn next. -/
  nextToken : Token
  /-- The warnings met while connecting. -/
  warnings : List Warning
  /-- The namespace that statements run in. -/
  dataverse : String
  sqlCompat : Bool
  version : ProductVersion

namespace Connection

/-- The namespace of a connection whose configuration names none. -/
def defaultDataverse : String := "Default"

/-- A new connection to a service that names itself as `server`. -/
def create (config : ClientConfig) (server : Option String) : Connection where
  closed := false
  dropped := false
  deferred := false
  statements := []
  registry := []
  prepared := []
  catalog := none
  nextToken := 0
  warnings := config.unsupported.map fun name => ⟨0, "Unsupported parameter " ++ name⟩
  dataverse := (config.dataverse.filter fun d => d ≠ "").getD defaultDataverse
  sqlCompat := config.sqlCompat
  version := ProductVersion.read server

/-- The failure of an operation on a closed connection. -/
def closedError : ClientError := .closed "connection"

/-! ### Statements -/

/-- What a statement that was never created looks like. -/
def noStatement : Statement := { Statement.create 0 with closed := true }

/-- A statement by its number. -/
def statement (c : Connection) (i : Nat) : Statement := c.statements[i]?.getD noStatement

/-- Replace a statement. One that is closed leaves the registry. -/
def putStatement (c : Connection) (i : Nat) (s : Statement) : Connection :=
  { c with
    statements := c.statements.set i s
    registry := if s.closed then c.registry.filter (· ≠ i) else c.registry }

/-- Change a statement. -/
def modifyStatement (c : Connection) (i : Nat) (f : Statement → Statement) : Connection :=
  c.putStatement i (f (c.statement i))

/-- Do something with a statement that also answers. -/
def withStatement {α : Type} (c : Connection) (i : Nat) (f : Statement → α × Statement) :
    α × Connection :=
  let (answer, s) := f (c.statement i)
  (answer, c.putStatement i s)

/-- Draw a token that no one has been given yet. -/
def drawToken (c : Connection) : Token × Connection :=
  (c.nextToken, { c with nextToken := c.nextToken + 1 })

/-- Create and register a statement. Returns its number. -/
def addStatement (c : Connection) : Nat × Connection :=
  let (token, c) := c.drawToken
  let i := c.statements.length
  (i, { c with
    statements := c.statements ++ [Statement.create token]
    registry := c.registry ++ [i] })

/-- Create a statement. -/
def createStatement (c : Connection) : Result Nat × Connection :=
  if c.closed then (.error closedError, c)
  else
    let (i, c) := c.addStatement
    (.ok i, c)

/-! ### Cursors -/

/-- What a cursor that was never created looks like. -/
def noCursor : Cursor := (Cursor.create [] (.memory []) 0).close

/-- A cursor by its number. -/
def cursor (c : Connection) (id : CursorId) : Cursor :=
  ((c.statement id.statement).cursors[id.cursor]?).getD noCursor

/-- Do something with a cursor that also answers. -/
def withCursor {α : Type} (c : Connection) (id : CursorId) (f : Cursor → α × Cursor) :
    α × Connection :=
  let (answer, cursor) := f (c.cursor id)
  (answer, c.modifyStatement id.statement fun s => s.modifyCursor id.cursor fun _ => cursor)

/-- Create a cursor over rows made by the client itself. -/
def memoryCursor (c : Connection) (i : Nat) (columns : List Column) (rows : List Row) :
    CursorId × Connection :=
  let (k, c) := c.withStatement i fun s => s.memoryCursor columns rows
  (⟨i, k⟩, c)

/-- A cursor without rows: the service reports no generated keys. -/
def generatedKeys (c : Connection) (i : Nat) : Result CursorId × Connection :=
  if (c.statement i).closed then (.error Statement.closedError, c)
  else
    let (id, c) := c.memoryCursor i [] []
    (.ok id, c)

/-! ### Settings -/

/-- An answer of an open connection. -/
def whenOpen {α : Type} (c : Connection) (answer : α) : Result α :=
  if c.closed then .error closedError else .ok answer

/-- Set the namespace that statements run in. -/
def setDataverse (c : Connection) (dataverse : String) : Result Unit × Connection :=
  if c.closed then (.error closedError, c)
  else if dataverse = "" then (.error (.invalidValue "dataverse"), c)
  else (.ok (), { c with dataverse })

/-- Forget the warnings. -/
def clearWarnings (c : Connection) : Result Unit × Connection :=
  if c.closed then (.error closedError, c) else (.ok (), { c with warnings := [] })

end Connection

end QueryClient
