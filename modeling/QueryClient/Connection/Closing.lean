import QueryClient.Connection.Basic

/-!
# Closing

Closing goes from the outside in: a connection closes its statements, a statement its cursors.
Statements and cursors close without failing; only the service may fail to close, and its failure
is what the close of the connection reports. `close`, `runDeferred` and `drop` answer whether the
service has to be closed now, which they ask for once at most between them.
-/

namespace QueryClient.Connection

/-! ### Cursors and statements -/

/-- Close a cursor. -/
def closeCursor (c : Connection) (id : CursorId) : Connection :=
  c.modifyStatement id.statement fun s => s.closeCursor id.cursor

/-- Take back the client's handle of a cursor, which closes the cursor. -/
def dropCursor (c : Connection) (id : CursorId) : Connection :=
  c.modifyStatement id.statement fun s => s.dropCursor id.cursor

/-- Close a statement and its cursors. -/
def closeStatement (c : Connection) (i : Nat) : Connection := c.modifyStatement i Statement.close

/-- Close the current cursor of a statement. -/
def moreResults (c : Connection) (i : Nat) : Result Bool × Connection :=
  c.withStatement i Statement.moreResults

/-! ### Connections -/

/-- Close every registered statement. -/
def closeStatements (c : Connection) : Connection :=
  c.registry.foldl closeStatement { c with registry := [] }

/-- Close an open connection with its statements. Answers whether the service is to be closed. -/
def close (c : Connection) : Bool × Connection :=
  if c.closed then (false, c) else (true, { c with closed := true }.closeStatements)

/-- Mark an open connection as closed and put off the rest. Answers whether there is a rest. -/
def closeDeferred (c : Connection) : Bool × Connection :=
  if c.closed then (false, c) else (true, { c with closed := true, deferred := true })

/-- Do what has been put off. Answers whether the service is to be closed. -/
def runDeferred (c : Connection) : Bool × Connection :=
  if c.deferred then (true, { c with deferred := false }.closeStatements) else (false, c)

/-- Take back the client's handle, which closes the connection. Answers whether the service is to
be closed. -/
def drop (c : Connection) : Bool × Connection :=
  let (due, c) := c.close
  (due, { c with dropped := true })

/-- What closing the connection reports, given what closing the service has come to. -/
def closeResult (service : Result Unit) : Result Unit := (CloseErrors.empty.record service).toResult

/-- Whether the connection itself keeps a statement in being: as a registered one, or as that of
the catalog as long as the connection is there. -/
def keepsStatement (c : Connection) (i : Nat) : Bool :=
  c.registry.contains i || (c.catalog == some i && (!c.dropped || c.deferred))

end QueryClient.Connection
