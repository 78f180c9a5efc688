import QueryClient.Cursor.Basic
import QueryClient.Service.Basic

/-!
# Statements and their cursors

A `Statement` owns the cursors that it has created, numbered in order, and keeps two registries of
the open ones: those fed by the service and those whose rows are at hand. Closing the statement
closes every registered cursor. A statement that closes on completion closes with the last of its
cursors.

A statement is one of several of a connection. What closes it here is told to the connection by its
caller.
-/

namespace QueryClient

/-- A statement with all the cursors that it has ever created. -/
structure Statement where
  closed : Bool
  closeOnCompletion : Bool
  /-- The tag of the running execution, or of the next one. -/
  token : Token
  /-- The timeout of executions in seconds; zero leaves the service its default. -/
  timeout : Nat
  /-- The row limit of cursors yet to come; zero stands for none. -/
  maxRows : Nat
  /-- The count of the last execution, if it produced no rows. -/
  updateCount : Option Int
  /-- The warnings of the last execution. -/
  warnings : List Warning
  /-- The response whose cursor has not been asked for yet. -/
  pending : Option QueryResponse
  /-- The cursor that was last made of a pending response. -/
  current : Option Nat
  /-- The open cursors fed by the service. -/
  networkCursors : List Nat
  /-- The open cursors whose rows are at hand. -/
  memoryCursors : List Nat
  cursors : List Cursor

namespace Statement

/-- A statement that has not run yet. -/
def create (token : Token) : Statement where
  closed := false
  closeOnCompletion := false
  token := token
  timeout := 0
  maxRows := 0
  updateCount := none
  warnings := []
  pending := none
  current := none
  networkCursors := []
  memoryCursors := []
  cursors := []

/-- The failure of an operation on a closed statement. -/
def closedError : ClientError := .closed "statement"

/-- Change one cursor. -/
def modifyCursor (s : Statement) (i : Nat) (f : Cursor → Cursor) : Statement :=
  { s with cursors := s.cursors.modify i f }

/-- Whether a cursor is closed; a cursor that was never created counts as closed. -/
def isClosedCursor (s : Statement) (i : Nat) : Bool :=
  match s.cursors[i]? with
  | some c => c.closed
  | none => true

/-! ### Creating cursors -/

/-- Create a cursor and register it. Returns its number. -/
def register (s : Statement) (columns : List Column) (source : RowSource) (maxRows : Nat) :
    Nat × Statement :=
  let i := s.cursors.length
  let cursor := Cursor.create columns source maxRows
  let s := { s with cursors := s.cursors ++ [cursor] }
  if source.ownsNetwork then (i, { s with networkCursors := s.networkCursors ++ [i] })
  else (i, { s with memoryCursors := s.memoryCursors ++ [i] })

/-- Create a cursor over rows made by the client itself. It has no row limit. -/
def memoryCursor (s : Statement) (columns : List Column) (rows : List Row) : Nat × Statement :=
  s.register columns (.memory rows) 0

/-! ### Closing -/

/-- Close every registered cursor, then forget the pending response and the current cursor. -/
def close (s : Statement) : Statement :=
  if s.closed then s
  else
    let shut := (s.networkCursors ++ s.memoryCursors).foldl
      (fun (s : Statement) i => s.modifyCursor i Cursor.close) s
    { shut with
      closed := true
      networkCursors := []
      memoryCursors := []
      pending := none
      current := none }

/-- Whether no registered cursor is open. -/
def hasNoOpenCursors (s : Statement) : Bool :=
  s.networkCursors.all s.isClosedCursor && s.memoryCursors.all s.isClosedCursor

/-- Strike a cursor from its registry. -/
def strike (s : Statement) (i : Nat) : Statement :=
  let ownsNetwork := (s.cursors[i]?.map Cursor.ownsNetwork).getD false
  if ownsNetwork then { s with networkCursors := s.networkCursors.filter (· ≠ i) }
  else { s with memoryCursors := s.memoryCursors.filter (· ≠ i) }

/-- Close a statement that closes on completion, unless one of its cursors is open. -/
def complete (s : Statement) : Statement :=
  if s.closeOnCompletion ∧ ¬s.closed ∧ s.hasNoOpenCursors then s.close else s

/-- Strike a cursor that has closed from its registry, which may complete the statement. -/
def cursorClosed (s : Statement) (i : Nat) : Statement := (s.strike i).complete

/-- Close one cursor, unless it is closed already. -/
def closeCursor (s : Statement) (i : Nat) : Statement :=
  if s.isClosedCursor i then s else (s.modifyCursor i Cursor.close).cursorClosed i

/-- Take back the client's handle of a cursor, which closes the cursor. -/
def dropCursor (s : Statement) (i : Nat) : Statement :=
  (s.closeCursor i).modifyCursor i fun c => { c with dropped := true }

/-- Close the current cursor if the client still holds it. The cursor is struck from its registry
even if it has been closed before. -/
def closeCurrent (s : Statement) : Statement :=
  let after := { s with current := none }
  match s.current with
  | none => after
  | some i =>
    match s.cursors[i]? with
    | none => after
    | some c => if c.dropped then after else (after.modifyCursor i Cursor.close).cursorClosed i

/-! ### What a client may ask and set -/

/-- An answer of an open statement. -/
def whenOpen {α : Type} (s : Statement) (answer : α) : Result α :=
  if s.closed then .error closedError else .ok answer

/-- A change of an open statement. -/
def change (s : Statement) (f : Statement → Statement) : Result Unit × Statement :=
  if s.closed then (.error closedError, s) else (.ok (), f s)

/-- Set the timeout of executions, in seconds; zero leaves the service its default. -/
def setTimeout (s : Statement) (seconds : Nat) : Result Unit × Statement :=
  s.change fun s => { s with timeout := seconds }

/-- Set the row limit of cursors created from now on; zero stands for none. -/
def setMaxRows (s : Statement) (rows : Nat) : Result Unit × Statement :=
  s.change fun s => { s with maxRows := rows }

/-- Forget the warnings. -/
def clearWarnings (s : Statement) : Result Unit × Statement :=
  s.change fun s => { s with warnings := [] }

/-- Close the statement as soon as its last cursor closes. -/
def setCloseOnCompletion (s : Statement) : Result Unit × Statement :=
  s.change fun s => { s with closeOnCompletion := true }

/-- Close the current cursor; there is never a further result. -/
def moreResults (s : Statement) : Result Bool × Statement :=
  if s.closed then (.error closedError, s) else (.ok false, s.closeCurrent)

/-! ### Outcomes -/

/-- Keep what an execution came to. -/
def recordOutcome (s : Statement) (r : QueryResponse) (updateCount : Option Int)
    (pending : Option QueryResponse) : Statement :=
  { s with warnings := r.warningList, updateCount, pending }

end Statement

end QueryClient
