import QueryClient.Connection.Closing
import QueryClient.Connection.Execution

/-!
# Prepared statements

Preparing a statement compiles it with the service, which tells how many parameters it has. They
are bound by position, counted from 1; an unbound parameter is null.
-/

namespace QueryClient.Connection

/-- What an unbound parameter is sent as. -/
def unbound : Param := .value .null

/-- Take over the answer to compiling statement `i`: a prepared statement with all its parameters
unbound. Returns its number. A failure closes the statement. -/
def finishPrepare (c : Connection) (i : Nat) (sql : String) (compiled : Result QueryResponse) :
    Result Nat × Connection :=
  match compiled.bind QueryResponse.parameterCount with
  | .error e => (.error e, c.closeStatement i)
  | .ok count =>
    (.ok c.prepared.length,
      { c with prepared := c.prepared ++ [⟨i, sql, List.replicate count unbound⟩] })

/-- A prepared statement by its number. -/
def preparedStatement (c : Connection) (p : Nat) : PreparedStatement :=
  c.prepared[p]?.getD ⟨c.statements.length, "", []⟩

/-- Change the parameters of a prepared statement. -/
def setParams (c : Connection) (p : Nat) (params : List Param) : Connection :=
  { c with prepared := c.prepared.modify p fun s => { s with params } }

/-- Bind a parameter. -/
def bindParam (c : Connection) (p : Nat) (position : Nat) (value : Param) :
    Result Unit × Connection :=
  let s := c.preparedStatement p
  if (c.statement s.statement).closed then (.error Statement.closedError, c)
  else if position = 0 ∨ s.params.length < position then
    (.error (.invalidValue ("parameter index " ++ toString position)), c)
  else (.ok (), c.setParams p (s.params.set (position - 1) value))

/-- Unbind every parameter. -/
def clearParams (c : Connection) (p : Nat) : Result Unit × Connection :=
  let s := c.preparedStatement p
  if (c.statement s.statement).closed then (.error Statement.closedError, c)
  else (.ok (), c.setParams p (List.replicate s.params.length unbound))

end QueryClient.Connection
