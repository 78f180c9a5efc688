import QueryClient.Connection.Catalog
import QueryClient.Connection.Closing
import QueryClient.Connection.Prepared

/-!
# What a client does, from call to return

An operation that calls the service is a `Dialogue`: it is over, or it makes a call and goes on with
the answer. While the service is at work the connection lies open to others, so what follows a call
is told the connection that it finds afterwards, too.

`Dialogue.settle` is what becomes of a dialogue that no one interferes with. The service is known by
its answers only, which are handed in beforehand, so a statement about all answers is one about all
services.
-/

namespace QueryClient

/-- A dialogue with the service. -/
inductive Dialogue (α : Type) where
  /-- It is over. -/
  | done (result : Result α) (c : Connection)
  | submit (submission : Submission) (c : Connection)
      (next : Connection → Result QueryResponse → Dialogue α)
  | fetch (response : QueryResponse) (c : Connection)
      (next : Connection → Result ElementStream → Dialogue α)
  | cancel (token : Token) (c : Connection) (next : Connection → Result Unit → Dialogue α)
  | ping (timeout : Nat) (c : Connection) (next : Connection → Bool → Dialogue α)
  | close (c : Connection) (next : Connection → Result Unit → Dialogue α)

/-- A call of the service. -/
inductive Call where
  | submit (submission : Submission)
  | fetch (response : QueryResponse)
  | cancel (token : Token)
  | ping (timeout : Nat)
  | close

/-- What comes of an operation. -/
structure Outcome (α : Type) where
  result : Result α
  /-- The calls of the service that it has made, in order. -/
  calls : List Call
  connection : Connection

/-- What the service answers to the calls of one dialogue, by their kind. -/
structure Answers where
  submitted : Result QueryResponse
  fetched : Result ElementStream
  cancelled : Result Unit
  ping : Bool
  closed : Result Unit

namespace Dialogue

variable {α : Type}

/-- A dialogue that is over. -/
def ended (result : Result α × Connection) : Dialogue α := .done result.1 result.2

/-- What comes of a dialogue if no one interferes. -/
def settle (answers : Answers) : Dialogue α → Outcome α
  | .done result c => ⟨result, [], c⟩
  | .submit submission c next =>
    let rest := settle answers (next c answers.submitted)
    { rest with calls := .submit submission :: rest.calls }
  | .fetch response c next =>
    let rest := settle answers (next c answers.fetched)
    { rest with calls := .fetch response :: rest.calls }
  | .cancel token c next =>
    let rest := settle answers (next c answers.cancelled)
    { rest with calls := .cancel token :: rest.calls }
  | .ping timeout c next =>
    let rest := settle answers (next c answers.ping)
    { rest with calls := .ping timeout :: rest.calls }
  | .close c next =>
    let rest := settle answers (next c answers.closed)
    { rest with calls := .close :: rest.calls }

end Dialogue

namespace Connection

/-! ### Executions -/

/-- Run a query and open a cursor over its rows. -/
def executeQuery (c : Connection) (i : Nat) (sql : String) (params : List Param) :
    Dialogue CursorId :=
  match c.submission i .query sql params with
  | .error e => .done (.error e) c
  | .ok submission =>
    .submit submission c fun c answer =>
      match c.answerQuery i answer with
      | (.done result, c) => .done result c
      | (.fetch response columns, c) =>
        .fetch response c fun c fetched => .ended (c.finishQuery i columns fetched)

/-- Run anything but a query. -/
def executeUpdate (c : Connection) (i : Nat) (sql : String) (params : List Param) :
    Dialogue Int :=
  match c.submission i .update sql params with
  | .error e => .done (.error e) c
  | .ok submission => .submit submission c fun c answer => .ended (c.answerUpdate i answer)

/-- Run a statement of any kind. -/
def execute (c : Connection) (i : Nat) (sql : String) (params : List Param) : Dialogue Bool :=
  match c.submission i .any sql params with
  | .error e => .done (.error e) c
  | .ok submission => .submit submission c fun c answer => .ended (c.answerAny i answer)

/-- Prepare a text on a statement of its own. -/
def prepare (c : Connection) (sql : String) : Dialogue Nat :=
  match c.createStatement with
  | (.error e, c) => .done (.error e) c
  | (.ok i, c) =>
    match c.submission i .compile sql [] with
    | .error e => .ended (c.finishPrepare i sql (.error e))
    | .ok submission =>
      .submit submission c fun c answer =>
        let (compiled, c) := c.answerCompile i answer
        .ended (c.finishPrepare i sql compiled)

/-- Open a cursor over the rows that an execution has left behind. -/
def resultCursor (c : Connection) (i : Nat) : Dialogue (Option CursorId) :=
  match c.takeResult i with
  | (.done result, c) => .done result c
  | (.fetch response columns, c) =>
    .fetch response c fun c fetched => .ended (c.finishResult i columns fetched)

/-! ### Cancelling and closing -/

/-- Cancel the execution of a statement. -/
def cancelRunning (c : Connection) (i : Nat) : Dialogue Unit :=
  match c.cancel i with
  | .error e => .done (.error e) c
  | .ok token => .cancel token c fun c answer => .done answer c

/-- Cancel the execution of a statement if it is still the one with the token. -/
def cancelIfCurrent (c : Connection) (i : Nat) (token : Token) : Dialogue Unit :=
  match c.cancelContext i token with
  | .error e => .done (.error e) c
  | .ok none => .done (.ok ()) c
  | .ok (some own) => .cancel own c fun c answer => .done answer c

/-- See whether the connection is open and the service there. -/
def isValid (c : Connection) (timeout : Nat) : Dialogue Bool :=
  if c.closed then .done (.ok false) c
  else .ping timeout c fun c answer => .done (.ok answer) c

/-- Close the service if that is due. -/
def teardown : Bool × Connection → Dialogue Unit
  | (true, c) => .close c fun c answer => .done (closeResult answer) c
  | (false, c) => .done (.ok ()) c

/-! ### Reading rows

Between the two halves of going to the next row anything may happen to the cursor, but for another
reader, who has to wait. -/

/-- Start going to the next row. The answer is none if the row is still to be read. -/
def startNext (c : Connection) (id : CursorId) : Option (Result Bool) × Connection :=
  if (c.cursor id).reading then (none, c) else c.withCursor id Cursor.startNext

/-- Read the row that a cursor has started to go to. The answer is none if it has not started. -/
def finishNext (c : Connection) (id : CursorId) : Option (Result Bool) × Connection :=
  if (c.cursor id).reading then
    let (answer, c) := c.withCursor id fun k =>
      let (pulled, read) := k.pull
      read.finishNext pulled
    (some answer, c)
  else (none, c)

/-- Read a column of the current row. The answer is none while a row is being read. -/
def get (c : Connection) (id : CursorId) (target : Getter.Target) (ref : ColumnRef) :
    Option (Result (Option Getter.Reading)) × Connection :=
  if (c.cursor id).reading then (none, c)
  else
    let (answer, c) := c.withCursor id fun k => k.get target ref
    (some answer, c)

end Connection

end QueryClient
