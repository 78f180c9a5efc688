import QueryClient.Scenario.Exchange
import QueryClient.Scenario.Service
import QueryClient.Session.Client

/-!
# The state of a scenario

A `World` holds the connection, the service and the names that the client has given to objects. An
object whose name is given away is dropped, though not before the step that is using it ends.
-/

namespace QueryClient.Scenario

/-- Something that a client holds. -/
inductive Object where
  | connection
  | statement (i : Nat)
  | prepared (p : Nat)
  | cursor (id : CursorId)
  | context (token : Token)
  deriving DecidableEq

/-- The service of a scenario. -/
inductive Service where
  | scripted (s : ScriptedService)
  /-- A server at the other end of a link. -/
  | remote (l : Link)

/-- The state of a scenario. -/
structure World where
  connection : Connection
  service : Service
  /-- The objects that the client holds, by name. -/
  objects : List (String × Object)
  /-- What has been logged during the current step. -/
  log : List LogEntry
  /-- The tokens that have been seen, in the order in which they were first met. -/
  tokens : List Token
  /-- The steps that wait for a cursor's input to be looked at. -/
  watches : List (CursorId × Watch)
  /-- The objects that steps under way are using. -/
  inUse : List Object
  /-- The objects that are dropped as soon as they are no longer in use. -/
  leaving : List Object

/-- A part of a scenario. -/
abbrev Play (α : Type) := StateM World α

namespace Play

/-- Add to the log. -/
def log (entry : LogEntry) : Play Unit :=
  modify fun w => { w with log := w.log ++ [entry] }

/-- Do something with the connection. -/
def connection {α : Type} (f : Connection → α × Connection) : Play α :=
  modifyGet fun w =>
    let (answer, c) := f w.connection
    (answer, { w with connection := c })

/-- Change the connection. -/
def change (f : Connection → Connection) : Play Unit :=
  modify fun w => { w with connection := f w.connection }

/-- Ask the connection. -/
def ask {α : Type} (f : Connection → α) : Play α := return f (← get).connection

/-- Do something with a statement. -/
def onStatement {α : Type} (i : Nat) (f : Statement → α × Statement) : Play α :=
  connection fun c => c.withStatement i f

/-- Do something with a cursor. -/
def onCursor {α : Type} (id : CursorId) (f : Cursor → α × Cursor) : Play α :=
  connection fun c => c.withCursor id f

/-- The name of an execution: its number in the order in which executions are first met. Returns
those met with it, too. -/
def tokenName (token : Token) (met : List Token) : String × List Token :=
  let all := if met.contains token then met else met ++ [token]
  ("x" ++ toString (all.idxOf token + 1), all)

/-- Name an execution that is met. -/
def nameToken (token : Token) : Play String :=
  modifyGet fun w =>
    let (name, tokens) := tokenName token w.tokens
    (name, { w with tokens })

/-! ### Calls of the service -/

/-- Send something over a link and log the request, if the server has seen it. -/
def send {α : Type} (exchange : Result α × Option HttpRequest × Link) : Play (Result α) := do
  let (result, request, l) := exchange
  modify fun w => { w with service := .remote l }
  match request with
  | some r => log (.request r)
  | none => pure ()
  return result

/-- Send something that names an execution. The execution is met if the server has seen it. -/
def sendNamed {α : Type} (token : Token)
    (exchange : String → Result α × Option HttpRequest × Link) : Play (Result α) := do
  let (name, tokens) := tokenName token (← get).tokens
  let sent := exchange name
  if sent.2.1.isSome then modify fun w => { w with tokens }
  send sent

/-- Close the service. -/
def closeService : Play (Result Unit) := do
  match (← get).service with
  | .scripted s =>
    log .close
    return s.close
  | .remote l =>
    modify fun w => { w with service := .remote l.close }
    return .ok ()

/-- Cancel an execution. -/
def cancelExecution (token : Token) : Play (Result Unit) := do
  match (← get).service with
  | .scripted s =>
    log (.cancel (← nameToken token))
    return s.cancel
  | .remote l => sendNamed token l.cancel

/-- See whether the service is there. -/
def ping (timeout : Nat) : Play Bool := do
  match (← get).service with
  | .scripted s =>
    log (.ping timeout)
    return s.ping
  | .remote l => return (← send l.probe).isOk

/-- Take the next entry of a script for a submission. -/
def submitScripted (hook : Step → Play Answer) (s : ScriptedService) (submission : Submission) :
    Play (Result QueryResponse) := do
  match Param.encodeAll submission.params with
  | .error e => return .error e
  | .ok args =>
    log (.submit submission.sql args (← nameToken submission.token) submission.options)
    match takeNamed (s.entryName submission) s.submissions with
    | none => return .error (.protocol "unscripted statement")
    | some (entry, rest) =>
      modify fun w => { w with service := .scripted { s with submissions := rest } }
      match entry.hook with
      | none => pure ()
      | some step => log (.hook (← hook step))
      return entry.answer

/-- Submit a statement. -/
def submit (hook : Step → Play Answer) (submission : Submission) : Play (Result QueryResponse) := do
  match (← get).service with
  | .scripted s => submitScripted hook s submission
  | .remote l =>
    sendNamed submission.token fun execution =>
      l.submit submission.sql submission.params execution submission.options

/-- Take the next entry of a script for a result. A step that waits for the rows to be looked at is
taken as soon as they are; one that still waits is returned. -/
def fetchScripted (hook : Step → Play Answer) (s : ScriptedService) (response : QueryResponse) :
    Play (Result ElementStream × Option Watch) := do
  log (.fetch response.handle)
  match response.handle with
  | none => return (.error (.protocol "response carries no result handle"), none)
  | some handle =>
    match takeNamed handle s.results with
    | none => return (.error (.protocol "unscripted handle"), none)
    | some (entry, rest) =>
      modify fun w => { w with service := .scripted { s with results := rest } }
      match entry with
      | .error e => return (.error e, none)
      | .ok rows =>
        let (located, input) : Result ElementStream × Input :=
          match ElementStream.locate "results" s.policy rows.input with
          | .ok elements input => (.ok elements, input)
          | .error e input => (.error e, input)
        match rows.watch with
        | none => return (located, none)
        | some watch =>
          if watch.offset < input.looked then
            log (.hook (← hook watch.step))
            return (located, none)
          else return (located, some watch)

/-- Fetch the rows of a response. -/
def fetch (hook : Step → Play Answer) (response : QueryResponse) :
    Play (Result ElementStream × Option Watch) := do
  match (← get).service with
  | .scripted s => fetchScripted hook s response
  | .remote l => return (← send (l.fetch response), none)

/-- Go through a dialogue with the service. A step that still waits for fetched rows to be looked at
is returned. -/
def converse {α : Type} (hook : Step → Play Answer) : Dialogue α → Play (Result α × Option Watch)
  | .done result c => do
    change fun _ => c
    return (result, none)
  | .submit submission c next => do
    change fun _ => c
    let answer ← submit hook submission
    converse hook (next (← get).connection answer)
  | .fetch response c next => do
    change fun _ => c
    let (fetched, watch) ← fetch hook response
    let (result, _) ← converse hook (next (← get).connection fetched)
    return (result, watch)
  | .cancel token c next => do
    change fun _ => c
    let answer ← cancelExecution token
    converse hook (next (← get).connection answer)
  | .ping timeout c next => do
    change fun _ => c
    let answer ← ping timeout
    converse hook (next (← get).connection answer)
  | .close c next => do
    change fun _ => c
    let answer ← closeService
    converse hook (next (← get).connection answer)

/-! ### Names -/

/-- Let go of an object that no step is using. Only connections and cursors close by it. -/
def release (object : Object) : Play Unit := do
  match object with
  | .cursor id => change fun c => c.dropCursor id
  | .connection =>
    if ← connection Connection.drop then
      let _ ← closeService
      return
  | _ => return

/-- Let go of an object, at once or when it is no longer in use. -/
def discard (object : Object) : Play Unit := do
  if (← get).inUse.contains object then
    modify fun w => { w with leaving := object :: w.leaving }
  else release object

/-- Use an object during a step. -/
def during {α : Type} (object : Object) (step : Play α) : Play α := do
  modify fun w => { w with inUse := object :: w.inUse }
  let answer ← step
  modify fun w => { w with inUse := w.inUse.erase object }
  let w ← get
  if w.leaving.contains object ∧ ¬w.inUse.contains object then
    set { w with leaving := w.leaving.filter (· ≠ object) }
    release object
  return answer

/-- Name a new object. An object that had the name is let go. -/
def name (s : Step) (object : Object) : Play Unit := do
  match s.name with
  | none => discard object
  | some n =>
    let old := Members.get? n (← get).objects
    modify fun w => { w with objects := Members.put n object w.objects }
    match old with
    | some o => discard o
    | none => return

/-- Take an object's name away. -/
def forget (n : String) : Play Unit := do
  let old := Members.get? n (← get).objects
  modify fun w => { w with objects := w.objects.filter fun o => o.1 ≠ n }
  match old with
  | some o => discard o
  | none => return

end Play

namespace World

/-- Whether the client holds a statement, itself or as that of a prepared statement. -/
def holdsStatement (w : World) (i : Nat) : Bool :=
  w.objects.any fun o =>
    match o.2 with
    | .statement j => j = i
    | .prepared p => (w.connection.preparedStatement p).statement = i
    | _ => false

/-- Whether an object is closed. -/
def isClosed (w : World) : Object → Bool
  | .connection => w.connection.closed
  | .statement i => (w.connection.statement i).closed
  | .prepared p => (w.connection.statement (w.connection.preparedStatement p).statement).closed
  | .cursor id => (w.connection.cursor id).closed
  | .context _ => false

/-- The names of the closed objects, sorted. -/
def closedNames (w : World) : List String :=
  ((w.objects.filter fun o => w.isClosed o.2).map Prod.fst).mergeSort (fun a b => a ≤ b)

end World

end QueryClient.Scenario
