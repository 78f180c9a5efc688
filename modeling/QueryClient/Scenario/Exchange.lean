import QueryClient.Scenario.Server

/-!
# Exchanges with a server

The steps of a client that talks to a server directly, without a connection. Every step may set the
reply to its request.
-/

namespace QueryClient.Scenario

/-- What a client wants from the server. -/
inductive Exchange where
  | connect
  | ping
  | submit (sql : String) (params : List Param) (execution : String) (options : SubmitOptions)
  | fetch (response : QueryResponse)
  | cancel (execution : String)
  | close
  | stopServer

/-- What comes of it. -/
inductive ExchangeAnswer where
  | unit
  | server (name : Option String)
  | bool (b : Bool)
  | response (r : QueryResponse)
  /-- The rows up to the end or the failure that ended them. -/
  | rows (rows : List Json) (failure : Option ClientError)
  | failure (e : ClientError)

/-- The remaining elements of a stream, at most `count` of them. -/
def drain : (count : Nat) → ElementStream → List Json × Option ClientError
  | 0, _ => ([], none)
  | count + 1, s =>
    match s.next with
    | (.error e, _) => ([], some e)
    | (.ok none, _) => ([], none)
    | (.ok (some row), rest) =>
      let (rows, failure) := drain count rest
      (row :: rows, failure)

/-- A client's transport and the server at the other end. -/
structure Link where
  transport : HttpTransport
  server : ScriptedServer

namespace Link

/-- Send a request, if there is one, and read what comes of it. The request is returned if the
server has seen it. -/
def send {α : Type} (l : Link) (request : Result HttpRequest) (answer : Delivery → Result α) :
    Result α × Option HttpRequest × Link :=
  match request with
  | .error e => (.error e, none, l)
  | .ok r =>
    let (delivery, seen, server) := l.server.exchange
    (answer delivery, if seen then some r else none, { l with server })

/-- Ask the server what it is. -/
def probe (l : Link) : Result (Option String) × Option HttpRequest × Link :=
  l.send l.transport.probeRequest l.transport.probeAnswer

/-- Submit a statement. -/
def submit (l : Link) (sql : String) (params : List Param) (execution : String)
    (options : SubmitOptions) : Result QueryResponse × Option HttpRequest × Link :=
  l.send (l.transport.submitRequest sql params execution options) l.transport.submitAnswer

/-- Fetch the rows of a response. -/
def fetch (l : Link) (r : QueryResponse) : Result ElementStream × Option HttpRequest × Link :=
  l.send (l.transport.fetchRequest r) l.transport.fetchAnswer

/-- Cancel an execution. -/
def cancel (l : Link) (execution : String) : Result Unit × Option HttpRequest × Link :=
  l.send (l.transport.cancelRequest execution) l.transport.cancelAnswer

/-- Stop talking. -/
def close (l : Link) : Link := { l with transport := l.transport.close }

/-- Stop the server from listening. -/
def stopServer (l : Link) : Link := { l with server := { l.server with down := true } }

/-- The answer that a result gives. -/
def answerOf {α : Type} (answer : α → ExchangeAnswer) : Result α → ExchangeAnswer
  | .ok v => answer v
  | .error e => .failure e

/-- Do what a client wants. -/
def run (l : Link) : Exchange → ExchangeAnswer × Option HttpRequest × Link
  | .connect =>
    let (result, request, l) := l.probe
    (answerOf .server result, request, l)
  | .ping =>
    let (result, request, l) := l.probe
    (.bool (match result with | .ok _ => true | .error _ => false), request, l)
  | .submit sql params execution options =>
    let (result, request, l) := l.submit sql params execution options
    (answerOf .response result, request, l)
  | .fetch response =>
    let (result, request, l) := l.fetch response
    let rows (elements : ElementStream) : ExchangeAnswer :=
      let (rows, failure) := drain (elements.input.size + 1) elements
      .rows rows failure
    (answerOf rows result, request, l)
  | .cancel execution =>
    let (result, request, l) := l.cancel execution
    (answerOf (fun _ => .unit) result, request, l)
  | .close => (.unit, none, l.close)
  | .stopServer => (.unit, none, l.stopServer)

/-- Do one thing after the other, setting the replies that come with them. -/
def runAll (l : Link) :
    List (Option ScriptedReply × Exchange) → List (ExchangeAnswer × Option HttpRequest)
  | [] => []
  | (reply, exchange) :: rest =>
    let ready := { l with server := { l.server with replies := l.server.replies ++ reply.toList } }
    let (answer, request, after) := ready.run exchange
    (answer, request) :: runAll after rest

end Link

end QueryClient.Scenario
