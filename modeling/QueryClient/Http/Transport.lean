import QueryClient.Http.Message
import QueryClient.Response.Reader
import QueryClient.Service.Basic
import QueryClient.Stream.Elements
import QueryClient.Tagged.Encode
import QueryClient.Text.Base64
import QueryClient.Url.Basic

/-!
# Talking to a service

An `HttpTransport` knows the addresses of one service. For each thing a client wants from the
service there is a function that makes the request and one that reads what comes of it. No request
is made once the transport is closed.
-/

namespace QueryClient

/-- The client's end of the talk to one service. -/
structure HttpTransport where
  queryEndpoint : Url
  /-- The address of results, without slashes at its end. -/
  resultEndpoint : String
  activeRequestsEndpoint : Url
  user : Option String
  password : Option String
  maxWarnings : Nat
  policy : TransientPolicy
  closed : Bool

namespace HttpTransport

/-! ### Addresses -/

/-- The address of a path at the configured service. -/
def endpoint (config : ClientConfig) (path : String) : Result Url :=
  let host := config.host ++ ":" ++ toString config.port
  match Url.read? (config.scheme ++ "://" ++ host ++ path) with
  | some url => .ok url
  | none => .error (.invalidValue ("endpoint " ++ host))

/-- A text without slashes at its end. -/
def withoutSlashes (s : String) : String :=
  String.ofList (s.toList.reverse.dropWhile (· = '/')).reverse

/-- The transport to the configured service. -/
def create (config : ClientConfig) : Result HttpTransport := do
  let query ← endpoint config "/query/service"
  let result ← endpoint config "/query/service/result"
  let active ← endpoint config config.activeRequestsPath
  return {
    queryEndpoint := query
    resultEndpoint := withoutSlashes result.text
    activeRequestsEndpoint := active
    user := config.user
    password := config.password
    maxWarnings := config.maxWarnings
    policy := config.policy
    closed := false }

/-- Stop talking. -/
def close (t : HttpTransport) : HttpTransport := { t with closed := true }

/-! ### Requests -/

/-- The credentials, if there is a user. -/
def authorization (t : HttpTransport) : Option String :=
  t.user.map fun user =>
    let plain := user ++ ":" ++ t.password.getD ""
    "Basic " ++ String.ofList (Text.Base64.encode (Text.Utf8.encode plain.toList))

/-- A request without a body. -/
def request (t : HttpTransport) (method : String) (url : Url) (accept : String) :
    Result HttpRequest :=
  if t.closed then .error (.closed "transport")
  else .ok ⟨method, String.ofList url.target, accept, t.authorization, none, none⟩

/-- The types that a client takes when it does not care. -/
def anything : String := "*/*"

/-! ### Seeing whether the service is there -/

/-- Ask the service what it is. -/
def probeRequest (t : HttpTransport) : Result HttpRequest :=
  t.request "OPTIONS" t.queryEndpoint anything

/-- What the service says it is. -/
def probeAnswer (t : HttpTransport) : Delivery → Result (Option String)
  | .error fault => .error (t.policy.httpError fault "failed to reach query service")
  | .ok reply =>
    if reply.isSuccess then .ok reply.serverName
    else if reply.isRefusal then .error .unauthorized
    else .error (.connection reply.statusLine false)

/-! ### Submitting statements -/

/-- The members of a submission: what is switched off or empty is left out. -/
def submissionBody (t : HttpTransport) (sql : String) (args : List Json) (execution : String)
    (options : SubmitOptions) : Json :=
  let switch (name : String) (on : Bool) : List (String × Json) :=
    if on then [(name, .bool true)] else []
  .object ([("client-type", .string "jdbc"), ("mode", .string "deferred"),
    ("statement", .string sql), ("signature", .bool true), ("plan-format", .string "string"),
    ("max-warnings", .ofInt64 (Int64.ofNat t.maxWarnings))] ++
    switch "compile-only" options.compileOnly ++
    switch "readonly" options.forceReadOnly ++
    switch "sql-compat" options.sqlCompat ++
    (if 0 < options.timeout then
      [("timeout", .string (toString options.timeout ++ "s"))] else []) ++
    (options.dataverse.map fun d => ("dataverse", Json.string d)).toList ++
    [("client_context_id", .string execution)] ++
    (if args.isEmpty then [] else [("args", .array args)]))

/-- Submit a statement under the name of an execution. -/
def submitRequest (t : HttpTransport) (sql : String) (params : List Param) (execution : String)
    (options : SubmitOptions) : Result HttpRequest := do
  let args ← Param.encodeAll params
  let plain ← t.request "POST" t.queryEndpoint "application/json; lossless-adm=true"
  return { plain with
    contentType := some "application/json"
    body := some (t.submissionBody sql args execution options) }

/-- The response to a submission. -/
def submitAnswer (t : HttpTransport) : Delivery → Result QueryResponse
  | .error fault => .error (t.policy.httpError fault "failed to submit statement")
  | .ok reply =>
    if reply.isRefusal then .error .unauthorized
    else if ¬[200, 400, 500, 503].contains reply.status then .error (.protocol reply.statusLine)
    else if reply.truncated then .error (t.policy.httpError .broken "failed to read response")
    else
      match QueryResponse.read? reply.body with
      | none => .error (.protocol "failed to parse response")
      | some r =>
        if reply.status = 200 ∧ r.status = some .success then .ok r
        else if r.status = some .timeout then .error (.timeout "statement execution timed out")
        else .error (r.firstError.getD (.protocol reply.statusLine))

/-! ### Fetching results -/

/-- The part of a handle from its last slash on. -/
def handleSuffix? (handle : List Char) : Option (List Char) :=
  if handle.contains '/' then
    some ('/' :: (handle.reverse.takeWhile (· ≠ '/')).reverse)
  else none

/-- The address of the rows of a response. -/
def resultUrl (t : HttpTransport) (r : QueryResponse) : Result Url :=
  match r.handle with
  | none => .error (.protocol "response carries no result handle")
  | some handle =>
    let url := (handleSuffix? handle.toList).bind fun suffix =>
      Url.read? (t.resultEndpoint ++ String.ofList suffix)
    match url with
    | some u => .ok u
    | none => .error (.protocol ("malformed result handle '" ++ handle ++ "'"))

/-- Fetch the rows of a response. -/
def fetchRequest (t : HttpTransport) (r : QueryResponse) : Result HttpRequest := do
  let url ← t.resultUrl r
  t.request "GET" url "application/json"

/-- The body of a reply as it arrives. -/
def bodyInput (reply : HttpReply) : Input :=
  let fault : Fault := ⟨reply.body.length, ⟨.other, none⟩, false⟩
  Input.ofBytes 8192 reply.body (if reply.truncated then some fault else none)

/-- The rows of a response. -/
def fetchAnswer (t : HttpTransport) : Delivery → Result ElementStream
  | .error fault => .error (t.policy.httpError fault "failed to fetch result")
  | .ok reply =>
    if reply.status = 200 then
      match ElementStream.locate "results" t.policy (bodyInput reply) with
      | .ok elements _ => .ok elements
      | .error e _ => .error e
    else .error (.protocol ("no result available: " ++ reply.statusLine))

/-! ### Cancelling -/

/-- Cancel the execution of a name. -/
def cancelRequest (t : HttpTransport) (execution : String) : Result HttpRequest :=
  t.request "DELETE" (t.activeRequestsEndpoint.addPair "client_context_id" execution) anything

/-- What cancelling comes to. An execution that is not known or has ended counts as cancelled. -/
def cancelAnswer (t : HttpTransport) : Delivery → Result Unit
  | .error fault => .error (t.policy.httpError fault "failed to cancel statement")
  | .ok reply =>
    if reply.status = 200 ∨ reply.status = 404 then .ok ()
    else if reply.isRefusal then .error .unauthorized
    else .error (.protocol reply.statusLine)

end HttpTransport

end QueryClient
