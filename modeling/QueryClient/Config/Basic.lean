import QueryClient.Credentials
import QueryClient.Error

/-!
# Client configuration

`ClientConfig` holds what is needed to reach one service. `TransientPolicy` says which failures of
the transport count as transient, that is, worth another try.
-/

namespace QueryClient

/-- The kind of an input failure, as far as a policy tells kinds apart. -/
inductive IoFailure.Kind where
  | timedOut
  | wouldBlock
  | connectionRefused
  | connectionReset
  | connectionAborted
  | interrupted
  | other
  deriving DecidableEq

/-- A failure of reading input. -/
structure IoFailure where
  kind : IoFailure.Kind
  /-- What the failure says of itself, if anything. -/
  text : Option String
  deriving DecidableEq

/-- Which failures of the transport are transient. Timeouts are never subject to it. -/
inductive TransientPolicy where
  | never
  | connectFailures
  | always
  deriving DecidableEq

namespace TransientPolicy

/-- A policy by its name in configuration files. -/
def ofName? : String → Option TransientPolicy
  | "never" => some .never
  | "connect-failures" => some .connectFailures
  | "always" => some .always
  | _ => none

/-- Whether a failure is transient, given whether it was one of connecting. -/
def isTransient (p : TransientPolicy) (connecting : Bool) : Bool :=
  match p with
  | .never => false
  | .connectFailures => connecting
  | .always => true

/-- A text followed by what a failure says of itself. -/
def explain (context : String) (text : Option String) : String :=
  match text with
  | some t => context ++ ": " ++ t
  | none => context

/-- The error for a failure of reading input. -/
def ioError (p : TransientPolicy) (failure : IoFailure) (context : String) : ClientError :=
  let message := explain context failure.text
  match failure.kind with
  | .timedOut | .wouldBlock => .timeout message
  | .connectionRefused | .connectionReset | .connectionAborted | .interrupted =>
    .connection message (p.isTransient true)
  | .other => .connection message (p.isTransient false)

end TransientPolicy

/-- Everything needed to reach one service. -/
structure ClientConfig where
  host : String
  port : Nat
  user : Option String
  password : Option String
  /-- How long connecting may take, in milliseconds. -/
  connectTimeout : Option Nat
  /-- How long a request may take, in milliseconds. -/
  socketTimeout : Option Nat
  maxWarnings : Nat
  sqlCompat : Bool
  dataverse : Option String
  /-- Where running requests are cancelled. -/
  activeRequestsPath : String
  ssl : Bool
  policy : TransientPolicy
  /-- Keys of a profile that were not understood; each gives a warning on connecting. -/
  unsupported : List String

namespace ClientConfig

/-- The configuration of a service on this machine. -/
def standard : ClientConfig where
  host := "localhost"
  port := 19002
  user := none
  password := none
  connectTimeout := none
  socketTimeout := none
  maxWarnings := 10
  sqlCompat := true
  dataverse := none
  activeRequestsPath := "/admin/requests/running"
  ssl := false
  policy := .never
  unsupported := []

/-- The scheme of the service's addresses. -/
def scheme (c : ClientConfig) : String := if c.ssl then "https" else "http"

/-- The address and the credentials, the password hidden. -/
def text (c : ClientConfig) : String :=
  c.scheme ++ "://" ++ c.host ++ ":" ++ toString c.port ++ " " ++
    Credentials.text c.user c.password false

end ClientConfig

end QueryClient
