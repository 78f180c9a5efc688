/-!
# Failures

`ClientError` lists the causes of failure, `ClientError.message` is their one wording and
`ClientError.kind` the coarse category a caller acts on. `CloseErrors` collects the failures of
several closes: the first is reported, the others ride along.
-/

namespace QueryClient

/-- What a failing operation reports. -/
inductive ClientError where
  | auth (message : String)
  | connection (message : String) (transient : Bool)
  | timeout (message : String)
  | protocol (message : String)
  | statement (code : Int32) (message : String)
  | closed (object : String)
  | unsupportedType (typeName : String)
  | typeMismatch (column requested actual : String)
  | columnNotFound (column : String)
  | invalidValue (parameter : String)
  | invalidStatementCategory
  | noCurrentRow
  | config (message : String)
  | close (primary : ClientError) (suppressed : List ClientError)

/-- The category of a failure. -/
inductive ErrorKind where
  | authorization
  | connection
  | timeout
  | protocol
  | statement
  | clientUsage
  deriving DecidableEq

namespace ClientError

/-- The failure of a service that refuses the credentials. -/
def unauthorized : ClientError := .auth "authentication/authorization error"

/-- The text shown for a failure. -/
def message : ClientError → String
  | .auth m => "auth: " ++ m
  | .connection m _ => "connection: " ++ m
  | .timeout m => "timeout: " ++ m
  | .protocol m => "protocol: " ++ m
  | .statement code m => "statement: " ++ m ++ " (code " ++ toString code.toInt ++ ")"
  | .closed object => "closed: " ++ object ++ " is closed"
  | .unsupportedType name => "unsupported type: " ++ name
  | .typeMismatch column requested actual =>
    "type mismatch: cannot read " ++ actual ++ " column " ++ column ++ " as " ++ requested
  | .columnNotFound column => "column not found: " ++ column
  | .invalidValue parameter => "invalid value: unsupported or invalid value of " ++ parameter
  | .invalidStatementCategory => "usage: invalid statement category"
  | .noCurrentRow => "usage: no current row"
  | .config m => "config: " ++ m
  | .close primary suppressed =>
    "close: " ++ primary.message ++ " (" ++ toString suppressed.length ++ " more)"

/-- The category of a failure; that of several close failures is the first one's. -/
def kind : ClientError → ErrorKind
  | .auth _ => .authorization
  | .connection .. => .connection
  | .timeout _ => .timeout
  | .protocol _ => .protocol
  | .statement .. => .statement
  | .close primary _ => primary.kind
  | _ => .clientUsage

/-- Whether trying again may help. -/
def isTransient : ClientError → Bool
  | .connection _ transient => transient
  | _ => false

/-- The failures behind the primary one. -/
def suppressed : ClientError → List ClientError
  | .close _ errors => errors
  | _ => []

end ClientError

/-- The result of an operation that may fail. -/
abbrev Result (α : Type) := Except ClientError α

/-- Failures met so far while closing several things, oldest first. -/
structure CloseErrors where
  errors : List ClientError

namespace CloseErrors

/-- No failure yet. -/
def empty : CloseErrors := ⟨[]⟩

/-- Note the result of one close. -/
def record (c : CloseErrors) : Result Unit → CloseErrors
  | .ok _ => c
  | .error e => ⟨c.errors ++ [e]⟩

/-- Whether every close so far succeeded. -/
def isEmpty (c : CloseErrors) : Bool := c.errors.isEmpty

/-- Success if nothing failed, a single failure as it is, and of several the first one with the
others behind it. -/
def toResult (c : CloseErrors) : Result Unit :=
  match c.errors with
  | [] => .ok ()
  | [e] => .error e
  | primary :: rest => .error (.close primary rest)

end CloseErrors

/-- A diagnostic of the service that did not make an operation fail. -/
structure Warning where
  code : Int32
  message : String
  deriving DecidableEq

/-- The text shown for a warning. -/
def Warning.text (w : Warning) : String :=
  "warning " ++ toString w.code.toInt ++ ": " ++ w.message

end QueryClient
