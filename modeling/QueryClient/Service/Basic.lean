import QueryClient.Param
import QueryClient.Response.Basic

/-!
# Submissions

What a client sends to a query service for one execution. A `Token` tags an execution, so that it
can be cancelled from elsewhere.
-/

namespace QueryClient

/-- The tag of one execution. Tokens are numbered in the order in which they are drawn. -/
abbrev Token := Nat

/-- The switches of one submission. -/
structure SubmitOptions where
  dataverse : Option String
  /-- In seconds; zero leaves the service its default. -/
  timeout : Nat
  forceReadOnly : Bool
  compileOnly : Bool
  sqlCompat : Bool
  deriving DecidableEq

/-- A statement text sent for execution. -/
structure Submission where
  sql : String
  params : List Param
  token : Token
  options : SubmitOptions

end QueryClient
