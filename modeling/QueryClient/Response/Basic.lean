import QueryClient.Column
import QueryClient.Json.Printer
import QueryClient.Text.Blank

/-!
# What the service answers to a statement

A `QueryResponse` tells how a statement went, what kind of statement it is, and where its rows can
be fetched. The functions on it read off what a client wants to know: the columns of the result,
the count of parameters, the text of a plan, the warnings and the first error.
-/

namespace QueryClient

/-- How a statement went. -/
inductive ResponseStatus where
  | running
  | success
  | timeout
  | failed
  | fatal
  deriving DecidableEq

/-- The kind of a statement. -/
inductive StatementCategory where
  | query
  | update
  | ddl
  | procedure
  deriving DecidableEq

namespace ResponseStatus

/-- The status of a name, in any case. -/
def ofName? (name : String) : Option ResponseStatus :=
  match String.ofList (Text.upper name.toList) with
  | "RUNNING" => some .running
  | "SUCCESS" => some .success
  | "TIMEOUT" => some .timeout
  | "FAILED" => some .failed
  | "FATAL" => some .fatal
  | _ => none

end ResponseStatus

namespace StatementCategory

/-- The kind of statement of a name, in any case. -/
def ofName? (name : String) : Option StatementCategory :=
  match String.ofList (Text.upper name.toList) with
  | "QUERY" => some .query
  | "UPDATE" => some .update
  | "DDL" => some .ddl
  | "PROCEDURE" => some .procedure
  | _ => none

end StatementCategory

/-- What compiling has found out about a statement. -/
structure Plans where
  category : Option StatementCategory
  /-- The positions of the parameters that the statement mentions. -/
  parameters : List Json
  /-- Whether the statement only asks for its plan. -/
  explainOnly : Bool

/-- The columns of a result: their names and the names of their types. -/
structure Signature where
  names : List String
  types : List String

/-- An error or a warning of the service. -/
structure ServiceMessage where
  code : Int32
  text : String

/-- The answer to one statement. A status that is not known counts as none. -/
structure QueryResponse where
  status : Option ResponseStatus
  plans : Option Plans
  signature : Option Signature
  /-- Where the rows can be fetched. -/
  handle : Option String
  /-- The plan of a statement that only asks for it. -/
  results : List Json
  errors : List ServiceMessage
  warnings : List ServiceMessage

namespace QueryResponse

/-- The kind of the statement. -/
def category (r : QueryResponse) : Option StatementCategory := r.plans.bind Plans.category

/-- Whether the statement is a query. -/
def isQuery (r : QueryResponse) : Bool := r.category = some .query

/-- Whether the statement only asks for its plan. -/
def isExplainOnly (r : QueryResponse) : Bool := (r.plans.map Plans.explainOnly).getD false

/-- The update count of the statement: the service tells no more than whether it was an update. -/
def updateCount (r : QueryResponse) : Int := if r.category = some .update then 1 else 0

/-- The position of a parameter: a natural number. -/
def parameterPosition (j : Json) : Result Nat :=
  let position :=
    match j with
    | .int n => n.toNat?
    | _ => none
  match position with
  | some n => .ok n
  | none => .error (.invalidValue ("statement parameter " ++ j.text))

/-- How many parameters the statement has: the greatest position that it mentions. -/
def parameterCount (r : QueryResponse) : Result Nat :=
  match r.plans with
  | none => .error (.protocol "compile response carries no plans")
  | some plans => (plans.parameters.mapM parameterPosition).map fun ps => ps.foldl max 0

/-- The column with a name and the name of a type. -/
def columnOf (name type : String) : Result Column :=
  match Datatype.ofTypeName? type with
  | some t => .ok ⟨name, t, Datatype.isNullableName type⟩
  | none => .error (.protocol ("bad result signature: unknown type '" ++ type ++ "'"))

/-- The columns of the result. A plan has a single one. -/
def columns (r : QueryResponse) : Result (List Column) :=
  if r.isExplainOnly then .ok [⟨"$1", .string, false⟩]
  else
    match r.signature with
    | none => .error (.protocol "response carries no signature")
    | some s =>
      if s.names = [] ∨ s.names.length ≠ s.types.length then
        .error (.protocol "bad result signature")
      else (s.names.zip s.types).mapM fun c => columnOf c.1 c.2

/-- The lines of the plan. -/
def explainLines (r : QueryResponse) : Result (List String) :=
  match r.results with
  | .string text :: _ => .ok ((Text.lines text.toList).map String.ofList)
  | _ => .error (.protocol "explain response carries no plan text")

/-- The first error that the service reports. -/
def firstError (r : QueryResponse) : Option ClientError :=
  r.errors.head?.map fun m => .statement m.code m.text

/-- The warnings that the service reports. -/
def warningList (r : QueryResponse) : List Warning :=
  r.warnings.map fun m => ⟨m.code, m.text⟩

end QueryResponse

end QueryClient
