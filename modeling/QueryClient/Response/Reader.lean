import QueryClient.Json.Record
import QueryClient.Response.Basic

/-!
# Reading responses

`QueryResponse.read?` reads the body of an answer. The response, its plans, its signature and its
messages are records, every field of which may be left out.
-/

namespace QueryClient

open Json TreeReader

/-- The kind of a statement or its status by name; a name that is not known counts as none. -/
def readLenient {α : Type} (ofName? : String → Option α) : TreeReader (Option α) :=
  fun depth t => (orNull string depth t).map fun name => name.bind ofName?

/-- What compiling has found out about a statement. -/
def Plans.ofTree? : TreeReader Plans := fun depth t => do
  let r ← record? ["statementCategory", "statementParameters", "explainOnly"] depth t
  let category ← field? (readLenient StatementCategory.ofName?) none "statementCategory" r
  let parameters ← field? (orNull (list value)) none "statementParameters" r
  let explainOnly ← field? (orNull bool) none "explainOnly" r
  return ⟨category, parameters.getD [], explainOnly.getD false⟩

/-- The columns of a result. -/
def Signature.ofTree? : TreeReader Signature := fun depth t => do
  let r ← record? ["name", "type"] depth t
  let names ← field? (orNull (list string)) none "name" r
  let types ← field? (orNull (list string)) none "type" r
  return ⟨names.getD [], types.getD []⟩

/-- An error or a warning. -/
def ServiceMessage.ofTree? : TreeReader ServiceMessage := fun depth t => do
  let r ← record? ["code", "msg"] depth t
  let code ← field? int32 0 "code" r
  let text ← field? string "" "msg" r
  return ⟨code, text⟩

namespace QueryResponse

/-- A response. -/
def ofTree? : TreeReader QueryResponse := fun depth t => do
  let r ← record?
    ["status", "plans", "signature", "handle", "results", "errors", "warnings"] depth t
  let status ← field? (readLenient ResponseStatus.ofName?) none "status" r
  let plans ← field? (orNull Plans.ofTree?) none "plans" r
  let signature ← field? (orNull Signature.ofTree?) none "signature" r
  let handle ← field? (orNull string) none "handle" r
  let results ← field? (orNull (list value)) none "results" r
  let errors ← field? (orNull (list ServiceMessage.ofTree?)) none "errors" r
  let warnings ← field? (orNull (list ServiceMessage.ofTree?)) none "warnings" r
  return ⟨status, plans, signature, handle, results.getD [], errors.getD [], warnings.getD []⟩

/-- The response that a body holds. -/
def read? (body : List UInt8) : Option QueryResponse :=
  (Tree.read? body).bind (ofTree? depthLimit)

end QueryResponse

end QueryClient
