import QueryClient.Response.Reader
import QueryClient.Scenario.Step
import QueryClient.Tagged.Encode

/-!
# Scripted services

A `ScriptedService` answers from a script. A text or a handle with several entries answers with
one after the other, and with the last one from then on.
-/

namespace QueryClient.Scenario

/-- What a service answers to a statement. -/
structure SubmitEntry where
  /-- A step that is taken before the answer. -/
  hook : Option Step
  answer : Result QueryResponse

/-- A step that is taken once an input has been looked at from an offset on. -/
structure Watch where
  offset : Nat
  step : Step

/-- The rows behind a handle. -/
structure Rows where
  input : Input
  watch : Option Watch

/-- A service that answers from a script. -/
structure ScriptedService where
  policy : TransientPolicy
  /-- What it answers to being connected to: its identification. -/
  server : Result (Option String)
  ping : Bool
  submissions : List (String × List SubmitEntry)
  results : List (String × List (Result Rows))
  cancel : Result Unit
  close : Result Unit

/-- The entry that is next, and the entries from then on. -/
def takeEntry {α : Type} : List α → Option (α × List α)
  | [] => none
  | [e] => some (e, [e])
  | e :: rest => some (e, rest)

/-- The next entry under a name. -/
def takeNamed {α : Type} (name : String) (script : List (String × List α)) :
    Option (α × List (String × List α)) :=
  match (Members.get? name script).bind takeEntry with
  | some (e, rest) => some (e, Members.put name rest script)
  | none => none

/-- The name under which the answer to a submission is found: compiling may have an entry of its
own. -/
def ScriptedService.entryName (s : ScriptedService) (submission : Submission) : String :=
  let compiling := "compile:" ++ submission.sql
  if submission.options.compileOnly ∧ Members.has compiling s.submissions then compiling
  else submission.sql

end QueryClient.Scenario
