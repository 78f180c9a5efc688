/-!
# Credentials in diagnostics

A password is shown only if the caller asks for it; otherwise a mark stands in its place.
-/

namespace QueryClient.Credentials

/-- What stands in place of a hidden password. -/
def redacted : String := "[REDACTED]"

/-- What stands in place of an absent value. -/
def notSet : String := "(not set)"

/-- A password, hidden unless it is to be revealed. -/
def secretText (secret : String) (reveal : Bool) : String := if reveal then secret else redacted

/-- A password that may be absent. -/
def optionalSecretText (secret : Option String) (reveal : Bool) : String :=
  match secret with
  | some s => secretText s reveal
  | none => notSet

/-- A user and a password, as connection diagnostics show them. -/
def text (user secret : Option String) (reveal : Bool) : String :=
  "user=" ++ user.getD notSet ++ " password=" ++ optionalSecretText secret reveal

end QueryClient.Credentials
