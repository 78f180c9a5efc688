import QueryClient.Text.Blank
import QueryClient.Text.Numeral

/-!
# Server identification

A service names itself as `name/version` when it is asked for a connection. `ProductVersion.read`
never fails: what cannot be read falls back to a default, and a number beyond 32 bits to zero.
-/

namespace QueryClient

/-- The product that a service says it is. -/
structure ProductVersion where
  name : String
  version : String
  major : Nat
  minor : Nat
  deriving DecidableEq

namespace ProductVersion

/-- The name of a service that gives none. -/
def defaultName : String := "Apache AsterixDB"

/-- A version with defaults for an absent name and an absent version text. -/
def ofParts (name version : Option String) (major minor : Nat) : ProductVersion :=
  ⟨name.getD defaultName, version.getD (toString major ++ "." ++ toString minor), major, minor⟩

/-- The number at the start of a text; none without a digit, zero beyond 32 bits. -/
def leadingNumber? (cs : List Char) : Option Nat :=
  (Text.readNat? (cs.takeWhile Text.isDigit)).map fun n => if n < 4294967296 then n else 0

/-- The minor number behind a major one: digits right after a point. -/
def minorNumber? (cs : List Char) : Option Nat :=
  match cs.dropWhile Text.isDigit with
  | '.' :: rest => leadingNumber? rest
  | _ => none

/-- The identification `name[/version]`. An empty name, or none, gives the defaults. -/
def read (server : Option String) : ProductVersion :=
  match server.map String.toList with
  | none | some [] | some ('/' :: _) => ofParts none none 0 0
  | some cs =>
    match Text.splitOnce '/' cs with
    | none => ofParts (some (String.ofList cs)) none 0 0
    | some (name, version) =>
      let major := leadingNumber? version
      let minor := if major.isSome then minorNumber? version else none
      ofParts (some (String.ofList name)) (some (String.ofList version)) (major.getD 0)
        (minor.getD 0)

/-- The name and the version. -/
def text (v : ProductVersion) : String := v.name ++ " " ++ v.version

end ProductVersion

end QueryClient
