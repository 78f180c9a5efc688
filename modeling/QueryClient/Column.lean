import QueryClient.Datatype
import QueryClient.Error

/-!
# Result columns

A column has a name, a declared type and a mark whether it may be null. A `ColumnRef` addresses
one by its position, counted from 1, or by its name; the first column of a name counts.
-/

namespace QueryClient

/-- A column as the signature of a result declares it. -/
structure Column where
  name : String
  datatype : Datatype
  nullable : Bool
  deriving DecidableEq

/-- The text shown for a column: its name and type, with a question mark if it may be null. -/
def Column.text (c : Column) : String :=
  c.name ++ ":" ++ c.datatype.typeName ++ (if c.nullable then "?" else "")

/-- The address of a column. -/
inductive ColumnRef where
  /-- The position, counted from 1. -/
  | position (n : Nat)
  | name (s : String)
  deriving DecidableEq

/-- The index of the addressed column, counted from 0. -/
def ColumnRef.resolve (columns : List Column) : ColumnRef → Result Nat
  | .position n =>
    if n = 0 ∨ columns.length < n then .error (.columnNotFound (toString n)) else .ok (n - 1)
  | .name s =>
    match columns.findIdx? fun c => c.name == s with
    | some i => .ok i
    | none => .error (.columnNotFound s)

end QueryClient
