import QueryClient.Column
import QueryClient.Tagged.Decode

/-!
# Rows

`Row.decode` lays a raw row of a result out over the declared columns. An object gives the columns
their values by name and an array by position; with a single column the row may also be the bare
value. A column without a value is missing.
-/

namespace QueryClient

/-- The values of the columns of one row. -/
abbrev Row := List Value

namespace Row

/-- The values of an object's members by the names of the columns. -/
def ofObject (columns : List Column) (fields : List (String × Json)) : Result Row :=
  columns.mapM fun c =>
    match Members.get? c.name fields with
    | some j => Tagged.decode j
    | none => .ok .missing

/-- The values of an array's elements by position: elements beyond the columns are dropped once
decoded, columns beyond the elements are missing. -/
def ofArray (columns : List Column) (items : List Json) : Result Row := do
  let values ← Tagged.decodeItems items
  return values.take columns.length ++
    List.replicate (columns.length - values.length) Value.missing

/-- The bare value of the only column. -/
def ofScalar (columns : List Column) (raw : Json) : Result Row :=
  if columns.length = 1 then (Tagged.decode raw).map fun v => [v]
  else
    .error (.protocol ("result row does not match a " ++ toString columns.length ++
      "-column signature"))

/-- Whether the first column holds arrays or multisets. -/
def startsWithList (columns : List Column) : Bool :=
  match columns.head?.map Column.datatype with
  | some .array | some .multiset => true
  | _ => false

/-- The values of the columns in a raw row. With a single column an object that lacks the column's
name, and an array if the column is a list, is the bare value. -/
def decode (columns : List Column) (raw : Json) : Result Row :=
  match raw with
  | .object fields =>
    if 1 < columns.length ∨ columns.any fun c => Members.has c.name fields then
      ofObject columns fields
    else ofScalar columns raw
  | .array items =>
    if 1 < columns.length ∨ ¬startsWithList columns then ofArray columns items
    else ofScalar columns raw
  | _ => ofScalar columns raw

end Row

end QueryClient
