import QueryClient.Calendar.Duration
import QueryClient.Json.Printer
import QueryClient.Value.Basic

/-!
# Canonical text of values

`Value.scalarText` writes a scalar as plain text; `Value.toJson` writes any value as JSON without
type tags; `Value.text` is the canonical text: the plain text of a scalar and the compact JSON
text of a container.
-/

namespace QueryClient.Value

/-- The text of a scalar; containers have none of their own. -/
def scalarText : Value → List Char
  | .null => "null".toList
  | .missing => "missing".toList
  | .boolean b => (if b then "true" else "false").toList
  | .tinyInt n => Text.intText n.toInt
  | .smallInt n => Text.intText n.toInt
  | .integer n => Text.intText n.toInt
  | .bigInt n => Text.intText n.toInt
  | .float x => x.text Binary.plain
  | .double x => x.text Binary.plain
  | .string s => s.toList
  | .date d => d.text
  | .time t => t.text
  | .datetime d => d.text
  | .duration months millis => durationText months.toInt millis.toInt
  | .yearMonthDuration months => durationText months.toInt 0
  | .dayTimeDuration millis => durationText 0 millis.toInt
  | .uuid u => u.text
  | .array _ | .multiset _ | .object _ => []

/-- A double as a JSON number; infinities and NaNs have no such form and become strings. -/
def doubleJson (x : Binary64) (text : List Char) : Json :=
  match FiniteDouble.ofBinary64? x with
  | some d => .double d
  | none => .string (String.ofList text)

mutual

/-- The value as plain JSON. Of a repeated field name the first position and the last value
remain. -/
def toJson : Value → Json
  | .null => .null
  | .missing => .null
  | .boolean b => .bool b
  | .tinyInt n => Json.ofInt64 n.toInt64
  | .smallInt n => Json.ofInt64 n.toInt64
  | .integer n => Json.ofInt64 n.toInt64
  | .bigInt n => Json.ofInt64 n
  | .float x => doubleJson (Binary64.ofBinary32 x) (x.text Binary.plain)
  | .double x => doubleJson x (x.text Binary.plain)
  | .array items => .array (toJsonItems items)
  | .multiset items => .array (toJsonItems items)
  | .object fields => Json.ofMembers (toJsonFields fields)
  | .string s => .string s
  | .date d => .string (String.ofList d.text)
  | .time t => .string (String.ofList t.text)
  | .datetime d => .string (String.ofList d.text)
  | .duration months millis => .string (String.ofList (durationText months.toInt millis.toInt))
  | .yearMonthDuration months => .string (String.ofList (durationText months.toInt 0))
  | .dayTimeDuration millis => .string (String.ofList (durationText 0 millis.toInt))
  | .uuid u => .string (String.ofList u.text)

/-- The elements as plain JSON. -/
def toJsonItems : List Value → List Json
  | [] => []
  | v :: rest => toJson v :: toJsonItems rest

/-- The fields as plain JSON, repeated names included. -/
def toJsonFields : List (String × Value) → List (String × Json)
  | [] => []
  | (name, v) :: rest => (name, toJson v) :: toJsonFields rest

end

/-- The canonical text of a value. -/
def text (v : Value) : String :=
  match v with
  | .array _ | .multiset _ | .object _ => v.toJson.text
  | _ => String.ofList v.scalarText

end QueryClient.Value
