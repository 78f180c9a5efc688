import QueryClient.Error
import QueryClient.Json.Basic
import QueryClient.Param
import QueryClient.Text.Hex
import QueryClient.Text.Numeral

/-!
# Writing tagged values

A value travels as JSON. Null, booleans and 64-bit integers are plain JSON and containers are JSON
containers. A string has a colon in front. Every other scalar is the text `TT:payload`, with the
tag of its type in two upper-case hexadecimal digits; a floating-point number is sent as the signed
integer with its bits. Missing values and durations of months and milliseconds cannot be sent.
-/

namespace QueryClient

namespace Tagged

/-- The text of a payload behind the tag of its type. -/
def tagged (t : Datatype) (payload : List Char) : Json :=
  .string (String.ofList (Text.upperHexText 2 t.tag ++ ':' :: payload))

/-- The failure of a value that cannot be sent. -/
def unsupported (v : Value) : ClientError := .unsupportedType v.datatype.typeName

mutual

/-- The JSON form of a value. -/
def encode : Value → Result Json
  | .null => .ok .null
  | .boolean b => .ok (.bool b)
  | .bigInt n => .ok (Json.ofInt64 n)
  | .tinyInt n => .ok (tagged .tinyInt (Text.intText n.toInt))
  | .smallInt n => .ok (tagged .smallInt (Text.intText n.toInt))
  | .integer n => .ok (tagged .integer (Text.intText n.toInt))
  | .float x => .ok (tagged .float (Text.intText x.canonical.bits.toInt32.toInt))
  | .double x => .ok (tagged .double (Text.intText x.canonical.bits.toInt64.toInt))
  | .string s => .ok (.string (String.ofList (':' :: s.toList)))
  | .date d => .ok (tagged .date (Text.intText d.days))
  | .time t => .ok (tagged .time (Text.intText t.millis))
  | .datetime d => .ok (tagged .datetime (Text.intText d.millis))
  | .yearMonthDuration months => .ok (tagged .yearMonthDuration (Text.intText months.toInt))
  | .dayTimeDuration millis => .ok (tagged .dayTimeDuration (Text.intText millis.toInt))
  | .uuid u => .ok (tagged .uuid u.text)
  | .array items => (encodeItems items).map .array
  | .multiset items => (encodeItems items).map .array
  | .object fields => (encodeFields fields).map Json.ofMembers
  | .missing => .error (unsupported .missing)
  | .duration months millis => .error (unsupported (.duration months millis))

/-- The JSON forms of the elements of a container; the first failure ends it. -/
def encodeItems : List Value → Result (List Json)
  | [] => .ok []
  | v :: rest => do
    let j ← encode v
    let js ← encodeItems rest
    return j :: js

/-- The JSON forms of the fields of an object; the first failure ends it. -/
def encodeFields : List (String × Value) → Result (List (String × Json))
  | [] => .ok []
  | (name, v) :: rest => do
    let j ← encode v
    let js ← encodeFields rest
    return (name, j) :: js

end

end Tagged

namespace Param

/-- The JSON form of a parameter. -/
def encode : Param → Result Json
  | .value v => Tagged.encode v
  | .zonedDate i => .ok (Tagged.tagged .date (Text.intText (truncateToDays i.wallMillis)))
  | .zonedTime i => .ok (Tagged.tagged .time (Text.intText (millisAfterDays i.wallMillis)))
  | .zonedDatetime i => .ok (Tagged.tagged .datetime (Text.intText i.wallMillis))

/-- The JSON forms of a list of parameters; the first failure ends it. -/
def encodeAll : List Param → Result (List Json)
  | [] => .ok []
  | p :: rest => do
    let j ← p.encode
    let js ← encodeAll rest
    return j :: js

end Param

end QueryClient
