import QueryClient.Binary.Basic
import QueryClient.Calendar.Time
import QueryClient.Datatype
import QueryClient.Uuid

/-!
# Values

A decoded wire value: a scalar of one of the wire types, or a container of values. An object keeps
its fields in order and may repeat a name.
-/

namespace QueryClient

/-- A value of a wire type. -/
inductive Value where
  | null
  | missing
  | boolean (b : Bool)
  | tinyInt (n : Int8)
  | smallInt (n : Int16)
  | integer (n : Int32)
  | bigInt (n : Int64)
  | float (x : Binary32)
  | double (x : Binary64)
  | string (s : String)
  | date (d : Date)
  | time (t : Time)
  | datetime (d : Datetime)
  | duration (months : Int32) (millis : Int64)
  | yearMonthDuration (months : Int32)
  | dayTimeDuration (millis : Int64)
  | uuid (u : Uuid)
  | array (items : List Value)
  | multiset (items : List Value)
  | object (fields : List (String × Value))

namespace Value

/-- The wire type of a value. -/
def datatype : Value → Datatype
  | .null => .null
  | .missing => .missing
  | .boolean _ => .boolean
  | .tinyInt _ => .tinyInt
  | .smallInt _ => .smallInt
  | .integer _ => .integer
  | .bigInt _ => .bigInt
  | .float _ => .float
  | .double _ => .double
  | .string _ => .string
  | .date _ => .date
  | .time _ => .time
  | .datetime _ => .datetime
  | .duration .. => .duration
  | .yearMonthDuration _ => .yearMonthDuration
  | .dayTimeDuration _ => .dayTimeDuration
  | .uuid _ => .uuid
  | .array _ => .array
  | .multiset _ => .multiset
  | .object _ => .object

/-- Both the null value and the missing one read as null. -/
def isNull : Value → Bool
  | .null | .missing => true
  | _ => false

/-- The number of an integer value. -/
def wholeNumber? : Value → Option Int64
  | .tinyInt n => some n.toInt64
  | .smallInt n => some n.toInt64
  | .integer n => some n.toInt64
  | .bigInt n => some n
  | _ => none

end Value

end QueryClient
