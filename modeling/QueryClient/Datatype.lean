/-!
# Wire types

The types that a value on the wire can have. Each has a one-byte tag, which marks tagged texts,
and a name, which stands in result signatures.
-/

namespace QueryClient

/-- A wire type. -/
inductive Datatype where
  | tinyInt
  | smallInt
  | integer
  | bigInt
  | float
  | double
  | string
  | missing
  | boolean
  | datetime
  | date
  | time
  | duration
  | array
  | multiset
  | object
  | any
  | yearMonthDuration
  | dayTimeDuration
  | uuid
  | null
  deriving DecidableEq

namespace Datatype

/-- All wire types, in the order of their tags. -/
def all : List Datatype :=
  [.tinyInt, .smallInt, .integer, .bigInt, .float, .double, .string, .missing, .boolean,
    .datetime, .date, .time, .duration, .array, .multiset, .object, .any, .yearMonthDuration,
    .dayTimeDuration, .uuid, .null]

/-- The tag of a type, below 256. -/
def tag : Datatype → Nat
  | .tinyInt => 0x01
  | .smallInt => 0x02
  | .integer => 0x03
  | .bigInt => 0x04
  | .float => 0x0B
  | .double => 0x0C
  | .string => 0x0D
  | .missing => 0x0E
  | .boolean => 0x0F
  | .datetime => 0x10
  | .date => 0x11
  | .time => 0x12
  | .duration => 0x13
  | .array => 0x16
  | .multiset => 0x17
  | .object => 0x18
  | .any => 0x1D
  | .yearMonthDuration => 0x24
  | .dayTimeDuration => 0x25
  | .uuid => 0x26
  | .null => 0x29

/-- The name of a type in result signatures. -/
def typeName : Datatype → String
  | .tinyInt => "int8"
  | .smallInt => "int16"
  | .integer => "int32"
  | .bigInt => "int64"
  | .float => "float"
  | .double => "double"
  | .string => "string"
  | .missing => "missing"
  | .boolean => "boolean"
  | .datetime => "datetime"
  | .date => "date"
  | .time => "time"
  | .duration => "duration"
  | .array => "array"
  | .multiset => "multiset"
  | .object => "object"
  | .any => "any"
  | .yearMonthDuration => "year-month-duration"
  | .dayTimeDuration => "day-time-duration"
  | .uuid => "uuid"
  | .null => "null"

/-- The type with a tag. -/
def ofTag? (tag : Nat) : Option Datatype := all.find? fun t => t.tag == tag

/-- Whether a signature's type name marks its column as nullable: it ends in a question mark. -/
def isNullableName (name : String) : Bool := name.toList.getLast? == some '?'

/-- The type named in a signature; one question mark at the end is ignored. -/
def ofTypeName? (name : String) : Option Datatype :=
  let bare := if isNullableName name then String.ofList name.toList.dropLast else name
  all.find? fun t => t.typeName == bare

/-- Whether values of the type are numbers. -/
def isNumeric : Datatype → Bool
  | .tinyInt | .smallInt | .integer | .bigInt | .float | .double => true
  | _ => false

end Datatype

end QueryClient
