import QueryClient.Column
import QueryClient.Decimal
import QueryClient.Text.Utf8
import QueryClient.Value.Text

/-!
# Reading a value as a requested type

One function per requested type. Numbers convert to every number type, a string converts if it
spells what is asked for, and a conversion that makes no sense fails with the column, the requested
type and the type of the value. Null and missing values are settled before these functions.
-/

namespace QueryClient.Getter

/-- The failure of a conversion that makes no sense. -/
def mismatch (v : Value) (c : Column) (requested : String) : ClientError :=
  .typeMismatch c.name requested v.datatype.typeName

/-- The integer that a text spells: a 64-bit integer as it is, and any other number truncated
toward zero and clamped to 64 bits. -/
def readInt64? (s : String) : Option Int64 :=
  let cs := Text.trim s.toList
  match Text.readWithin? (-9223372036854775808) 9223372036854775808 cs with
  | some n => some (Int64.ofInt n)
  | none => (Binary64.read? cs).map Binary64.toInt64

/-- As a 64-bit integer. A floating-point number is truncated toward zero and clamped. -/
def toInt64 (v : Value) (c : Column) : Result Int64 :=
  match v with
  | .tinyInt n => .ok n.toInt64
  | .smallInt n => .ok n.toInt64
  | .integer n => .ok n.toInt64
  | .bigInt n => .ok n
  | .float x => .ok (Binary64.ofBinary32 x).toInt64
  | .double x => .ok x.toInt64
  | .boolean b => .ok (if b then 1 else 0)
  | .string s =>
    match readInt64? s with
    | some n => .ok n
    | none => .error (mismatch v c "integer")
  | _ => .error (mismatch v c "integer")

/-- As a 32-bit integer: the low bits of the 64-bit one. -/
def toInt32 (v : Value) (c : Column) : Result Int32 := (toInt64 v c).map Int64.toInt32

/-- As a 16-bit integer: the low bits of the 64-bit one. -/
def toInt16 (v : Value) (c : Column) : Result Int16 := (toInt64 v c).map Int64.toInt16

/-- As an 8-bit integer: the low bits of the 64-bit one. -/
def toInt8 (v : Value) (c : Column) : Result Int8 := (toInt64 v c).map Int64.toInt8

/-- As a double; an integer becomes the nearest one. -/
def toBinary64 (v : Value) (c : Column) : Result Binary64 :=
  match v with
  | .tinyInt n => .ok (Binary64.ofInt n.toInt)
  | .smallInt n => .ok (Binary64.ofInt n.toInt)
  | .integer n => .ok (Binary64.ofInt n.toInt)
  | .bigInt n => .ok (Binary64.ofInt n.toInt)
  | .float x => .ok (Binary64.ofBinary32 x)
  | .double x => .ok x
  | .boolean b => .ok (Binary64.ofInt (if b then 1 else 0))
  | .string s =>
    match Binary64.read? (Text.trim s.toList) with
    | some x => .ok x
    | none => .error (mismatch v c "double")
  | _ => .error (mismatch v c "double")

/-- As a single precision number; anything but one goes through the double. -/
def toBinary32 (v : Value) (c : Column) : Result Binary32 :=
  match v with
  | .float x => .ok x
  | _ => (toBinary64 v c).map Binary64.toBinary32

/-- Whether a string reads as false: `0`, `0.0`, or `false` in any case. -/
def spellsFalse (s : String) : Bool :=
  let cs := Text.trim s.toList
  cs == ['0'] || cs == ['0', '.', '0'] || Text.lower cs == "false".toList

/-- As a truth value: zero is false, and so is a string that spells it; all else is true. -/
def toBool (v : Value) (c : Column) : Result Bool :=
  match v with
  | .boolean b => .ok b
  | .tinyInt _ | .smallInt _ | .integer _ | .bigInt _ => (toInt64 v c).map (· != 0)
  | .float _ | .double _ => (toBinary64 v c).map fun x => !x.isZero
  | .string s => .ok (!spellsFalse s)
  | _ => .error (mismatch v c "boolean")

/-- As an exact decimal, read from the canonical text of a number or from a string. There is no
result if the reader overflows. -/
def toDecimal (v : Value) (c : Column) : Option (Result Decimal) :=
  match v with
  | .tinyInt _ | .smallInt _ | .integer _ | .bigInt _ | .float _ | .double _ | .string _ =>
    Decimal.settle (mismatch v c "decimal") (Decimal.read v.text.toList)
  | .boolean b => some (.ok (Decimal.ofBool b))
  | _ => some (.error (mismatch v c "decimal"))

/-- As the canonical text. -/
def toText (v : Value) : Result String := .ok v.text

/-- As the UTF-8 bytes of the canonical text. -/
def toBytes (v : Value) : Result (List UInt8) := .ok (Text.Utf8.encode v.text.toList)

/-- As a date; a date-time gives its date. -/
def toDate (v : Value) (c : Column) : Result Date :=
  match v with
  | .date d => .ok d
  | .datetime d => .ok d.date
  | _ => .error (mismatch v c "date")

/-- As a time of day; a date-time gives its time. -/
def toTime (v : Value) (c : Column) : Result Time :=
  match v with
  | .time t => .ok t
  | .datetime d => .ok d.time
  | _ => .error (mismatch v c "time")

/-- As a date-time; a date gives its midnight. -/
def toDatetime (v : Value) (c : Column) : Result Datetime :=
  match v with
  | .datetime d => .ok d
  | .date d => .ok ⟨d, Time.midnight⟩
  | _ => .error (mismatch v c "datetime")

/-- As a count of months; a composite duration gives its months. -/
def toYearMonthDuration (v : Value) (c : Column) : Result Int32 :=
  match v with
  | .yearMonthDuration months => .ok months
  | .duration months _ => .ok months
  | _ => .error (mismatch v c "year-month-duration")

/-- As a count of milliseconds; a composite duration gives its milliseconds. -/
def toDayTimeDuration (v : Value) (c : Column) : Result Int64 :=
  match v with
  | .dayTimeDuration millis => .ok millis
  | .duration _ millis => .ok millis
  | _ => .error (mismatch v c "day-time-duration")

/-- As an identifier; a string has to spell one. -/
def toUuid (v : Value) (c : Column) : Result Uuid :=
  match v with
  | .uuid u => .ok u
  | .string s =>
    match Uuid.read? (Text.trim s.toList) with
    | some u => .ok u
    | none => .error (mismatch v c "uuid")
  | _ => .error (mismatch v c "uuid")

end QueryClient.Getter
