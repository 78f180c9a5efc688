import QueryClient.Getter

/-!
# Requested types

`Target` lists the types that a column can be read as and `Reading` what comes out. A null is
settled here, before any conversion: it reads as zero or false where the requested type has no
room for an absence, and as nothing where it has.
-/

namespace QueryClient.Getter

/-- A type to read a column as. -/
inductive Target where
  | int8
  | int16
  | int32
  | int64
  | binary32
  | binary64
  | bool
  | decimal
  | string
  | charStream
  | bytes
  | value
  | date
  | time
  | datetime
  | yearMonthDuration
  | dayTimeDuration
  | uuid
  deriving DecidableEq

/-- What has been read from a column. -/
inductive Reading where
  /-- An integer, a count of months or a count of milliseconds. -/
  | number (n : Int)
  | binary32 (x : Binary32)
  | binary64 (x : Binary64)
  | bool (b : Bool)
  | decimal (d : Decimal)
  /-- A string or the characters of one. -/
  | string (s : String)
  | bytes (bs : List UInt8)
  | value (v : Value)
  | date (d : Date)
  | time (t : Time)
  | datetime (d : Datetime)
  | uuid (u : Uuid)
  /-- Nothing: the arithmetic of the conversion overflows, which stops the program. -/
  | overflow

/-- A value as the requested type. -/
def convert (target : Target) (v : Value) (c : Column) : Result Reading :=
  match target with
  | .int8 => (toInt8 v c).map fun n => .number n.toInt
  | .int16 => (toInt16 v c).map fun n => .number n.toInt
  | .int32 => (toInt32 v c).map fun n => .number n.toInt
  | .int64 => (toInt64 v c).map fun n => .number n.toInt
  | .binary32 => (toBinary32 v c).map .binary32
  | .binary64 => (toBinary64 v c).map .binary64
  | .bool => (toBool v c).map .bool
  | .decimal =>
    match toDecimal v c with
    | some r => r.map .decimal
    | none => .ok .overflow
  | .string | .charStream => (toText v).map .string
  | .bytes => (toBytes v).map .bytes
  | .value => .ok (.value v)
  | .date => (toDate v c).map .date
  | .time => (toTime v c).map .time
  | .datetime => (toDatetime v c).map .datetime
  | .yearMonthDuration => (toYearMonthDuration v c).map fun n => .number n.toInt
  | .dayTimeDuration => (toDayTimeDuration v c).map fun n => .number n.toInt
  | .uuid => (toUuid v c).map .uuid

/-- What a null reads as, for the types that have no room for an absence. -/
def zero? : Target → Option Reading
  | .int8 | .int16 | .int32 | .int64 => some (.number 0)
  | .binary32 => some (.binary32 (Binary64.ofInt 0).toBinary32)
  | .binary64 => some (.binary64 (Binary64.ofInt 0))
  | .bool => some (.bool false)
  | _ => none

/-- A value, possibly null, as the requested type; nothing for a null that reads as absent. -/
def read (target : Target) (v : Value) (c : Column) : Result (Option Reading) :=
  if v.isNull then .ok (zero? target) else (convert target v c).map some

end QueryClient.Getter
