import QueryClient.Binary.Basic
import QueryClient.Text.Hex
import QueryClient.Text.Numeral
import QueryClient.Toml.Scan

/-!
# Numbers and moments

An integer is decimal with an optional sign, or hexadecimal, octal or binary without one, and fits
64 bits. A float has a fraction, an exponent or both, or is infinite or not a number. An underscore
may stand between two digits. A moment is a date, a time of day, or both with an optional offset.
-/

namespace QueryClient.Toml

open Scanner Text

/-! ### Digits -/

/-- The value of a digit in a number with the given base. -/
def digitValue? (base : Nat) (c : Char) : Option Nat :=
  (hexValue? c).filter fun d => decide (d < base)

/-- A digit of the given base. -/
def digit (base : Nat) : Scanner Nat
  | c :: rest => (digitValue? base c).map (·, rest)
  | [] => none

/-- A digit that may have an underscore before it. -/
def laterDigit (base : Nat) : Scanner Nat
  | '_' :: rest => digit base rest
  | cs => digit base cs

/-- One or more digits, the most significant first. -/
def digits (base : Nat) : Scanner (List Nat) := fun cs => do
  let (first, rest) ← digit base cs
  let (others, rest) := many (laterDigit base) rest
  return (first :: others, rest)

/-- The number with the given digits. -/
def ofDigits (base : Nat) (ds : List Nat) : Nat := ds.foldl (fun n d => base * n + d) 0

/-- A number of exactly `width` decimal digits that is at most `most`. -/
def fixed (width most : Nat) : Scanner Nat := fun cs => do
  if (cs.take width).length < width then none
  else
    let n ← readNat? (cs.take width)
    if n ≤ most then return (n, cs.drop width) else none

/-- Whether a number is negative, by its optional sign. -/
def sign : List Char → Bool × List Char
  | '-' :: rest => (true, rest)
  | '+' :: rest => (false, rest)
  | cs => (false, cs)

/-- A decimal number without leading zeros. A zero is taken alone. -/
def wholeDigits : Scanner (List Nat)
  | '0' :: rest => some ([0], rest)
  | cs => digits 10 cs

/-! ### Integers -/

/-- The integer of the given sign and size, if it fits 64 bits. -/
def int64? (negative : Bool) (size : Nat) : Option Int :=
  let n : Int := if negative then -(size : Int) else size
  if -9223372036854775808 ≤ n ∧ n ≤ 9223372036854775807 then some n else none

/-- A number without a sign in the given base. -/
def unsignedInteger (base : Nat) : Scanner Int := fun cs => do
  let (ds, rest) ← digits base cs
  return (← int64? false (ofDigits base ds), rest)

/-- An integer. -/
def integer : Scanner Int
  | '0' :: 'x' :: rest => unsignedInteger 16 rest
  | '0' :: 'o' :: rest => unsignedInteger 8 rest
  | '0' :: 'b' :: rest => unsignedInteger 2 rest
  | cs => do
    let (negative, rest) := sign cs
    let (ds, rest) ← wholeDigits rest
    return (← int64? negative (ofDigits 10 ds), rest)

/-! ### Floats -/

/-- The digits after a point; none if there is no point. -/
def fraction : Scanner (List Nat)
  | '.' :: rest => digits 10 rest
  | cs => some ([], cs)

/-- The exponent after an `e`; zero if there is no `e`. -/
def exponent : Scanner Int
  | [] => some (0, [])
  | c :: cs =>
    if c = 'e' ∨ c = 'E' then do
      let (negative, rest) := sign cs
      let (ds, rest) ← digits 10 rest
      let size : Int := (ofDigits 10 ds : Nat)
      return (if negative then -size else size, rest)
    else some (0, c :: cs)

/-- The float of the given sign and size. One that is too great for a double is refused if it is
positive and infinite if it is negative. -/
def finite? (negative : Bool) (size : Nat) (power : Int) : Option Binary64 :=
  let x := Binary64.ofDecimal negative size power
  if x = Binary64.infinity false then none else some x

/-- A float. -/
def float : Scanner Binary64 := fun cs =>
  match sign cs with
  | (negative, 'i' :: 'n' :: 'f' :: rest) => some (Binary64.infinity negative, rest)
  | (_, 'n' :: 'a' :: 'n' :: rest) => some (Binary64.canonicalNan, rest)
  | (negative, unsigned) => do
    let (whole, afterWhole) ← wholeDigits unsigned
    let (parts, afterFraction) ← fraction afterWhole
    let (power, rest) ← exponent afterFraction
    if rest.length = afterWhole.length then none
    else
      let x ← finite? negative (ofDigits 10 (whole ++ parts)) (power - parts.length)
      return (x, rest)

/-! ### Moments -/

/-- The number of days of a month. -/
def monthLength (year month : Nat) : Nat :=
  if month = 2 then
    if year % 4 = 0 ∧ (year % 100 ≠ 0 ∨ year % 400 = 0) then 29 else 28
  else if month = 4 ∨ month = 6 ∨ month = 9 ∨ month = 11 then 30
  else 31

/-- The rest after a date: year, month and day. -/
def skipDate (cs : List Char) : Option (List Char) := do
  let (year, rest) ← fixed 4 9999 cs
  let (month, rest) ← fixed 2 12 (← expect '-' rest)
  let (day, rest) ← fixed 2 (monthLength year month) (← expect '-' rest)
  if 1 ≤ month ∧ 1 ≤ day then some rest else none

/-- The rest after a fraction of a second: a point and digits, without underscores. -/
def skipSecondFraction : List Char → Option (List Char)
  | '.' :: c :: rest => if isDigit c then some (rest.dropWhile isDigit) else none
  | '.' :: [] => none
  | cs => some cs

/-- The rest after a time of day: hour, minute and second, which may be a leap second. -/
def skipTime (lastHour : Nat) (cs : List Char) : Option (List Char) := do
  let (_, rest) ← fixed 2 lastHour cs
  let (_, rest) ← fixed 2 59 (← expect ':' rest)
  let (_, rest) ← fixed 2 60 (← expect ':' rest)
  skipSecondFraction rest

/-- The rest after an offset from universal time, if there is one. -/
def skipOffset : List Char → Option (List Char)
  | 'Z' :: rest | 'z' :: rest => some rest
  | '+' :: rest | '-' :: rest => do
    let (_, rest) ← fixed 2 23 rest
    let (_, rest) ← fixed 2 59 (← expect ':' rest)
    return rest
  | cs => some cs

/-- The rest after a moment: a time of day, or a date with an optional time of day after a `T` or
a blank, which may have an offset. -/
def skipMoment (cs : List Char) : Option (List Char) :=
  match skipDate cs with
  | none => skipTime 23 cs
  | some rest =>
    match rest with
    | 'T' :: time | 't' :: time | ' ' :: time => ((skipTime 23 time).bind skipOffset).or (some rest)
    | _ => some rest

/-- A moment as it is written. -/
def moment : Scanner (List Char) := fun cs =>
  (skipMoment cs).map fun rest => (cs.take (cs.length - rest.length), rest)

/-! ### Moments as texts -/

/-- The greatest offset from universal time, in minutes. -/
def widestOffset : Nat := 1440

/-- The rest after an offset that is given by any hours and minutes that add up to a day at most. -/
def skipWideOffset : List Char → Option (List Char)
  | '+' :: rest | '-' :: rest => do
    let (hours, rest) ← fixed 2 99 rest
    let (minutes, rest) ← fixed 2 99 (← expect ':' rest)
    if 60 * hours + minutes ≤ widestOffset then some rest else none
  | cs => skipOffset cs

/-- Whether a text of its own writes a moment. It may go up to the end of the 24th hour. -/
def isMoment (cs : List Char) : Bool :=
  if cs[2]? = some ':' then skipTime 24 cs = some []
  else
    match skipDate cs with
    | none => false
    | some [] => true
    | some (mark :: time) =>
      [' ', 'T', 't'].contains mark && (skipTime 24 time).bind skipWideOffset = some []

end QueryClient.Toml
