import QueryClient.Json.Basic
import QueryClient.Json.Tree
import QueryClient.Text.Utf8

/-!
# Reading JSON values

`Json.read?` is the strict reader: it takes the tree of a byte sequence and refuses what has no
value. Strings have to be UTF-8 with their surrogates paired, numbers have to be within the
doubles, and containers may nest 127 deep. Of a repeated member name the first position and the
last value remain.

An integer that fits 64 bits is kept exactly. Any other number is read from as many of its leading
digits as fit an unsigned 64-bit word: they are rounded to a double, which is then scaled by a
rounded power of ten, so it may differ from the nearest double in its last bit.
-/

namespace QueryClient.Json

/-! ### Strings -/

/-- The UTF-8 bytes of a string's pieces. Escaped surrogates have to come in pairs. -/
def stringBytes? : List StringPart → Option (List UInt8)
  | [] => some []
  | .byte b :: rest => (stringBytes? rest).map (b :: ·)
  | .unit n :: rest =>
    if n < 0xD800 ∨ 0xDFFF < n then
      (stringBytes? rest).map (String.utf8EncodeChar (Char.ofNat n) ++ ·)
    else if n < 0xDC00 then
      match rest with
      | .unit m :: more =>
        if 0xDC00 ≤ m ∧ m ≤ 0xDFFF then
          let code := (n - 0xD800) * 0x400 + (m - 0xDC00) + 0x10000
          (stringBytes? more).map (String.utf8EncodeChar (Char.ofNat code) ++ ·)
        else none
      | _ => none
    else none

/-- The string with the given pieces. -/
def stringOf? (parts : List StringPart) : Option String :=
  ((stringBytes? parts).bind Text.Utf8.decode?).map String.ofList

/-! ### Numbers -/

/-- One past the greatest unsigned 64-bit word. -/
def wordEnd : Nat := 18446744073709551616

/-- Append digits to a number as long as it fits an unsigned 64-bit word. Returns the number and
how many digits are left over. -/
def absorb : (number : Nat) → (digits : List UInt8) → Nat × Nat
  | n, [] => (n, 0)
  | n, d :: ds =>
    let next := n * 10 + Ascii.digitValue d
    if next < wordEnd then absorb next ds else (n, ds.length + 1)

/-- The double nearest to `10 ^ k`. -/
def powerOfTen (k : Nat) : Binary64 := Binary64.ofQuotient false (Nat.pow 10 k) 1

/-- Divide by `10 ^ k`, in steps of at most `10 ^ 308`. -/
def scaleDown (x : Binary64) (k : Nat) : Binary64 :=
  if k ≤ 308 then x.div (powerOfTen k)
  else if x.isZero then x
  else scaleDown (x.div (powerOfTen 308)) (k - 308)
termination_by k
decreasing_by omega

/-- Multiply by `10 ^ exponent`; nothing beyond the doubles. -/
def scale? (x : Binary64) (exponent : Int) : Option Binary64 :=
  if exponent < 0 then some (scaleDown x exponent.natAbs)
  else if exponent ≤ 308 then
    let product := x.mul (powerOfTen exponent.toNat)
    if product.isFinite then some product else none
  else if x.isZero then some x
  else none

/-- The double that a number with a fraction, an exponent or too many digits stands for. -/
def doubleOf? (n : Numeral) : Option Json :=
  let (whole, dropped) := absorb 0 n.whole
  let (significand, ignored) := absorb whole n.fraction
  let placed : Int := (dropped : Int) - ((n.fraction.length - ignored : Nat) : Int)
  let written : Int :=
    match n.exponent with
    | none => 0
    | some (negative, digits) =>
      let e : Int := (digits.foldl (fun v d => v * 10 + Ascii.digitValue d) 0 : Nat)
      if negative then -e else e
  (scale? (Binary64.ofQuotient false significand 1) (placed + written)).bind fun x =>
    (FiniteDouble.ofBinary64? (if n.negative then x.neg else x)).map Json.double

/-- The integer that a number without fraction and exponent stands for, if it fits 64 bits. The
negative zero is no integer. -/
def wholeOf? (n : Numeral) : Option Whole :=
  if n.fraction = [] ∧ n.exponent = none then
    let v : Int := (n.whole.foldl (fun v d => v * 10 + Ascii.digitValue d) 0 : Nat)
    if n.negative then (if v = 0 then none else Whole.ofInt? (-v)) else Whole.ofInt? v
  else none

/-- The value of a number. -/
def numberOf? (n : Numeral) : Option Json :=
  match wholeOf? n with
  | some w => some (.int w)
  | none => doubleOf? n

/-! ### Trees -/

mutual

/-- The value of a tree whose containers nest at most `depth` deep. -/
def ofTree? (depth : Nat) : Tree → Option Json
  | .null => some .null
  | .bool b => some (.bool b)
  | .number n => numberOf? n
  | .string parts => (stringOf? parts).map .string
  | .array items =>
    match depth with
    | 0 => none
    | d + 1 => (ofTrees? d items).map .array
  | .object members =>
    match depth with
    | 0 => none
    | d + 1 => (entriesOf? d members).map ofMembers

/-- The values of the elements of an array. -/
def ofTrees? (depth : Nat) : List Tree → Option (List Json)
  | [] => some []
  | t :: rest => do
    let j ← ofTree? depth t
    let js ← ofTrees? depth rest
    return j :: js

/-- The entries of an object, in the order of the text. -/
def entriesOf? (depth : Nat) : List (List StringPart × Tree) → Option (List (String × Json))
  | [] => some []
  | (name, t) :: rest => do
    let s ← stringOf? name
    let j ← ofTree? depth t
    let js ← entriesOf? depth rest
    return (s, j) :: js

end

/-- How deep containers may nest. -/
def depthLimit : Nat := 127

/-- The value of a byte sequence that is one JSON text. -/
def read? (input : List UInt8) : Option Json := (Tree.read? input).bind (ofTree? depthLimit)

/-- The value of a text. -/
def ofText? (text : String) : Option Json := read? (Text.Utf8.encode text.toList)

end QueryClient.Json
