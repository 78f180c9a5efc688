import QueryClient.Binary.Basic
import QueryClient.Binary.Shortest

/-!
# Writing a binary number

A `Layout` holds the decisions of one text format for numbers: where positional notation ends,
how an exponent is signed, and which of two equally near decimals is taken. `Layout.text` writes
a number by it. `plain` is the format of canonical value texts and `json` that of JSON numbers.
-/

namespace QueryClient.Binary

/-- The decisions of a number format. -/
structure Layout where
  /-- Positional notation is used from `10 ^ leastPlaced` on. -/
  leastPlaced : Int
  /-- Positional notation is used below `10 ^ placedEnd`. -/
  placedEnd : Int
  /-- Whether a positive exponent has a plus sign. -/
  signedExponent : Bool
  /-- The choice between two equally near decimals. -/
  halfWay : HalfWay

/-- Canonical value text: positional from 0.0001 up to 10 to the 16th, exponents as in `1e16`. -/
def plain : Layout := ⟨-4, 16, false, .awayFromZero⟩

/-- JSON text: positional from 0.00001 up to 10 to the 16th, exponents as in `1e+16`. -/
def json : Layout := ⟨-5, 16, true, .toEven⟩

/-- Positional notation, with at least one digit on either side of the point. -/
def Decimals.placed (d : Decimals) : List Char :=
  let count : Int := d.digits.length
  if d.point ≤ 0 then '0' :: '.' :: (List.replicate (-d.point).toNat '0' ++ d.digits)
  else if d.point < count then
    d.digits.take d.point.toNat ++ '.' :: d.digits.drop d.point.toNat
  else d.digits ++ List.replicate (d.point - count).toNat '0' ++ ['.', '0']

/-- Scientific notation, with a point only if there is more than one digit. -/
def Decimals.scientific (d : Decimals) (signed : Bool) : List Char :=
  let exponent := d.point - 1
  let sign := if signed && 0 ≤ exponent then ['+'] else []
  let significand :=
    match d.digits with
    | first :: second :: rest => first :: '.' :: second :: rest
    | short => short
  significand ++ 'e' :: (sign ++ Text.intText exponent)

/-- The digits in the notation that the layout chooses. -/
def Layout.decimals (l : Layout) (d : Decimals) : List Char :=
  if l.leastPlaced < d.point && d.point ≤ l.placedEnd then d.placed
  else d.scientific l.signedExponent

/-- The text of a number of a format; `limit` digits always suffice to read it back. -/
def Layout.text (l : Layout) (f : Format) (limit : Nat) : Datum → List Char
  | .nan => ['N', 'a', 'N']
  | .infinite negative => if negative then ['-', 'i', 'n', 'f'] else ['i', 'n', 'f']
  | .finite negative mantissa exponent =>
    let sign := if negative then ['-'] else []
    if mantissa = 0 then sign ++ ['0', '.', '0']
    else
      match shortest f l.halfWay limit mantissa exponent with
      | some d => sign ++ l.decimals d
      | none => sign

end QueryClient.Binary

namespace QueryClient

/-- The text of a single precision number; nine digits always read back. -/
def Binary32.text (x : Binary32) (l : Binary.Layout) : List Char :=
  l.text Binary.single 9 x.datum

/-- The text of a double precision number; seventeen digits always read back. -/
def Binary64.text (x : Binary64) (l : Binary.Layout) : List Char :=
  l.text Binary.double 17 x.datum

end QueryClient
