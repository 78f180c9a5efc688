import QueryClient.Binary.Basic
import QueryClient.Text.Blank
import QueryClient.Text.Numeral

/-!
# Reading a binary number

`Binary64.read?` reads the decimal spelling of a number: an optional sign, then `inf`,
`infinity` or `nan` in any case, or digits with at most one point and an optional exponent. The
result is the nearest number, ties to even, and infinity beyond the greatest one.
-/

namespace QueryClient.Binary64

open Text

/-- The digits at the start of a text and what follows them. -/
def spanDigits (cs : List Char) : List Char × List Char :=
  (cs.takeWhile isDigit, cs.dropWhile isDigit)

/-- The exponent part of a number: nothing, or `e` with an optionally signed integer. -/
def readExponent? : List Char → Option Int
  | [] => some 0
  | c :: cs => if c = 'e' ∨ c = 'E' then readInt? cs else none

/-- Digits with at most one point among or beside them, at least one digit in all, then the
exponent part. -/
def readMagnitude? (negative : Bool) (cs : List Char) : Option Binary64 :=
  let (whole, afterWhole) := spanDigits cs
  let (fraction, rest) :=
    match afterWhole with
    | '.' :: tail => spanDigits tail
    | _ => ([], afterWhole)
  if whole.isEmpty && fraction.isEmpty then none
  else
    (readExponent? rest).map fun exponent =>
      ofDecimal negative (Nat.ofDigitChars 10 (whole ++ fraction) 0)
        (exponent - fraction.length)

/-- A number without its sign. -/
def readUnsigned? (negative : Bool) (cs : List Char) : Option Binary64 :=
  let word := String.ofList (lower cs)
  if word = "inf" ∨ word = "infinity" then some (infinity negative)
  else if word = "nan" then some canonicalNan
  else readMagnitude? negative cs

/-- The number that a text spells. -/
def read? : List Char → Option Binary64
  | '-' :: cs => readUnsigned? true cs
  | '+' :: cs => readUnsigned? false cs
  | cs => readUnsigned? false cs

end QueryClient.Binary64
