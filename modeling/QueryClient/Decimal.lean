import QueryClient.Binary.Reader
import QueryClient.Error

/-!
# Exact decimal numbers

A `Decimal` is a sign, digits and how many of them stand after the point, and never passes through
a binary number; so `1.0` and `1.00` differ. `Decimal.read` takes the usual spelling with an
optional exponent and refuses exponents beyond ten thousand; `Decimal.text` writes the number
without one. The reader works on its exponents with 64-bit integers, and a step that leaves their
range stops the program (`ReadError.overflow`).
-/

namespace QueryClient

/-- The number that the digits write if the last `scale` of them stand after the point. -/
structure Decimal where
  negative : Bool
  /-- The digits, without the point. -/
  digits : List Char
  /-- How many of the digits stand after the point; where there are fewer, zeros make up for them. -/
  scale : Nat
  deriving DecidableEq

namespace Decimal

/-- Why a text has no decimal. -/
inductive ReadError where
  /-- The text is not the spelling of a decimal, or its exponent or scale is out of bounds. -/
  | malformed
  /-- A step of 64-bit arithmetic leaves its range. There is no answer then. -/
  | overflow
  deriving DecidableEq

/-- The result of a step of 64-bit arithmetic. -/
def narrow (n : Int) : Except ReadError Int :=
  if -9223372036854775808 ≤ n ∧ n < 9223372036854775808 then .ok n else .error .overflow

/-- The greatest magnitude of an exponent. -/
def maxExponent : Int := 10000

/-- One past the greatest scale. -/
def scaleEnd : Int := 4294967296

/-! ### Reading -/

/-- What the spelling of a decimal consists of. -/
structure Parts where
  negative : Bool
  /-- The digits in front of the point. -/
  whole : List Char
  /-- The digits after the point. -/
  fraction : List Char
  exponent : Int
  deriving DecidableEq

/-- The sign in front of a text and what follows it. -/
def splitSign : List Char → Bool × List Char
  | '-' :: cs => (true, cs)
  | '+' :: cs => (false, cs)
  | cs => (false, cs)

/-- The letter in front of an exponent. -/
def isMark (c : Char) : Bool := c == 'e' || c == 'E'

/-- The text in front of the first exponent mark and the exponent, zero if there is no mark. -/
def splitExponent? (cs : List Char) : Option (List Char × Int) :=
  match cs.dropWhile fun c => !isMark c with
  | [] => some (cs, 0)
  | _ :: exponent =>
    (Text.readWithin? (-9223372036854775808) 9223372036854775808 exponent).map fun e =>
      (cs.takeWhile fun c => !isMark c, e)

/-- The digits around the point of a text that has at least one digit and no other character. -/
def splitMantissa? (cs : List Char) : Option (List Char × List Char) :=
  let (whole, fraction) := (Text.splitOnce '.' cs).getD (cs, [])
  if whole.isEmpty && fraction.isEmpty then none
  else if !(whole ++ fraction).all Text.isDigit then none
  else some (whole, fraction)

/-- What a text consists of; blanks around it are ignored. The exponent is bounded before anything
else is looked at. -/
def parts (cs : List Char) : Except ReadError Parts :=
  let (negative, unsigned) := splitSign (Text.trim cs)
  match splitExponent? unsigned with
  | none => .error .malformed
  | some (mantissa, exponent) => do
    let magnitude ← narrow exponent.natAbs
    if maxExponent < magnitude then .error .malformed
    else
      match splitMantissa? mantissa with
      | none => .error .malformed
      | some (whole, fraction) => .ok ⟨negative, whole, fraction, exponent⟩

/-- How many digits stand behind the point once the exponent has moved it. -/
def Parts.places (p : Parts) : Int := p.fraction.length - p.exponent

/-- How many zeros take the digits up to a point that has moved past the last of them. -/
def Parts.zeros (p : Parts) : Nat := (-p.places).toNat

/-- Digits without zeros in front of them; the digit of zero stays. -/
def significant (cs : List Char) : List Char :=
  match cs.dropWhile (· == '0') with
  | [] => ['0']
  | digits => digits

/-- The decimal of what has been read. Zero has no sign. -/
def ofParts (p : Parts) : Except ReadError Decimal := do
  let places ← narrow p.places
  let digits := significant (p.whole ++ p.fraction ++ List.replicate p.zeros '0')
  if scaleEnd ≤ places then .error .malformed
  else .ok ⟨p.negative && digits != ['0'], digits, places.toNat⟩

/-- The decimal that a text spells; blanks around it are ignored. -/
def read (cs : List Char) : Except ReadError Decimal := parts cs >>= ofParts

/-- The decimal that has been read, or the failure that a text without one is told with. After an
overflow there is neither. -/
def settle (refusal : ClientError) : Except ReadError Decimal → Option (Result Decimal)
  | .ok d => some (.ok d)
  | .error .malformed => some (.error refusal)
  | .error .overflow => none

/-- The decimal that a string spells; the failure names the string. -/
def ofString (s : String) : Option (Result Decimal) :=
  settle (.invalidValue ("decimal '" ++ s ++ "'")) (read s.toList)

/-- One or zero. -/
def ofBool (b : Bool) : Decimal := ⟨false, if b then ['1'] else ['0'], 0⟩

/-! ### Writing -/

/-- The digits with the point in front of the last `scale` of them: at least one digit comes first.
Without any behind the point there is none. -/
def pointed (scale : Nat) (digits : List Char) : List Char :=
  if scale = 0 then digits
  else
    let padded := List.replicate (scale + 1 - digits.length) '0' ++ digits
    let point := padded.length - scale
    padded.take point ++ '.' :: padded.drop point

/-- The number without an exponent. -/
def text (d : Decimal) : List Char :=
  let sign := if d.negative then ['-'] else []
  sign ++ pointed d.scale d.digits

/-- The nearest double. -/
def toBinary64 (d : Decimal) : Binary64 := (Binary64.read? d.text).getD Binary64.canonicalNan

end Decimal

end QueryClient
