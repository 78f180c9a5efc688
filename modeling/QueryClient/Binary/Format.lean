/-!
# Binary floating-point formats

A `Format` is an IEEE 754 binary interchange format, given by the widths of its fraction and
exponent fields. Words of a format are natural numbers here; `datum` reads the number in a word
and `round` writes the word nearest to an exact quotient, ties to the even significand. All
arithmetic is on integers, so nothing depends on the machine's own floating-point unit. Powers are
written with `Nat.pow`, so that no instance of `^` in scope can change what a definition is.
-/

namespace QueryClient.Binary

/-- The field widths of a binary interchange format. -/
structure Format where
  /-- Width of the stored fraction, in bits. -/
  fractionWidth : Nat
  /-- Width of the biased exponent, in bits. -/
  exponentWidth : Nat
  deriving DecidableEq

/-- The 32-bit format. -/
def single : Format := ⟨23, 8⟩

/-- The 64-bit format. -/
def double : Format := ⟨52, 11⟩

/-- What a word stands for. A finite number is `mantissa * 2 ^ exponent` after its sign, so both
zeros are finite. -/
inductive Datum where
  | nan
  | infinite (negative : Bool)
  | finite (negative : Bool) (mantissa : Nat) (exponent : Int)
  deriving DecidableEq

namespace Format

variable (f : Format)

/-- One past the greatest fraction field. -/
def fractionEnd : Nat := Nat.pow 2 f.fractionWidth

/-- The exponent field of infinities and NaNs: all ones. -/
def topExponent : Nat := Nat.pow 2 f.exponentWidth - 1

/-- The exponent of the last bit of a subnormal number, the least there is. -/
def leastExponent : Int :=
  2 - (Nat.pow 2 (f.exponentWidth - 1) : Int) - (f.fractionWidth : Int)

/-- The word of positive infinity; the words of finite numbers lie below it. -/
def infinityWord : Nat := f.topExponent * f.fractionEnd

/-- The sign bit, as the number added to the word of a magnitude. -/
def signWord (negative : Bool) : Nat :=
  if negative then Nat.pow 2 (f.fractionWidth + f.exponentWidth) else 0

/-- The quiet NaN with a clear sign and an empty payload. -/
def quietNan : Nat := f.infinityWord + Nat.pow 2 (f.fractionWidth - 1)

/-- The number in a word. -/
def datum (word : Nat) : Datum :=
  let fraction := word % f.fractionEnd
  let field := word / f.fractionEnd % (f.topExponent + 1)
  let negative := decide (word / f.signWord true % 2 = 1)
  if field = f.topExponent then
    if fraction = 0 then .infinite negative else .nan
  else if field = 0 then .finite negative fraction f.leastExponent
  else .finite negative (f.fractionEnd + fraction) (f.leastExponent + field - 1)

/-- The floor of the binary logarithm of `num / den`, both positive. -/
def logFloor (num den : Nat) : Int :=
  let guess : Int := (Nat.log2 num : Int) - (Nat.log2 den : Int)
  if den * Nat.pow 2 guess.toNat ≤ num * Nat.pow 2 (-guess).toNat then guess else guess - 1

/-- The word nearest to `num / den`, ties to the even significand; magnitudes beyond the greatest
finite number by half a unit or more give infinity. -/
def round (negative : Bool) (num den : Nat) : Nat :=
  if num = 0 then f.signWord negative
  else
    let unit : Int := max (logFloor num den - f.fractionWidth) f.leastExponent
    let scaledNum := num * Nat.pow 2 (-unit).toNat
    let scaledDen := den * Nat.pow 2 unit.toNat
    let quotient := scaledNum / scaledDen
    let rest := scaledNum % scaledDen
    let up := scaledDen < 2 * rest || (scaledDen = 2 * rest && quotient % 2 = 1)
    let significand := if up then quotient + 1 else quotient
    let word := (unit - f.leastExponent).toNat * f.fractionEnd + significand
    f.signWord negative + min word f.infinityWord

/-- The word nearest to `mantissa * 2 ^ exponent`. -/
def roundDyadic (negative : Bool) (mantissa : Nat) (exponent : Int) : Nat :=
  f.round negative (mantissa * Nat.pow 2 exponent.toNat) (Nat.pow 2 (-exponent).toNat)

/-- The word nearest to `digits * 10 ^ exponent`. The two tests in front only keep the powers of
ten small: beyond them the result is infinity or zero whatever the digits are. -/
def roundDecimal (negative : Bool) (digits : Nat) (exponent : Int) : Nat :=
  if digits = 0 then f.signWord negative
  else if (Nat.pow 2 f.exponentWidth : Int) < exponent then f.signWord negative + f.infinityWord
  else if exponent < -((Nat.pow 2 f.exponentWidth + Nat.log2 digits : Nat) : Int) then
    f.signWord negative
  else f.round negative (digits * Nat.pow 10 exponent.toNat) (Nat.pow 10 (-exponent).toNat)

end Format

end QueryClient.Binary
