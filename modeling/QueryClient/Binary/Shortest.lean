import QueryClient.Binary.Format
import QueryClient.Text.Numeral

/-!
# The fewest digits that read back

`shortest` gives the shortest decimal number inside the interval of reals that round to a given
finite number, and among those the one nearest to it. For each digit count in turn it tests the
two neighbours of the number on that decimal grid, in exact arithmetic.
-/

namespace QueryClient.Binary

open Text (natText)

/-- Which of two decimals is taken when the number lies exactly between them. -/
inductive HalfWay where
  | toEven
  | awayFromZero
  deriving DecidableEq

/-- The positive decimal number `0.d₁d₂… * 10 ^ point`. -/
structure Decimals where
  /-- The digits `d₁d₂…`, at least one, the first and the last not zero. -/
  digits : List Char
  /-- How many places the decimal point stands right of the first digit's left edge. -/
  point : Int
  deriving DecidableEq

/-- The least `k` with `num / den < 10 ^ k`, both positive. -/
def decimalPoint (num den : Nat) : Int :=
  if den ≤ num then (natText (num / den)).length
  else
    let inverse := (den + num - 1) / num
    1 - ((natText (inverse - 1)).length : Int)

/-- The decimal `count * 10 ^ grid` with its trailing zeros removed. -/
def decimalsOf (count : Nat) (grid : Int) : Decimals :=
  let text := natText count
  ⟨(text.reverse.dropWhile (· = '0')).reverse, text.length + grid⟩

/-- A positive number with the reals around it that round to it, over one denominator. -/
structure Interval where
  /-- Numerator of the lower end. -/
  low : Nat
  /-- Numerator of the number itself. -/
  value : Nat
  /-- Numerator of the upper end. -/
  high : Nat
  /-- The common denominator. -/
  den : Nat
  /-- Whether the ends themselves round to the number. -/
  closed : Bool

/-- The interval of a positive finite number of a format. Below a power of two the spacing of the
format is half as wide, except at the least exponent. -/
def Format.interval (f : Format) (mantissa : Nat) (exponent : Int) : Interval :=
  let scale := Nat.pow 2 (exponent - 2).toNat
  let below := if mantissa = f.fractionEnd && f.leastExponent < exponent then 1 else 2
  ⟨(4 * mantissa - below) * scale, 4 * mantissa * scale, (4 * mantissa + 2) * scale,
    Nat.pow 2 (2 - exponent).toNat, mantissa % 2 = 0⟩

/-- Whether the decimal `count * 10 ^ grid` lies in the interval. -/
def Interval.holds (i : Interval) (count : Nat) (grid : Int) : Bool :=
  let point := count * Nat.pow 10 grid.toNat * i.den
  let unit := Nat.pow 10 (-grid).toNat
  if i.closed then i.low * unit ≤ point && point ≤ i.high * unit
  else i.low * unit < point && point < i.high * unit

/-- The nearer of the number's two neighbours on the grid of multiples of `10 ^ grid`, among
those that lie in the interval. -/
def Interval.nearest? (i : Interval) (tie : HalfWay) (grid : Int) : Option Decimals :=
  let scaledNum := i.value * Nat.pow 10 (-grid).toNat
  let scaledDen := i.den * Nat.pow 10 grid.toNat
  let count := scaledNum / scaledDen
  let rest := scaledNum % scaledDen
  let downIn := count != 0 && i.holds count grid
  let upIn := i.holds (count + 1) grid
  let preferUp :=
    scaledDen < 2 * rest ||
      (scaledDen = 2 * rest && (tie == .awayFromZero || count % 2 = 1))
  if downIn && (!upIn || !preferUp) then some (decimalsOf count grid)
  else if upIn then some (decimalsOf (count + 1) grid)
  else none

/-- The shortest decimal that reads back as the positive number `mantissa * 2 ^ exponent` of the
format, with at most `limit` digits, and the nearest one of that length. -/
def shortest (f : Format) (tie : HalfWay) (limit mantissa : Nat) (exponent : Int) :
    Option Decimals :=
  let i := f.interval mantissa exponent
  let point := decimalPoint i.value i.den
  (List.range limit).findSome? fun (n : Nat) => i.nearest? tie (point - (n + 1 : Nat))

end QueryClient.Binary
