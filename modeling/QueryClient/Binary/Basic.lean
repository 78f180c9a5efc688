import QueryClient.Binary.Format

/-!
# Single and double precision numbers

`Binary32` and `Binary64` are numbers by their words: two are equal when their bits are, so a
NaN equals itself and the two zeros differ. Conversions go through the exact number and round
once; `toInt64` truncates toward zero and saturates.
-/

namespace QueryClient

/-- A number of the 32-bit binary format. -/
structure Binary32 where
  /-- The word that encodes the number. -/
  bits : UInt32
  deriving DecidableEq

/-- A number of the 64-bit binary format. -/
structure Binary64 where
  /-- The word that encodes the number. -/
  bits : UInt64
  deriving DecidableEq

namespace Binary.Datum

/-- Neither an infinity nor a NaN. -/
def isFinite : Datum → Bool
  | .finite .. => true
  | _ => false

/-- Zero of either sign. -/
def isZero : Datum → Bool
  | .finite _ 0 _ => true
  | _ => false

/-- The datum written as a word of the format, rounding a finite one. A NaN becomes the quiet NaN
with an empty payload. -/
def toWord (f : Format) : Datum → Nat
  | .nan => f.quietNan
  | .infinite negative => f.signWord negative + f.infinityWord
  | .finite negative mantissa exponent => f.roundDyadic negative mantissa exponent

/-- The integer part, truncated toward zero and clamped to the signed 64-bit range; zero for a
NaN. -/
def toInt64 : Datum → Int64
  | .nan => 0
  | .infinite negative => if negative then Int64.minValue else Int64.maxValue
  | .finite negative mantissa exponent =>
    let whole := mantissa * Nat.pow 2 exponent.toNat / Nat.pow 2 (-exponent).toNat
    if negative then Int64.ofInt (-((min whole (Nat.pow 2 63) : Nat) : Int))
    else Int64.ofInt ((min whole (Nat.pow 2 63 - 1) : Nat) : Int)

end Binary.Datum

namespace Binary32

/-- The number that the word encodes. -/
def datum (x : Binary32) : Binary.Datum := Binary.single.datum x.bits.toNat

/-- A NaN of any payload. -/
def isNan (x : Binary32) : Bool := x.datum == .nan

/-- The one NaN that stands for all NaNs on the wire. -/
def canonicalNan : Binary32 := ⟨0x7fc00000⟩

/-- Every NaN replaced by the canonical one; all other numbers keep their bits. -/
def canonical (x : Binary32) : Binary32 := if x.isNan then canonicalNan else x

end Binary32

namespace Binary64

/-- The number that the word encodes. -/
def datum (x : Binary64) : Binary.Datum := Binary.double.datum x.bits.toNat

/-- A NaN of any payload. -/
def isNan (x : Binary64) : Bool := x.datum == .nan

/-- Neither an infinity nor a NaN. -/
def isFinite (x : Binary64) : Bool := x.datum.isFinite

/-- Zero of either sign. -/
def isZero (x : Binary64) : Bool := x.datum.isZero

/-- The one NaN that stands for all NaNs on the wire. -/
def canonicalNan : Binary64 := ⟨0x7ff8000000000000⟩

/-- Every NaN replaced by the canonical one; all other numbers keep their bits. -/
def canonical (x : Binary64) : Binary64 := if x.isNan then canonicalNan else x

/-- The number in a 64-bit word given as a natural number. -/
def ofWord (word : Nat) : Binary64 := ⟨UInt64.ofNat word⟩

/-- The number nearest to `num / den`, ties to even. -/
def ofQuotient (negative : Bool) (num den : Nat) : Binary64 :=
  ofWord (Binary.double.round negative num den)

/-- The number nearest to an integer. -/
def ofInt (n : Int) : Binary64 := ofQuotient (decide (n < 0)) n.natAbs 1

/-- The number nearest to `digits * 10 ^ exponent`. -/
def ofDecimal (negative : Bool) (digits : Nat) (exponent : Int) : Binary64 :=
  ofWord (Binary.double.roundDecimal negative digits exponent)

/-- The infinity of a sign. -/
def infinity (negative : Bool) : Binary64 :=
  ofWord ((Binary.Datum.infinite negative).toWord Binary.double)

/-- The single precision number, exactly. -/
def ofBinary32 (x : Binary32) : Binary64 := ofWord (x.datum.toWord Binary.double)

/-- The nearest single precision number. -/
def toBinary32 (x : Binary64) : Binary32 := ⟨UInt32.ofNat (x.datum.toWord Binary.single)⟩

/-- The integer part, truncated toward zero and clamped to the signed 64-bit range. -/
def toInt64 (x : Binary64) : Int64 := x.datum.toInt64

/-- The number with the opposite sign bit. -/
def neg (x : Binary64) : Binary64 := ⟨x.bits ^^^ 0x8000000000000000⟩

/-- The rounded product of two finite numbers. -/
def mul (x y : Binary64) : Binary64 :=
  match x.datum, y.datum with
  | .finite s m e, .finite s' m' e' =>
    ofWord (Binary.double.roundDyadic (s != s') (m * m') (e + e'))
  | _, _ => canonicalNan

/-- The rounded quotient of two finite numbers, the second not zero. -/
def div (x y : Binary64) : Binary64 :=
  match x.datum, y.datum with
  | .finite s m e, .finite s' m' e' =>
    ofQuotient (s != s') (m * Nat.pow 2 (e - e').toNat) (m' * Nat.pow 2 (e' - e).toNat)
  | _, _ => canonicalNan

end Binary64

end QueryClient
