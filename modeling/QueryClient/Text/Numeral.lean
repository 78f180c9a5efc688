/-!
# Decimal integers as text

`readNat?` reads one or more ASCII digits and `readInt?` an optional sign before them; neither
accepts blanks, separators or an empty text. `readWithin?` adds the range of the type that
receives the number. `natText` and `intText` write the shortest text that reads back.
-/

namespace QueryClient.Text

/-- One of the ten ASCII digits. -/
def isDigit (c : Char) : Bool := c.isDigit

/-- The number written by a non-empty run of digits; leading zeros are allowed. -/
def readNat? (cs : List Char) : Option Nat :=
  if cs.isEmpty || !cs.all isDigit then none else some (Nat.ofDigitChars 10 cs 0)

/-- The integer written by digits after at most one sign. -/
def readInt? : List Char → Option Int
  | '-' :: cs => (readNat? cs).map fun n : Nat => -(n : Int)
  | '+' :: cs => (readNat? cs).map fun n : Nat => (n : Int)
  | cs => (readNat? cs).map fun n : Nat => (n : Int)

/-- The integer written by the text, if it lies in `low ≤ · < high`. -/
def readWithin? (low high : Int) (cs : List Char) : Option Int :=
  (readInt? cs).filter fun n => decide (low ≤ n) && decide (n < high)

/-- The decimal digits of a number, without leading zeros. -/
def natText (n : Nat) : List Char := Nat.toDigits 10 n

/-- The decimal digits of an integer, after a minus sign if it is negative. -/
def intText (n : Int) : List Char :=
  if n < 0 then '-' :: natText n.natAbs else natText n.natAbs

/-- The digits of `n`, with zeros in front up to `width`. -/
def padded (width n : Nat) : List Char :=
  let digits := natText n
  List.replicate (width - digits.length) '0' ++ digits

end QueryClient.Text
