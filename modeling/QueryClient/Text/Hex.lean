/-!
# Hexadecimal digits

`hexValue?` reads a digit of either case; `hexText` writes a number with a fixed count of digits,
lower case, and `upperHexText` upper case.
-/

namespace QueryClient.Text

/-- The value of a hexadecimal digit of either case. -/
def hexValue? (c : Char) : Option Nat :=
  if '0' ≤ c ∧ c ≤ '9' then some (c.toNat - '0'.toNat)
  else if 'a' ≤ c ∧ c ≤ 'f' then some (c.toNat - 'a'.toNat + 10)
  else if 'A' ≤ c ∧ c ≤ 'F' then some (c.toNat - 'A'.toNat + 10)
  else none

/-- The number written by a run of hexadecimal digits, most significant first. -/
def readHex? (cs : List Char) : Option Nat :=
  cs.foldlM (fun n c => (hexValue? c).map fun d => 16 * n + d) 0

/-- The lowest `width` hexadecimal digits of `n`, lower case. -/
def hexText : (width n : Nat) → List Char
  | 0, _ => []
  | width + 1, n => hexText width (n / 16) ++ [Nat.digitChar (n % 16)]

/-- The lowest `width` hexadecimal digits of `n`, upper case. -/
def upperHexText (width n : Nat) : List Char := (hexText width n).map Char.toUpper

end QueryClient.Text
