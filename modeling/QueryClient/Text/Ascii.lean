/-!
# ASCII bytes

The bytes that have a meaning in JSON text and in the results of a query, by name.
-/

namespace QueryClient.Ascii

/-- The quotation mark. -/
def quote : UInt8 := 0x22
/-- The comma. -/
def comma : UInt8 := 0x2c
/-- The minus sign. -/
def minus : UInt8 := 0x2d
/-- The full stop. -/
def point : UInt8 := 0x2e
/-- The digit zero. -/
def zero : UInt8 := 0x30
/-- The colon. -/
def colon : UInt8 := 0x3a
/-- The opening square bracket. -/
def openBracket : UInt8 := 0x5b
/-- The backslash. -/
def backslash : UInt8 := 0x5c
/-- The closing square bracket. -/
def closeBracket : UInt8 := 0x5d
/-- The opening brace. -/
def openBrace : UInt8 := 0x7b
/-- The closing brace. -/
def closeBrace : UInt8 := 0x7d

/-- Tab, line feed, form feed, carriage return or blank. -/
def isBlank (b : UInt8) : Bool :=
  b == 0x20 || b == 0x09 || b == 0x0a || b == 0x0c || b == 0x0d

/-- A decimal digit. -/
def isDigit (b : UInt8) : Bool := 0x30 ≤ b && b ≤ 0x39

/-- The value of a decimal digit. -/
def digitValue (b : UInt8) : Nat := b.toNat - 0x30

/-- The value of a hexadecimal digit of either case. -/
def hexValue? (b : UInt8) : Option Nat :=
  if 0x30 ≤ b ∧ b ≤ 0x39 then some (b.toNat - 0x30)
  else if 0x41 ≤ b ∧ b ≤ 0x46 then some (b.toNat - 0x41 + 10)
  else if 0x61 ≤ b ∧ b ≤ 0x66 then some (b.toNat - 0x61 + 10)
  else none

/-- A hexadecimal digit of either case. -/
def isHexDigit (b : UInt8) : Bool := (hexValue? b).isSome

/-- The character with the byte's code. -/
def toChar (b : UInt8) : Char := Char.ofNat b.toNat

end QueryClient.Ascii
