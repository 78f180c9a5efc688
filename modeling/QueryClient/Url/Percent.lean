import QueryClient.Text.Ascii
import QueryClient.Text.Hex
import QueryClient.Text.Utf8

/-!
# Percent encoding

A byte that may not stand in a part of an address is written as a percent sign and two hexadecimal
digits. Which bytes may not depends on the part; bytes beyond ASCII and control characters may
nowhere. `decode` undoes the encoding and leaves a percent sign without two digits as it is.
-/

namespace QueryClient.Url

/-- A control character or a byte beyond ASCII. -/
def isUnprintable (b : UInt8) : Bool := b < 0x20 || 0x7f ≤ b

/-- The bytes of a fragment that are encoded besides the unprintable ones. -/
def fragmentSet : List Char := [' ', '"', '<', '>', '\x60']

/-- The bytes of a query that are encoded besides the unprintable ones. -/
def querySet : List Char := [' ', '"', '#', '<', '>', '\x27']

/-- The bytes of a path that are encoded besides the unprintable ones. -/
def pathSet : List Char := fragmentSet ++ ['#', '?', '\x7b', '\x7d']

/-- The bytes of a user name or a password that are encoded besides the unprintable ones. -/
def userSet : List Char := pathSet ++ ['/', ':', ';', '=', '@', '[', '\\', ']', '^', '|']

/-- The byte itself, or a percent sign with its two hexadecimal digits. -/
def encodeByte (set : List Char) (b : UInt8) : List Char :=
  if isUnprintable b || set.contains (Ascii.toChar b) then '%' :: Text.upperHexText 2 b.toNat
  else [Ascii.toChar b]

/-- A text with the bytes of a set encoded. -/
def encode (set : List Char) (text : List Char) : List Char :=
  (Text.Utf8.encode text).flatMap (encodeByte set)

/-- The bytes of a text with encoded bytes. -/
def decode : List UInt8 → List UInt8
  | b :: h :: l :: rest =>
    if b = 0x25 then
      match Ascii.hexValue? h, Ascii.hexValue? l with
      | some high, some low => UInt8.ofNat (16 * high + low) :: decode rest
      | _, _ => b :: decode (h :: l :: rest)
    else b :: decode (h :: l :: rest)
  | rest => rest

end QueryClient.Url
