import QueryClient.Text.Blank
import QueryClient.Text.Hex

/-!
# Universally unique identifiers

A `Uuid` is 128 bits. Its text is 32 hexadecimal digits in groups of 8, 4, 4, 4 and 12, joined by
hyphens. `Uuid.read?` accepts digits of either case, with the hyphens or all without, and the
hyphenated form also in braces or behind `urn:uuid:` in letters of either case.
-/

namespace QueryClient

/-- A universally unique identifier. -/
structure Uuid where
  bits : BitVec 128
  deriving DecidableEq

namespace Uuid

open Text (readHex? hexText)

/-- The identifier written by exactly 32 hexadecimal digits. -/
def ofDigits? (cs : List Char) : Option Uuid :=
  if cs.length = 32 then (readHex? cs).map fun n => ⟨BitVec.ofNat 128 n⟩ else none

/-- The digits of the hyphenated form, if its hyphens are where they belong. -/
def dropHyphens? (cs : List Char) : Option (List Char) :=
  let hyphenAt (i : Nat) : Bool := cs[i]? == some '-'
  if cs.length = 36 && hyphenAt 8 && hyphenAt 13 && hyphenAt 18 && hyphenAt 23 then
    some (cs.take 8 ++ (cs.drop 9).take 4 ++ (cs.drop 14).take 4 ++ (cs.drop 19).take 4 ++
      cs.drop 24)
  else none

/-- The identifier written in the hyphenated form. -/
def readHyphenated? (cs : List Char) : Option Uuid := (dropHyphens? cs).bind ofDigits?

/-- The identifier that a text spells. -/
def read? (cs : List Char) : Option Uuid :=
  match cs.length with
  | 32 => ofDigits? cs
  | 36 => readHyphenated? cs
  | 38 => if cs.head? = some '\x7b' ∧ cs.getLast? = some '\x7d' then
      readHyphenated? (cs.drop 1).dropLast
    else none
  | 45 => if Text.lower (cs.take 9) = "urn:uuid:".toList then readHyphenated? (cs.drop 9) else none
  | _ => none

/-- The hyphenated form, lower case. -/
def text (u : Uuid) : List Char :=
  let digits := hexText 32 u.bits.toNat
  digits.take 8 ++ '-' :: (digits.drop 8).take 4 ++ '-' :: (digits.drop 12).take 4 ++
    '-' :: (digits.drop 16).take 4 ++ '-' :: digits.drop 20

end Uuid

end QueryClient
