import QueryClient.Unicode.Direction
import QueryClient.Unicode.Joining
import QueryClient.Unicode.Normalization
import QueryClient.Url.Domain.Mapping
import QueryClient.Url.Domain.Punycode

/-!
# Labels of domain names

A label is one of the parts of a name between full stops. It is sent in ASCII: one with characters
beyond ASCII as `xn--` and its Punycode form. `Label.read?` reads a label in either form and
refuses what may not stand in one. Whether the characters of a label go in one direction only
matters in a name with characters written from right to left; `Label.isDirected` is for these.
-/

namespace QueryClient.Url.Domain

open Unicode (Direction direction)

/-- A label of a domain name. -/
structure Label where
  /-- What it reads. -/
  characters : List Char
  /-- How it is sent. -/
  text : List Char

namespace Label

/-- A character in ASCII. -/
def isAscii (c : Char) : Bool := c.toNat < 0x80

/-- A character in ASCII that no label may hold. Capital letters only stand for small ones. -/
def isForbidden (c : Char) : Bool :=
  c.isUpper || c.toNat ≤ 0x20 || c.toNat = 0x7f ||
    ['%', '#', '/', ':', '<', '>', '?', '@', '[', '\\', ']', '^', '|'].contains c

/-! ### Joiners -/

/-- The invisible character that keeps letters from joining. -/
def nonJoiner : Char := Char.ofNat 0x200C

/-- The invisible character that makes letters join. -/
def joiner : Char := Char.ofNat 0x200D

/-- The class of the marks that take the vowel from a consonant. -/
def viramaClass : Nat := 9

/-- Whether the nearest character that letters do not join over has a property. -/
def nearest (property : Char → Bool) (cs : List Char) : Bool :=
  match cs.dropWhile Unicode.isTransparent with
  | [] => false
  | c :: _ => property c

/-- Whether a joiner of either kind makes a difference between the characters in front of it, the
last one first, and those after it. Both do behind a virama, and the one that keeps letters from
joining also between two letters that would join. -/
def fits (c : Char) (before after : List Char) : Bool :=
  (before.head?.any fun d => Unicode.combiningClass d = viramaClass) ||
    (c = nonJoiner && nearest Unicode.joinsForward before && nearest Unicode.joinsBackward after)

/-- Whether all joiners in a text make a difference, behind the characters in front of it, the last
one first. -/
def joinersFit (before : List Char) : List Char → Bool
  | [] => true
  | c :: rest =>
    ((c ≠ nonJoiner && c ≠ joiner) || fits c before rest) && joinersFit (c :: before) rest

/-! ### Reading -/

/-- The greatest number of characters of a label beyond ASCII. -/
def characterLimit : Nat := 1000

/-- The greatest length of a Punycode form. -/
def punycodeLimit : Nat := 2000

/-- Whether a label with characters beyond ASCII may read so. -/
def isAllowed (characters : List Char) : Bool :=
  !(characters.head?.any Unicode.isMark) && joinersFit [] characters &&
    characters.length ≤ characterLimit && characters.all fun c => !isForbidden c

/-- Whether characters stand for themselves, each alone and all together. -/
def isMapped (characters : List Char) : Bool :=
  (characters.all fun c => meaning? c = some [c]) && Unicode.normalize characters = characters

/-- Whether characters have the given Punycode form. Those in ASCII have none. -/
def hasPunycode (form characters : List Char) : Bool :=
  !characters.all isAscii && punycode characters = form

/-- The label with the given Punycode form. -/
def readPunycode? (form : List Char) : Option Label :=
  if punycodeLimit < form.length then none
  else
    (Domain.readPunycode? form).bind fun characters =>
      if hasPunycode form characters && isMapped characters && isAllowed characters then
        some ⟨characters, ['x', 'n', '-', '-'] ++ form⟩
      else none

/-- The label that a text spells whose characters stand for themselves. -/
def read? (cs : List Char) : Option Label :=
  match cs with
  | 'x' :: 'n' :: '-' :: '-' :: form => readPunycode? form
  | _ =>
    if cs.all isAscii then
      if cs.any isForbidden then none else some ⟨cs, cs⟩
    else if isAllowed cs then some ⟨cs, ['x', 'n', '-', '-'] ++ punycode cs⟩
    else none

/-! ### Directions -/

/-- Whether a label has a character written from right to left. -/
def hasRightToLeft (l : Label) : Bool :=
  l.characters.any fun c => [.right, .arabic, .arabicNumber].contains (direction c)

/-- What may stand after the first character of a label written from left to right. -/
def isLeft (d : Direction) : Bool := [.left, .europeanNumber, .neutral, .mark].contains d

/-- What may stand after the first character of a label written from right to left. -/
def isRight (d : Direction) : Bool :=
  [.right, .arabic, .arabicNumber, .europeanNumber, .neutral, .mark].contains d

/-- Whether a label is written in one direction: it starts with a letter, goes on in the direction
of that letter and ends, but for marks, with a letter or a number. Numbers of both kinds together do
not go from right to left. -/
def isDirected (l : Label) : Bool :=
  match l.characters.map direction with
  | [] => true
  | first :: rest =>
    let last := rest.reverse.find? (· ≠ .mark)
    match first with
    | .left => rest.all isLeft && last.all (· ≠ .neutral)
    | .right | .arabic =>
      rest.all isRight && last.all (· ≠ .neutral) &&
        !(rest.contains .europeanNumber && rest.contains .arabicNumber)
    | _ => false

end Label

end QueryClient.Url.Domain
