/-!
# Punycode

A label with characters beyond ASCII has a form in ASCII: its ASCII characters, a hyphen, and the
places of the others as numbers in a variable-length notation. `punycode` writes this form and
`readPunycode?` reads it.
-/

namespace QueryClient.Url.Domain

/-! ### Writing -/

/-- A digit of the notation: the small letters, then the decimal digits. -/
def punycodeDigit (d : Nat) : Char :=
  if d < 26 then Char.ofNat ('a'.toNat + d) else Char.ofNat ('0'.toNat + d - 26)

/-- How the next number's digits are weighted, after a step `delta` that brought the count of
characters to `count`. -/
def adapt (delta count : Nat) (first : Bool) : Nat :=
  let start := if first then delta / 700 else delta / 2
  let rec reduce (fuel delta k : Nat) : Nat :=
    match fuel with
    | 0 => k
    | fuel + 1 =>
      if 455 < delta then reduce fuel (delta / 35) (k + 36) else k + 36 * delta / (delta + 38)
  let whole := start + start / count
  reduce whole whole 0

/-- The digits of a number in the variable-length notation. -/
def punycodeNumber (fuel bias q k : Nat) : List Char :=
  match fuel with
  | 0 => []
  | fuel + 1 =>
    let t := if k ≤ bias then 1 else if bias + 26 ≤ k then 26 else k - bias
    if q < t then [punycodeDigit q]
    else
      punycodeDigit (t + (q - t) % (36 - t)) ::
        punycodeNumber fuel bias ((q - t) / (36 - t)) (k + 36)

/-- The state while the characters beyond ASCII are placed. -/
structure Punycode where
  delta : Nat
  bias : Nat
  /-- How many characters have been placed. -/
  placed : Nat
  first : Bool
  text : List Char

/-- Place the character `code` wherever it stands in a label. -/
def Punycode.place (label : List Nat) (code : Nat) (s : Punycode) : Punycode :=
  let after := label.foldl (fun (s : Punycode) c =>
    if c < code then { s with delta := s.delta + 1 }
    else if c = code then
      { s with
        text := s.text ++ punycodeNumber (s.delta + 1) s.bias s.delta 36
        bias := adapt s.delta (s.placed + 1) s.first
        delta := 0
        placed := s.placed + 1
        first := false }
    else s) s
  { after with delta := after.delta + 1 }

/-- The Punycode form of a label. -/
def punycode (label : List Char) : List Char :=
  let codes := label.map Char.toNat
  let basic := label.filter fun c => c.toNat < 0x80
  let others := (codes.filter fun n => 0x80 ≤ n).mergeSort.eraseDups
  let start : Punycode := ⟨0, 72, basic.length, true, []⟩
  let (done, _) := others.foldl (fun (acc : Punycode × Nat) code =>
    let s := { acc.1 with delta := acc.1.delta + (code - acc.2) * (acc.1.placed + 1) }
    (s.place codes code, code + 1)) (start, 0x80)
  (if basic.isEmpty then [] else basic ++ ['-']) ++ done.text

/-! ### Reading -/

/-- The value of a digit of the notation. -/
def punycodeValue? (c : Char) : Option Nat :=
  if 'a' ≤ c ∧ c ≤ 'z' then some (c.toNat - 'a'.toNat)
  else if '0' ≤ c ∧ c ≤ '9' then some (c.toNat - '0'.toNat + 26)
  else none

/-- The number at the start of a text in the variable-length notation, and the rest. -/
def readPunycodeNumber? (bias k weight : Nat) : List Char → Option (Nat × List Char)
  | [] => none
  | c :: rest => do
    let d ← punycodeValue? c
    let t := if k ≤ bias then 1 else if bias + 26 ≤ k then 26 else k - bias
    if d < t then return (d * weight, rest)
    else
      let (n, rest) ← readPunycodeNumber? bias (k + 36) (weight * (36 - t)) rest
      return (d * weight + n, rest)

/-- Put the characters into a label whose places a text numbers, each with at least one digit. The
last character was `code`, and the next one comes behind place `place`. -/
def insertPunycode? (fuel bias code place : Nat) (first : Bool) (label text : List Char) :
    Option (List Char) :=
  match fuel, text with
  | _, [] => some label
  | 0, _ => none
  | fuel + 1, _ => do
    let (delta, rest) ← readPunycodeNumber? bias 36 1 text
    let count := label.length + 1
    let next := code + (place + delta) / count
    let position := (place + delta) % count
    if ¬next.isValidChar then none
    else
      insertPunycode? fuel (adapt delta count first) next (position + 1) false
        (label.take position ++ Char.ofNat next :: label.drop position) rest

/-- The label with the given Punycode form. -/
def readPunycode? (text : List Char) : Option (List Char) :=
  let (numbers, basic) := text.reverse.span (· ≠ '-')
  insertPunycode? text.length 72 0x80 0 true (basic.drop 1).reverse numbers.reverse

end QueryClient.Url.Domain
