import QueryClient.Text.Blank
import QueryClient.Text.Hex
import QueryClient.Text.Numeral
import QueryClient.Url.Domain

/-!
# Hosts

A host is a domain name or an address of the fourth or sixth version of the internet protocol. A
name that ends in a number has to be an address of the fourth version. Addresses have one written
form each.
-/

namespace QueryClient.Url

/-- The host of an address. -/
inductive Host where
  | domain (name : List Char)
  /-- The 32 bits of an address of the fourth version. -/
  | ipv4 (address : Nat)
  /-- The eight groups of 16 bits of an address of the sixth version. -/
  | ipv6 (groups : List Nat)
  deriving DecidableEq

namespace Host

/-! ### The fourth version -/

/-- A number in decimal, or after a zero in octal, or after `0x` in hexadecimal. -/
def readNumber? (cs : List Char) : Option Nat :=
  let digits (base : Nat) (cs : List Char) : Option Nat :=
    cs.foldlM (fun n c =>
      (Text.hexValue? c).bind fun d => if d < base then some (base * n + d) else none) 0
  match cs with
  | [] => none
  | '0' :: 'x' :: rest | '0' :: 'X' :: rest => digits 16 rest
  | '0' :: c :: rest => digits 8 (c :: rest)
  | _ => digits 10 cs

/-- The parts of a name between its points, without an empty last one. -/
def parts (name : List Char) : List (List Char) :=
  let all := name.splitOn '.'
  match all.getLast? with
  | some [] => all.dropLast
  | _ => all

/-- Whether a name ends in a number. -/
def endsInNumber (name : List Char) : Bool :=
  match (parts name).getLast? with
  | none => false
  | some last => (!last.isEmpty && last.all Text.isDigit) || (readNumber? last).isSome

/-- The address with the given numbers: the last one fills what the others leave. -/
def combine? : List Nat → Option Nat
  | [] => none
  | numbers =>
    let last := numbers.getLast?.getD 0
    let front := numbers.dropLast
    if 4 < numbers.length ∨ front.any (fun n => 255 < n) ∨
        Nat.pow 256 (4 - front.length) ≤ last then none
    else
      let high := (front.zipIdx.map fun n => n.1 * Nat.pow 256 (3 - n.2)).foldl (· + ·) 0
      some (high + last)

/-- An address of the fourth version. -/
def readIpv4? (name : List Char) : Option Nat :=
  ((parts name).mapM fun part =>
    (readNumber? part).bind fun n => if n < Nat.pow 2 32 then some n else none).bind combine?

/-! ### The sixth version -/

/-- A group of up to four hexadecimal digits. -/
def readGroup? (cs : List Char) : Option Nat :=
  if cs.isEmpty ∨ 4 < cs.length then none else Text.readHex? cs

/-- A number below 256 in decimal, without leading zeros. -/
def readByte? (cs : List Char) : Option Nat :=
  match cs with
  | '0' :: _ :: _ => none
  | _ => (Text.readNat? cs).bind fun n => if n < 256 then some n else none

/-- Groups between colons; the last two may be written as four bytes between points. -/
def readGroups? (cs : List Char) : Option (List Nat) :=
  let pieces := cs.splitOn ':'
  match pieces.getLast? with
  | none => none
  | some last =>
    if last.contains '.' then do
      let front ← pieces.dropLast.mapM readGroup?
      match ← (last.splitOn '.').mapM readByte? with
      | [a, b, c, d] => return front ++ [256 * a + b, 256 * c + d]
      | _ => none
    else pieces.mapM readGroup?

/-- Groups, or none at all. -/
def readSomeGroups? (cs : List Char) : Option (List Nat) :=
  if cs.isEmpty then some [] else readGroups? cs

/-- The text in front of the first double colon and the text after it. -/
def splitGap : List Char → Option (List Char × List Char)
  | [] => none
  | ':' :: ':' :: rest => some ([], rest)
  | c :: rest => (splitGap rest).map fun p => (c :: p.1, p.2)

/-- An address of the sixth version. A double colon stands for as many zeros as are left out, at
least one. -/
def readIpv6? (cs : List Char) : Option (List Nat) :=
  match splitGap cs with
  | none => (readGroups? cs).filter fun groups => groups.length = 8
  | some (before, after) => do
    if before.contains '.' then none
    let front ← readSomeGroups? before
    let back ← readSomeGroups? after
    if 8 ≤ front.length + back.length then none
    else return front ++ List.replicate (8 - front.length - back.length) 0 ++ back

/-- How many zeros each suffix of a list starts with. -/
def zeroRuns : List Nat → List Nat
  | [] => []
  | n :: rest =>
    let runs := zeroRuns rest
    (if n = 0 then runs.headD 0 + 1 else 0) :: runs

/-- A group in hexadecimal without leading zeros. -/
def groupText (n : Nat) : List Char := Nat.toDigits 16 n

/-- Groups with colons between them. -/
def groupsText (groups : List Nat) : List Char := [':'].intercalate (groups.map groupText)

/-- An address of the sixth version: the first longest run of at least two zeros is left out. -/
def ipv6Text (groups : List Nat) : List Char :=
  let runs := zeroRuns groups
  let longest := runs.foldl max 0
  if longest < 2 then groupsText groups
  else
    let start := runs.idxOf longest
    groupsText (groups.take start) ++ [':', ':'] ++ groupsText (groups.drop (start + longest))

/-- The written form of a host. -/
def text : Host → List Char
  | .domain name => name
  | .ipv4 address =>
    ['.'].intercalate ([24, 16, 8, 0].map fun shift =>
      Text.natText (address / Nat.pow 2 shift % 256))
  | .ipv6 groups => '[' :: (ipv6Text groups ++ [']'])

/-- The host that a text names. -/
def read? (cs : List Char) : Option Host :=
  match cs with
  | [] => none
  | '[' :: rest =>
    match rest.reverse with
    | ']' :: inner => (readIpv6? inner.reverse).map .ipv6
    | _ => none
  | _ => do
    let name ← Domain.read? cs
    if name.isEmpty then none
    else if endsInNumber name then (readIpv4? name).map .ipv4
    else return .domain name

end Host

end QueryClient.Url
