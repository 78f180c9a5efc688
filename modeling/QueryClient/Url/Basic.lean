import QueryClient.Url.Host

/-!
# Addresses of services

`Url.read?` reads an address with the scheme `http` or `https` and brings it to its one written
form: the host in small letters, no port that the scheme implies, no dot segments, and what may not
stand in a part percent-encoded.
-/

namespace QueryClient

/-- An address, its parts as they are written. -/
structure Url where
  scheme : String
  user : List Char
  /-- Empty if there is none. -/
  password : List Char
  host : Url.Host
  /-- None if it is the scheme's own. -/
  port : Option Nat
  /-- The segments of the path, at least one. -/
  path : List (List Char)
  query : Option (List Char)
  fragment : Option (List Char)
  deriving DecidableEq

namespace Url

/-! ### Parts -/

/-- The port of a scheme. -/
def defaultPort (scheme : String) : Nat := if scheme = "https" then 443 else 80

/-- A slash of either kind. -/
def isSlash (c : Char) : Bool := c = '/' || c = '\\'

/-- A character that ends the host and port. -/
def endsAuthority (c : Char) : Bool := isSlash c || c = '?' || c = '#'

/-- The text in front of the last `@` and the text after it. -/
def splitUser (authority : List Char) : Option (List Char × List Char) :=
  match authority.reverse.span (· ≠ '@') with
  | (host, _ :: user) => some (user.reverse, host.reverse)
  | (_, []) => none

/-- A user name and a password. -/
def readUser (cs : List Char) : List Char × List Char :=
  match cs.span (· ≠ ':') with
  | (user, _ :: password) => (encode userSet user, encode userSet password)
  | (user, []) => (encode userSet user, [])

/-- The host in front of the first colon that is not in brackets, and what follows it. -/
def spanHost (bracketed : Bool) : List Char → List Char × List Char
  | [] => ([], [])
  | c :: rest =>
    if c = ':' ∧ ¬bracketed then ([], c :: rest)
    else
      let inside := if c = '[' then true else if c = ']' then false else bracketed
      let (host, after) := spanHost inside rest
      (c :: host, after)

/-- A port: digits for a number of 16 bits, or nothing. -/
def readPort? (scheme : String) (cs : List Char) : Option (Option Nat) :=
  if cs.isEmpty then some none
  else
    (Text.readNat? cs).bind fun n =>
      if 65535 < n then none else if n = defaultPort scheme then some none else some (some n)

/-- A segment that stands for the one in front of it. -/
def isDoubleDot (segment : List Char) : Bool :=
  let plain := Text.lower segment
  ["..", "%2e.", ".%2e", "%2e%2e"].contains (String.ofList plain)

/-- A segment that stands for nothing. -/
def isSingleDot (segment : List Char) : Bool :=
  let plain := Text.lower segment
  [".", "%2e"].contains (String.ofList plain)

/-- A segment that is a drive letter. A double dot does not take it back. -/
def isDrive : List Char → Bool
  | [letter, mark] => letter.isAlpha && (mark = ':' || mark = '|')
  | _ => false

/-- The segments without the last one, unless that is a drive letter. -/
def dropSegment (done : List (List Char)) : List (List Char) :=
  if done.getLast?.any isDrive then done else done.dropLast

/-- Resolve dot segments. A dot segment at the end leaves an empty segment. -/
def resolveDots (done : List (List Char)) : List (List Char) → List (List Char)
  | [] => done
  | segment :: rest =>
    let atEnd : List (List Char) := if rest.isEmpty then [[]] else []
    if isDoubleDot segment then resolveDots (dropSegment done ++ atEnd) rest
    else if isSingleDot segment then resolveDots (done ++ atEnd) rest
    else resolveDots (done ++ [segment]) rest

/-- The segments of a path. -/
def readPath (cs : List Char) : List (List Char) :=
  let below :=
    match cs with
    | c :: rest => if isSlash c then rest else cs
    | [] => []
  resolveDots [] ((below.splitOnP isSlash).map (encode pathSet))

/-! ### Reading -/

/-- A text without blanks and control characters at its ends, and without tabs and line ends. -/
def strip (cs : List Char) : List Char :=
  let isEdge (c : Char) : Bool := c.toNat ≤ 0x20
  let trimmed := ((cs.dropWhile isEdge).reverse.dropWhile isEdge).reverse
  trimmed.filter fun c => c ≠ '\t' && c ≠ '\n' && c ≠ '\r'

/-- The address that a text spells after its scheme and colon. -/
def readAfterScheme? (scheme : String) (cs : List Char) : Option Url := do
  let (authority, rest) := (cs.dropWhile isSlash).span fun c => !endsAuthority c
  let (credentials, hostPort) := (splitUser authority).getD ([], authority)
  let (user, password) := readUser credentials
  let (hostText, portText) := spanHost false hostPort
  let host ← Host.read? hostText
  let port ← readPort? scheme (portText.drop 1)
  let (beforeFragment, fragmentText) := rest.span (· ≠ '#')
  let (pathText, queryText) := beforeFragment.span (· ≠ '?')
  let mark (set : List Char) (part : List Char) : Option (List Char) :=
    if part.isEmpty then none else some (encode set (part.drop 1))
  return ⟨scheme, user, password, host, port, readPath pathText, mark querySet queryText,
    mark fragmentSet fragmentText⟩

/-- The address that a text spells. -/
def read? (text : String) : Option Url :=
  let cs := strip text.toList
  match cs.span (· ≠ ':') with
  | (scheme, _ :: rest) =>
    match String.ofList (Text.lower scheme) with
    | "http" => readAfterScheme? "http" rest
    | "https" => readAfterScheme? "https" rest
    | _ => none
  | _ => none

/-! ### Writing -/

/-- The path and the query, as they are sent. -/
def target (u : Url) : List Char :=
  u.path.flatMap (fun segment => '/' :: segment) ++ (u.query.map ('?' :: ·)).getD []

/-- The user and the password in front of the host. -/
def userText (u : Url) : List Char :=
  let password := if u.password.isEmpty then [] else ':' :: u.password
  if u.user.isEmpty ∧ u.password.isEmpty then [] else u.user ++ password ++ ['@']

/-- The written form of an address. -/
def text (u : Url) : String :=
  String.ofList (u.scheme.toList ++ [':', '/', '/'] ++ u.userText ++ u.host.text ++
    (u.port.map fun p => ':' :: Text.natText p).getD [] ++ u.target ++
    (u.fragment.map ('#' :: ·)).getD [])

/-- The address with a pair added to its query. -/
def addPair (u : Url) (name value : String) : Url :=
  let pair := name.toList ++ '=' :: value.toList
  match u.query with
  | some (c :: rest) => { u with query := some (c :: rest ++ '&' :: pair) }
  | _ => { u with query := some pair }

end Url

end QueryClient
