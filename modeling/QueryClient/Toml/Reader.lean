import QueryClient.Toml.Basic
import QueryClient.Toml.Number
import QueryClient.Toml.Quoted

/-!
# Reading TOML

`read?` reads a document: entries on lines of their own, with blanks, comments and empty lines
anywhere between them. A text that breaks a rule is refused as a whole.
-/

namespace QueryClient.Toml

open Scanner

/-! ### Keys -/

/-- A character of a name that is not quoted. -/
def isBare (c : Char) : Bool := c.isAlphanum || c = '_' || c = '-'

/-- A name, quoted or not. -/
def name : Scanner String := fun cs =>
  match cs with
  | '"' :: _ | '\x27' :: _ => (quotedLine cs).map fun (text, rest) => (String.ofList text, rest)
  | _ =>
    let text := cs.takeWhile isBare
    if text.isEmpty then none else some (String.ofList text, cs.drop text.length)

/-- A name with the blanks around it. -/
def spacedName : Scanner String := fun cs =>
  (name (skipBlanks cs)).map fun (n, rest) => (n, skipBlanks rest)

/-- How many names a key may have. -/
def keyLimit : Nat := 79

/-- A key: names with points between them, the last one apart. -/
def key : Scanner (List String × String) := fun cs => do
  let (first, rest) ← spacedName cs
  let (others, rest) := many (fun cs => (expect '.' cs).bind spacedName) rest
  if keyLimit ≤ others.length then none
  else
    match others.getLast? with
    | none => return (([], first), rest)
    | some last => return ((first :: others.dropLast, last), rest)

/-! ### Values -/

/-- One or more values with commas between them. -/
def separated {α : Type} (item : Scanner α) : Scanner (List α) := fun cs => do
  let (first, rest) ← item cs
  let (others, rest) := many (fun cs => (expect ',' cs).bind item) rest
  return (first :: others, rest)

/-- The elements of an array after its opening bracket. They may go over several lines, and a comma
may follow the last one. -/
def elements (value : Scanner Item) : Scanner (List Item) := fun cs =>
  let element : Scanner Item := fun cs =>
    (value (skipLines cs)).map fun (item, rest) => (item, skipLines rest)
  match separated element cs with
  | none => (expect ']' (skipLines cs)).map ([], ·)
  | some (items, ',' :: rest) => (expect ']' (skipLines rest)).map (items, ·)
  | some (items, rest) => (expect ']' rest).map (items, ·)

/-- A key-value pair. -/
def pair (value : Scanner Item) : Scanner (List String × String × Item) := fun cs => do
  let ((path, last), rest) ← key cs
  let (item, rest) ← value (skipBlanks (← expect '=' rest))
  return ((path, last, item), skipBlanks rest)

/-- The key-value pairs of an inline table after its opening brace. They stand on one line. -/
def pairs (value : Scanner Item) : Scanner (List (List String × String × Item)) := fun cs =>
  match separated (pair value) cs with
  | none => (expect '\x7d' (skipBlanks cs)).map ([], ·)
  | some (items, rest) => (expect '\x7d' rest).map (items, ·)

/-- A value that holds no others. -/
def scalar (cs : List Char) : Option (Item × List Char) :=
  match cs with
  | [] => none
  | c :: _ =>
    if c = '"' ∨ c = '\x27' then
      (quoted cs).map fun (text, rest) => (.string (String.ofList text), rest)
    else if c = 't' then (expectWord "true".toList cs).map (.bool true, ·)
    else if c = 'f' then (expectWord "false".toList cs).map (.bool false, ·)
    else
      orElse (fun cs => (moment cs).map fun (text, rest) => (.moment (String.ofList text), rest))
        (orElse (fun cs => (float cs).map fun (x, rest) => (.float x, rest))
          (fun cs => (integer cs).map fun (n, rest) => (.integer n, rest))) cs

/-- A value in which arrays and inline tables nest at most `depth` deep. -/
def value : (depth : Nat) → Scanner Item
  | 0 => scalar
  | depth + 1 => fun cs =>
    match cs with
    | '[' :: rest => (elements (value depth) rest).map fun (items, rest) => (.array items, rest)
    | '\x7b' :: rest => do
      let (items, rest) ← pairs (value depth) rest
      let t ← Table.ofPairs? items
      return (.table t.origin t.members, rest)
    | _ => scalar cs

/-- How deep arrays and inline tables may nest. -/
def depthLimit : Nat := 79

/-! ### Documents -/

/-- An entry. -/
def entry : Scanner Entry
  | '[' :: '[' :: rest => do
    let ((path, last), rest) ← key rest
    return (.element path last, ← expectWord "]]".toList rest)
  | '[' :: rest => do
    let ((path, last), rest) ← key rest
    return (.table path last, ← expect ']' rest)
  | cs => do
    let ((path, last, item), rest) ← pair (value depthLimit) cs
    return (.pair path last item, rest)

/-- An entry with the empty lines before it and the rest of its line. -/
def entryLine : Scanner Entry := fun cs => do
  let (e, rest) ← entry (skipLines cs)
  return (e, ← skipLineEnd rest)

/-- The rest after a byte order mark, if there is one. -/
def skipByteOrderMark : List Char → List Char
  | '\ufeff' :: rest => rest
  | cs => cs

/-- The entries of a text. -/
def entries? (text : List Char) : Option (List Entry) :=
  let (entries, rest) := many entryLine (skipByteOrderMark text)
  if skipLineEnd (skipLines rest) = some [] then some entries else none

/-- The document that a text writes. -/
def read? (text : List Char) : Option Table := (entries? text).bind Table.ofEntries?

end QueryClient.Toml
