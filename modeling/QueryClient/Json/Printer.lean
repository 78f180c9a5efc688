import QueryClient.Binary.Layout
import QueryClient.Json.Basic
import QueryClient.Text.Hex

/-!
# Compact JSON text

`Json.chars` writes a value without blanks, members in their order. Strings escape the quote, the
backslash and the control characters below the blank, and nothing else. Doubles have the fewest
digits that read back.
-/

namespace QueryClient.Json

/-- A character inside a JSON string. -/
def escape (c : Char) : List Char :=
  if c = '"' then ['\\', '"']
  else if c = '\\' then ['\\', '\\']
  else if c = '\x08' then ['\\', 'b']
  else if c = '\x0c' then ['\\', 'f']
  else if c = '\n' then ['\\', 'n']
  else if c = '\r' then ['\\', 'r']
  else if c = '\t' then ['\\', 't']
  else if c.toNat < 0x20 then '\\' :: 'u' :: Text.hexText 4 c.toNat
  else [c]

/-- A string in quotes. -/
def quoted (s : String) : List Char := '"' :: (s.toList.flatMap escape ++ ['"'])

mutual

/-- The compact text of a value. -/
def chars : Json → List Char
  | .null => ['n', 'u', 'l', 'l']
  | .bool true => ['t', 'r', 'u', 'e']
  | .bool false => ['f', 'a', 'l', 's', 'e']
  | .int n => Text.intText n.val
  | .double x => x.val.text Binary.json
  | .string s => quoted s
  | .array items => '[' :: (charsItems items ++ [']'])
  | .object members => '\x7b' :: (charsMembers members ++ ['\x7d'])

/-- Elements, separated by commas. -/
def charsItems : List Json → List Char
  | [] => []
  | j :: rest =>
    match rest with
    | [] => chars j
    | _ :: _ => chars j ++ ',' :: charsItems rest

/-- Members, separated by commas. -/
def charsMembers : List (String × Json) → List Char
  | [] => []
  | (name, j) :: rest =>
    match rest with
    | [] => quoted name ++ ':' :: chars j
    | _ :: _ => quoted name ++ ':' :: chars j ++ ',' :: charsMembers rest

end

/-- The compact text of a value, as a string. -/
def text (j : Json) : String := String.ofList (chars j)

end QueryClient.Json
