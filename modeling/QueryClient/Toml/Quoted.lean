import QueryClient.Text.Hex
import QueryClient.Toml.Scan

/-!
# Quoted text

A TOML string is basic, between quotation marks and with escapes, or literal, between apostrophes
and without. Either kind is confined to one line, or stands between threefold marks and goes over
several. `quoted` takes a string of any kind and `quotedLine` one of a single line.
-/

namespace QueryClient.Toml

open Scanner

/-! ### Characters -/

/-- The character whose code the first `width` hexadecimal digits write. -/
def codePoint (width : Nat) : Scanner Char := fun cs =>
  if (cs.take width).length < width then none
  else
    (Text.readHex? (cs.take width)).bind fun n =>
      if n.isValidChar then some (Char.ofNat n, cs.drop width) else none

/-- The character that is escaped by what follows a backslash. -/
def escaped : Scanner Char
  | 'b' :: rest => some ('\x08', rest)
  | 'f' :: rest => some ('\x0c', rest)
  | 'n' :: rest => some ('\n', rest)
  | 'r' :: rest => some ('\r', rest)
  | 't' :: rest => some ('\t', rest)
  | '"' :: rest => some ('"', rest)
  | '\\' :: rest => some ('\\', rest)
  | 'u' :: rest => codePoint 4 rest
  | 'U' :: rest => codePoint 8 rest
  | _ => none

/-- A character of a literal string. -/
def literalChar : Scanner Char
  | c :: rest => if isPrintable c && c ≠ '\x27' then some (c, rest) else none
  | [] => none

/-- A character of a basic string: as it is or escaped. -/
def basicChar : Scanner Char
  | '\\' :: rest => escaped rest
  | c :: rest => if isPrintable c && c ≠ '"' then some (c, rest) else none
  | [] => none

/-! ### Strings of one line -/

/-- A string of one line after its opening mark. -/
def oneLine (mark : Char) (char : Scanner Char) : Scanner (List Char) := fun cs => do
  let (text, rest) := many char cs
  return (text, ← expect mark rest)

/-! ### Strings of several lines -/

/-- A newline, which stands for a line feed however it is written. -/
def newline : Scanner (List Char) := fun cs => (skipNewline cs).map (['\n'], ·)

/-- The newline that a backslash escapes, with the blanks before it and all blanks and newlines
after it. It stands for nothing. -/
def escapedNewline : Scanner (List Char) := fun cs =>
  (skipNewline (skipBlanks cs)).map fun rest =>
    ([], skipBlanks (many (fun cs => newline (skipBlanks cs)) rest).2)

/-- One or two marks, which do not end a string of several lines. -/
def someMarks (mark : Char) : Scanner (List Char) := fun cs =>
  let marks := cs.takeWhile (· = mark)
  if marks.length = 1 ∨ marks.length = 2 then some (marks, cs.drop marks.length) else none

/-- A piece of a literal string of several lines. -/
def literalPiece : Scanner (List Char) :=
  orElse (fun cs => (literalChar cs).map fun (c, rest) => ([c], rest))
    (orElse newline (someMarks '\x27'))

/-- A piece of a basic string of several lines. -/
def basicPiece : Scanner (List Char) :=
  orElse (fun cs => (basicChar cs).map fun (c, rest) => ([c], rest))
    (orElse newline (orElse (someMarks '"') fun
      | '\\' :: rest => escapedNewline rest
      | _ => none))

/-- A string of several lines after its opening marks. A newline right after them does not belong
to it. Up to two further marks before the closing ones do. -/
def multiLine (mark : Char) (piece : Scanner (List Char)) : Scanner (List Char) := fun cs =>
  let (pieces, rest) := many piece ((skipNewline cs).getD cs)
  let marks := rest.takeWhile (· = mark)
  if 3 ≤ marks.length ∧ marks.length ≤ 5 then
    some (pieces.flatten ++ marks.drop 3, rest.drop marks.length)
  else none

/-! ### Strings of any kind -/

/-- A string of one line. -/
def quotedLine : Scanner (List Char)
  | '"' :: rest => oneLine '"' basicChar rest
  | '\x27' :: rest => oneLine '\x27' literalChar rest
  | _ => none

/-- A string. -/
def quoted : Scanner (List Char)
  | '"' :: '"' :: '"' :: rest => multiLine '"' basicPiece rest
  | '\x27' :: '\x27' :: '\x27' :: rest => multiLine '\x27' literalPiece rest
  | cs => quotedLine cs

end QueryClient.Toml
