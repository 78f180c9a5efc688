import QueryClient.Text.Hex

/-!
# Scanning characters

A `Scanner` takes something from the start of a text and leaves the rest; `many` repeats one for
as long as it takes something. The scanners here are for what TOML allows between its tokens:
blanks, newlines and comments.
-/

namespace QueryClient.Toml

/-- Takes something from the start of a text and leaves the rest, or does not apply. -/
abbrev Scanner (α : Type) := List Char → Option (α × List Char)

namespace Scanner

variable {α : Type}

/-- At most `limit` pieces, one after the other for as long as there is one. -/
def atMost (piece : Scanner α) : (limit : Nat) → List Char → List α × List Char
  | 0, cs => ([], cs)
  | limit + 1, cs =>
    match piece cs with
    | none => ([], cs)
    | some (x, rest) =>
      let (xs, last) := atMost piece limit rest
      (x :: xs, last)

/-- As many pieces as there are. A piece takes at least one character, so there are no more of
them than characters. -/
def many (piece : Scanner α) (cs : List Char) : List α × List Char := atMost piece cs.length cs

/-- The first of two scanners that applies. -/
def orElse (first second : Scanner α) : Scanner α := fun cs => (first cs).or (second cs)

/-- The rest after a character that has to be there. -/
def expect (c : Char) : List Char → Option (List Char)
  | d :: rest => if d = c then some rest else none
  | [] => none

/-- The rest after a word that has to be there. -/
def expectWord (word : List Char) (cs : List Char) : Option (List Char) :=
  word.foldlM (fun cs c => expect c cs) cs

end Scanner

/-! ### Between tokens -/

/-- A tab or a blank. -/
def isBlank (c : Char) : Bool := c = ' ' || c = '\t'

/-- A character of a comment: any but the control characters, of which the tab is allowed. -/
def isPrintable (c : Char) : Bool :=
  c = '\t' || (' ' ≤ c && c ≤ '~') || '\x80' ≤ c

/-- The rest after tabs and blanks. -/
def skipBlanks (cs : List Char) : List Char := cs.dropWhile isBlank

/-- The rest after a newline: a line feed, with or without a carriage return before it. -/
def skipNewline : List Char → Option (List Char)
  | '\n' :: rest => some rest
  | '\r' :: '\n' :: rest => some rest
  | _ => none

/-- The rest after blanks and perhaps a comment. -/
def skipComment (cs : List Char) : List Char :=
  match skipBlanks cs with
  | '#' :: rest => rest.dropWhile isPrintable
  | rest => rest

/-- The rest after blanks, perhaps a comment, and the end of the line or of the text. -/
def skipLineEnd (cs : List Char) : Option (List Char) :=
  match skipComment cs with
  | [] => some []
  | rest => skipNewline rest

/-- The rest after one newline with what may stand before it in its line: blanks and a comment. -/
def skipLine (cs : List Char) : Option (List Char) := skipNewline (skipComment cs)

/-- The rest after any blanks, newlines and comments; a comment ends with a newline. -/
def skipLines (cs : List Char) : List Char :=
  skipBlanks (Scanner.many (fun cs => (skipLine cs).map ((), ·)) cs).2

end QueryClient.Toml
