import QueryClient.Text.Hex

/-!
# Tables of characters

A `Table` says something of the characters whose codes lie in certain ranges, and `Table.find?`
looks a character up: what it finds is said of a range that the character lies in
(`bounds_of_search`).

A table is written as text: words between blanks and line ends, in increasing order of the codes,
and all numbers hexadecimal.

* `300-36F`, or `345` for a single character, puts a range into the table (`Table.readRanges`).
* `300-314:E6` says a number of all characters of a range (`Table.readNumbers`).
* `BC=31.2044.34,31.2044.32` says what each of several successive characters stands for. In
  `1D400-1D419=61` that moves on with the character, from the first one to the last one, and in
  `100-12E/2=101` only every second character has an image (`Table.readImages`).

The tables of this library are those of Unicode 17.
-/

namespace QueryClient.Unicode

/-- What is said of the characters whose codes lie in a range. -/
structure Span (α : Type) where
  first : Nat
  last : Nat
  value : α

/-- Ranges in increasing order, apart from each other. -/
structure Table (α : Type) where
  spans : Array (Span α)

namespace Table

variable {α : Type}

/-! ### Looking up -/

/-- The range with the code `n` among the ranges at the positions from `low` on and below `high`. -/
def search (t : Table α) (n low high : Nat) : Option (Span α) :=
  if low < high then
    let middle := (low + high) / 2
    match t.spans[middle]? with
    | none => none
    | some span =>
      if n < span.first then t.search n low middle
      else if span.last < n then t.search n (middle + 1) high
      else some span
  else none
termination_by high - low

/-- A code lies in the range that is found for it. -/
theorem bounds_of_search {t : Table α} {n low high : Nat} {span : Span α}
    (h : t.search n low high = some span) : span.first ≤ n ∧ n ≤ span.last := by
  fun_induction search t n low high with
  | case1 => simp at h
  | case2 _ _ _ _ _ _ _ ih => exact ih h
  | case3 _ _ _ _ _ _ _ _ ih => exact ih h
  | case4 =>
    simp only [Option.some.injEq] at h
    subst h
    omega
  | case5 => simp at h

/-- What the table says of a character. -/
def find? (t : Table α) (c : Char) : Option α := (t.search c.toNat 0 t.spans.size).map Span.value

/-- Whether the table has a character. -/
def has (t : Table α) (c : Char) : Bool := (t.find? c).isSome

/-! ### Reading -/

/-- The number that hexadecimal digits write. -/
def number (digits : List Char) : Nat := (Text.readHex? digits).getD 0

/-- The text in front of the first `mark` and the text after it. -/
def sides (mark : Char) (cs : List Char) : List Char × List Char :=
  let (before, after) := cs.span (· ≠ mark)
  (before, after.drop 1)

/-- The ends of a range. -/
def ends (range : List Char) : Nat × Nat :=
  let (first, last) := sides '-' range
  (number first, number (if last.isEmpty then first else last))

/-- The words of a text. -/
def words (text : String) : List (List Char) :=
  (text.toList.splitOnP fun c => c = ' ' || c = '\n').filter fun word => !word.isEmpty

/-- The table with the ranges that each word of a text stands for. -/
def ofWords (spans : List Char → List (Span α)) (text : String) : Table α :=
  ⟨((words text).flatMap spans).toArray⟩

/-- The table of ranges that a text writes. -/
def readRanges : String → Table Unit :=
  ofWords fun word =>
    let (first, last) := ends word
    [⟨first, last, ()⟩]

/-- The table of numbers that a text writes. -/
def readNumbers : String → Table Nat :=
  ofWords fun word =>
    let (range, value) := sides ':' word
    let (first, last) := ends range
    [⟨first, last, number value⟩]

/-- A single character and what it stands for. -/
def image (code : Nat) (codes : List Nat) : Span (List Char) := ⟨code, code, codes.map Char.ofNat⟩

/-- The table of images that a text writes. -/
def readImages : String → Table (List Char) :=
  ofWords fun word =>
    let (domain, images) := sides '=' word
    let (range, step) := sides '/' domain
    let (first, last) := ends range
    match (images.splitOn ',').map fun codes => (codes.splitOn '.').map number with
    | [[code]] =>
      let stride := if step.isEmpty then 1 else number step
      (List.range ((last - first) / stride + 1)).map fun i =>
        image (first + stride * i) [code + stride * i]
    | images => images.zipIdx.map fun (codes, i) => image (first + i) codes

end Table

end QueryClient.Unicode
