import QueryClient.Getter.Target
import QueryClient.Row
import QueryClient.Stream.Elements

/-!
# Cursors

A `Cursor` goes once through the rows of a result, from before the first one to after the last.
Its rows come from the network or are at hand.

Going to the next row takes three steps, because a close may come while a row is being read:
`startNext` answers at once or starts reading, `pull` reads, and `finishNext` takes the row over.
A close in between leaves the source to the reader, and `finishNext` drops it. `next` is the three
steps in a row.
-/

namespace QueryClient

/-- Where the rows of a cursor come from. -/
inductive RowSource where
  /-- The rows that the service sends. -/
  | stream (elements : ElementStream)
  /-- Rows made by the client itself. -/
  | memory (rows : List Row)

namespace RowSource

/-- Whether the rows come from the service. -/
def ownsNetwork : RowSource → Bool
  | .stream _ => true
  | .memory _ => false

/-- A bound on the rows still to come. -/
def size : RowSource → Nat
  | .stream elements => elements.input.size
  | .memory rows => rows.length

/-- The next row, or the failure to read it; nothing after the last. -/
def pull (columns : List Column) : RowSource → Option (Result Row) × RowSource
  | .stream elements =>
    match elements.next with
    | (.ok (some raw), rest) => (some (Row.decode columns raw), .stream rest)
    | (.ok none, rest) => (none, .stream rest)
    | (.error e, rest) => (some (.error e), .stream rest)
  | .memory [] => (none, .memory [])
  | .memory (row :: rows) => (some (.ok row), .memory rows)

end RowSource

/-- A cursor over the rows of a result. -/
structure Cursor where
  columns : List Column
  /-- The most rows it delivers; zero stands for all. -/
  maxRows : Nat
  /-- Whether the rows come from the service. -/
  ownsNetwork : Bool
  /-- The rows still to come, as long as the cursor holds them. -/
  source : Option RowSource
  /-- The current row. -/
  row : Option Row
  /-- How many rows have been delivered. -/
  position : Nat
  /-- Whether the rows have come to an end. -/
  exhausted : Bool
  /-- Whether the last value read was null. -/
  wasNull : Bool
  /-- Whether a row is being read at the moment. -/
  reading : Bool
  closed : Bool
  /-- Whether the client has given its handle away. -/
  dropped : Bool

namespace Cursor

/-- A cursor before its first row. -/
def create (columns : List Column) (source : RowSource) (maxRows : Nat) : Cursor where
  columns := columns
  maxRows := maxRows
  ownsNetwork := source.ownsNetwork
  source := some source
  row := none
  position := 0
  exhausted := false
  wasNull := false
  reading := false
  closed := false
  dropped := false

/-- The failure of an operation on a closed cursor. -/
def closedError : ClientError := .closed "cursor"

/-! ### Closing -/

/-- Let go of the rows. -/
def release (c : Cursor) : Cursor := { c with source := none, row := none }

/-- Close a cursor. A row that is being read is left to its reader. -/
def close (c : Cursor) : Cursor :=
  if c.closed then c
  else if c.reading then { c with closed := true }
  else { c with closed := true }.release

/-! ### Going to the next row -/

/-- The end of the rows. -/
def finish (c : Cursor) : Cursor := { c.release with exhausted := true }

/-- Whether the cursor has delivered all the rows that it may. -/
def atLimit (c : Cursor) : Bool := 0 < c.maxRows ∧ c.maxRows ≤ c.position

/-- Start going to the next row: the answer, if it is known without reading, else none. -/
def startNext (c : Cursor) : Option (Result Bool) × Cursor :=
  if c.closed then (some (.error closedError), c)
  else
    let c := { c with wasNull := false }
    if c.exhausted then (some (.ok false), c)
    else if c.atLimit then (some (.ok false), c.finish)
    else (none, { c with reading := true })

/-- Read the next row of a cursor that has started to. -/
def pull (c : Cursor) : Option (Result Row) × Cursor :=
  match c.source with
  | none => (none, c)
  | some source =>
    let (pulled, rest) := source.pull c.columns
    (pulled, { c with source := some rest })

/-- Take over a row that has been read, unless the cursor has been closed meanwhile. A row that
cannot be read ends the cursor. -/
def finishNext (c : Cursor) (pulled : Option (Result Row)) : Result Bool × Cursor :=
  let c := { c with reading := false }
  if c.closed then (.error closedError, c.release)
  else
    match pulled with
    | some (.ok row) => (.ok true, { c with row := some row, position := c.position + 1 })
    | some (.error e) => (.error e, c.finish)
    | none => (.ok false, c.finish)

/-- Go to the next row; false after the last one. -/
def next (c : Cursor) : Result Bool × Cursor :=
  match c.startNext with
  | (some answer, after) => (answer, after)
  | (none, started) =>
    let (pulled, read) := started.pull
    read.finishNext pulled

/-! ### Where the cursor stands -/

/-- An answer of an open cursor. -/
def whenOpen {α : Type} (c : Cursor) (answer : α) : Result α :=
  if c.closed then .error closedError else .ok answer

/-- The number of the current row, counted from 1; zero before the first and after the last. -/
def rowNumber (c : Cursor) : Result Nat := c.whenOpen (if c.row.isSome then c.position else 0)

/-- Whether the cursor stands before its first row. -/
def isBeforeFirst (c : Cursor) : Result Bool := c.whenOpen (c.position = 0 ∧ ¬c.exhausted)

/-- Whether the cursor stands on its first row. -/
def isFirst (c : Cursor) : Result Bool := c.whenOpen (c.row.isSome ∧ c.position = 1)

/-- Whether the cursor has come to the end of rows of which there was one at least. -/
def isAfterLast (c : Cursor) : Result Bool := c.whenOpen (c.exhausted ∧ 0 < c.position)

/-- The position of the column with a name, counted from 1. -/
def findColumn (c : Cursor) (name : String) : Result Nat :=
  if c.closed then .error closedError
  else ((ColumnRef.name name).resolve c.columns).map (· + 1)

/-- Whether the last value read was null. -/
def lastWasNull (c : Cursor) : Result Bool := c.whenOpen c.wasNull

/-! ### Reading values -/

/-- Read a column of the current row as the requested type. -/
def get (c : Cursor) (target : Getter.Target) (ref : ColumnRef) :
    Result (Option Getter.Reading) × Cursor :=
  if c.closed then (.error closedError, c)
  else
    let c := { c with wasNull := false }
    match ref.resolve c.columns with
    | .error e => (.error e, c)
    | .ok index =>
      match c.row, c.columns[index]? with
      | some row, some column =>
        let v := row.getD index .missing
        (Getter.read target v column, { c with wasNull := v.isNull })
      | _, _ => (.error .noCurrentRow, c)

end Cursor

end QueryClient
