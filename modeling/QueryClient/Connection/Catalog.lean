import QueryClient.Connection.Basic

/-!
# The system catalog

Every connection has one statement of its own for results that the client makes itself. It is
created when it is first asked for; its cursors close with it.
-/

namespace QueryClient.Connection

/-- The statement of the catalog. -/
def openCatalog (c : Connection) : Result Nat × Connection :=
  if c.closed then (.error closedError, c)
  else
    match c.catalog with
    | some i => (.ok i, c)
    | none =>
      let (i, c) := c.addStatement
      (.ok i, { c with catalog := some i })

/-- A result that the client makes itself. -/
def catalogCursor (c : Connection) (columns : List Column) (rows : List Row) :
    Result CursorId × Connection :=
  match c.openCatalog with
  | (.error e, c) => (.error e, c)
  | (.ok i, c) =>
    if (c.statement i).closed then (.error (.closed "metadata"), c)
    else
      let (id, c) := c.memoryCursor i columns rows
      (.ok id, c)

/-- The columns of the list of wire types. -/
def typeInfoColumns : List Column :=
  [⟨"TYPE_NAME", .string, false⟩, ⟨"TYPE_TAG", .integer, false⟩, ⟨"NULLABLE", .boolean, false⟩]

/-- A wire type in the list: its name, its tag and whether it may be null. -/
def typeInfoRow (t : Datatype) : Row :=
  [.string t.typeName, .integer (Int32.ofNat t.tag), .boolean (t ≠ .missing)]

/-- The list of wire types. -/
def typeInfo (c : Connection) : Result CursorId × Connection :=
  c.catalogCursor typeInfoColumns (Datatype.all.map typeInfoRow)

/-- An empty result with the given columns. -/
def emptyResult (c : Connection) (columns : List Column) : Result CursorId × Connection :=
  c.catalogCursor columns []

end QueryClient.Connection
