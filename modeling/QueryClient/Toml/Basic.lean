import QueryClient.Binary.Basic
import QueryClient.Members

/-!
# TOML documents

A document is a table of named items. It is written as a sequence of entries: a header opens a
table for the key-value pairs after it. `Table.ofEntries?` builds the document from its entries
and refuses those that define something twice.

Whether a table may be extended depends on how it came about, so a table remembers its `Origin`.
-/

namespace QueryClient.Toml

/-- How a table came about. -/
inductive Origin where
  /-- Written as a value, between braces. -/
  | inline
  /-- Opened by a header of its own; the document itself counts as such. -/
  | header
  /-- Passed by a header of one of its descendants. -/
  | passed
  /-- Passed by a dotted key. -/
  | dotted
  deriving DecidableEq

/-- What a name stands for. -/
inductive Item where
  | string (text : String)
  | integer (n : Int)
  | float (x : Binary64)
  | bool (b : Bool)
  /-- A date, a time of day or both, as written. -/
  | moment (text : String)
  | array (items : List Item)
  | table (origin : Origin) (members : List (String × Item))
  /-- An array whose tables are opened by headers. -/
  | tables (elements : List (List (String × Item)))

/-- One entry of a document. A path is a list of names from the outermost table inward. -/
inductive Entry where
  /-- The header of a table: `[path.name]`. -/
  | table (path : List String) (name : String)
  /-- The header of a further table in an array: `[[path.name]]`. -/
  | element (path : List String) (name : String)
  /-- A key-value pair: `path.name = value`. -/
  | pair (path : List String) (name : String) (value : Item)

/-- The members of a table and how it came about. -/
structure Table where
  origin : Origin
  members : List (String × Item)

namespace Table

/-- Change the table that a path leads to from this one. Missing tables are created with the given
origin, and of an array of tables the last one is meant. Inline tables are closed, and a dotted
key does not enter a table that has a header. -/
def change? (created : Origin) (f : Table → Option Table) : (path : List String) → Table →
    Option Table
  | [], t => f t
  | name :: path, t => do
    let item ←
      match Members.get? name t.members with
      | none => (change? created f path ⟨created, []⟩).map fun u => Item.table u.origin u.members
      | some (.table .inline _) => none
      | some (.table origin members) =>
        if created = .dotted ∧ origin = .header then none
        else (change? created f path ⟨origin, members⟩).map fun u => Item.table u.origin u.members
      | some (.tables elements) =>
        elements.getLast?.bind fun last =>
          (change? created f path ⟨.header, last⟩).map fun u =>
            Item.tables (elements.dropLast ++ [u.members])
      | some _ => none
    return { t with members := Members.put name item t.members }

/-- Give a name that has no item one. -/
def insert? (name : String) (item : Item) (t : Table) : Option Table :=
  if Members.has name t.members then none
  else some { t with members := t.members ++ [(name, item)] }

/-- Add a key-value pair. A dotted key only extends tables that dotted keys created. -/
def addPair? (path : List String) (name : String) (value : Item) : Table → Option Table :=
  change? .dotted
    (fun t => if t.origin = .dotted ↔ path = [] then none else t.insert? name value) path

/-- Open the table of a header. One that so far was only passed by headers is opened with what it
has and becomes the last member. -/
def openTable? (name : String) (t : Table) : Option Table :=
  match Members.get? name t.members with
  | none => t.insert? name (.table .header [])
  | some (.table .passed members) =>
    { t with members := t.members.filter (·.1 ≠ name) }.insert? name (.table .header members)
  | some _ => none

/-- Open a further table of an array. -/
def openElement? (name : String) (t : Table) : Option Table :=
  match Members.get? name t.members with
  | none => t.insert? name (.tables [[]])
  | some (.tables elements) =>
    some { t with members := Members.put name (.tables (elements ++ [[]])) t.members }
  | some _ => none

/-- Add entries to the document `t`, in which the table that `opened` leads to is the one for
key-value pairs. -/
def addEntries? (opened : List String) (t : Table) : List Entry → Option Table
  | [] => some t
  | .table path name :: rest => do
    addEntries? (path ++ [name]) (← t.change? .passed (openTable? name) path) rest
  | .element path name :: rest => do
    addEntries? (path ++ [name]) (← t.change? .passed (openElement? name) path) rest
  | .pair path name value :: rest => do
    addEntries? opened (← t.change? .passed (addPair? path name value) opened) rest

/-- The document with the given entries. -/
def ofEntries? (entries : List Entry) : Option Table := addEntries? [] ⟨.header, []⟩ entries

end Table

mutual

/-- An item of an inline table. The tables of dotted keys in it are inline tables, too. -/
def Item.inlined : Item → Item
  | .table .dotted members => .table .inline (inlinedMembers members)
  | item => item

/-- The items of an inline table. -/
def inlinedMembers : List (String × Item) → List (String × Item)
  | [] => []
  | (name, item) :: rest => (name, item.inlined) :: inlinedMembers rest

end

/-- The inline table with the given key-value pairs. -/
def Table.ofPairs? (pairs : List (List String × String × Item)) : Option Table :=
  let add (t : Table) (pair : List String × String × Item) : Option Table :=
    t.addPair? pair.1 pair.2.1 pair.2.2
  (pairs.foldlM add ⟨.inline, []⟩).map fun t => { t with members := inlinedMembers t.members }

end QueryClient.Toml
