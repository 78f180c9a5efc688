import QueryClient.Json.Reader

/-!
# Records in JSON text

A record has named fields in a fixed order. Its text is an object, whose unknown members are
skipped whatever they hold, or an array with the fields in their order; either way fields at the
end may be left out. `record?` sorts the text of a record into its fields, and the other readers
take a field's text as the type it has to be. All of them are told how many levels of nesting are
left.
-/

namespace QueryClient.Json

/-- A reader of text of a certain type, given the levels of nesting that are left. -/
abbrev TreeReader (α : Type) := (depth : Nat) → Tree → Option α

namespace TreeReader

/-- Text that may be null. -/
def orNull {α : Type} (read : TreeReader α) : TreeReader (Option α)
  | _, .null => some none
  | depth, t => (read depth t).map some

/-- An array whose elements are read alike. -/
def list {α : Type} (read : TreeReader α) : TreeReader (List α)
  | depth + 1, .array items => items.mapM (read depth)
  | _, _ => none

/-- A string. -/
def string : TreeReader String
  | _, .string parts => stringOf? parts
  | _, _ => none

/-- A truth value. -/
def bool : TreeReader Bool
  | _, .bool b => some b
  | _, _ => none

/-- An integer written without fraction and exponent that fits a signed 32-bit word. -/
def int32 : TreeReader Int32
  | _, .number n =>
    (wholeOf? n).bind fun w =>
      if -2147483648 ≤ w.val ∧ w.val < 2147483648 then some (Int32.ofInt w.val) else none
  | _, _ => none

/-- Any value. -/
def value : TreeReader Json := ofTree?

/-! ### Records -/

/-- The named members of an object. Every name has to be readable, and none of the fields may
stand twice. -/
def namedFields? (fields : List String) :
    List (List StringPart × Tree) → Option (Members Tree)
  | [] => some []
  | (name, t) :: rest => do
    let s ← stringOf? name
    let found ← namedFields? fields rest
    if fields.contains s then
      if Members.has s found then none else some ((s, t) :: found)
    else some found

/-- The texts of a record's fields, with the levels of nesting that are left for them. -/
def record? (fields : List String) : (depth : Nat) → Tree → Option (Nat × Members Tree)
  | depth + 1, .object members => (namedFields? fields members).map fun found => (depth, found)
  | depth + 1, .array items =>
    if items.length ≤ fields.length then some (depth, fields.zip items) else none
  | _, _ => none

/-- The value of a record's field, or `missing` if the field has been left out. -/
def field? {α : Type} (read : TreeReader α) (missing : α) (name : String)
    (record : Nat × Members Tree) : Option α :=
  match Members.get? name record.2 with
  | some t => read record.1 t
  | none => some missing

end TreeReader

end QueryClient.Json
