/-!
# Named members in order

The members of an object are a list of names with values. `put` gives a name a value: a new name
goes to the end, a known one keeps its place. `collect` puts a list of entries one after the
other, so of a repeated name the first position and the last value remain.
-/

namespace QueryClient

/-- Named values in the order of their names' first appearance. -/
abbrev Members (α : Type) := List (String × α)

namespace Members

variable {α β : Type}

/-- Give a name a value, in place if the name is known and at the end otherwise. -/
def put (name : String) (value : α) : Members α → Members α
  | [] => [(name, value)]
  | (n, v) :: rest => if n = name then (n, value) :: rest else (n, v) :: put name value rest

/-- The entries put one after the other into no members. -/
def collect (entries : List (String × α)) : Members α :=
  entries.foldl (fun members entry => put entry.1 entry.2 members) []

/-- The value of a name. -/
def get? (name : String) : Members α → Option α
  | [] => none
  | (n, v) :: rest => if n = name then some v else get? name rest

/-- Whether a name has a value. -/
def has (name : String) (members : Members α) : Bool := (get? name members).isSome

/-- The names, in order. -/
def names (members : Members α) : List String := members.map Prod.fst

end Members

end QueryClient
