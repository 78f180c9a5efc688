import QueryClient.Binary.Basic
import QueryClient.Members

/-!
# JSON values

A `Json` value is a tree of the six JSON kinds. An integer that fits a signed or an unsigned
64-bit word is kept as such; any other number is a finite double. Objects keep the order of their
members. `Json.WellFormed` says that no object repeats a name, which holds of every value that is
read from text or built by `Json.ofMembers`.
-/

namespace QueryClient

/-- An integer of the signed or the unsigned 64-bit range. -/
structure Whole where
  val : Int
  low : -9223372036854775808 ≤ val
  high : val < 18446744073709551616
  deriving DecidableEq

namespace Whole

/-- The integer, if it fits. -/
def ofInt? (n : Int) : Option Whole :=
  if h : -9223372036854775808 ≤ n ∧ n < 18446744073709551616 then some ⟨n, h.1, h.2⟩ else none

/-- A signed 64-bit word. -/
def ofInt64 (n : Int64) : Whole :=
  ⟨n.toInt, by have := n.le_toInt; omega, by have := n.toInt_lt; omega⟩

/-- The signed 64-bit word, unless the integer is too great for one. -/
def toInt64? (w : Whole) : Option Int64 :=
  if w.val < 9223372036854775808 then some (Int64.ofInt w.val) else none

/-- The natural number, unless the integer is negative. -/
def toNat? (w : Whole) : Option Nat := if 0 ≤ w.val then some w.val.toNat else none

end Whole

/-- A double that is neither an infinity nor a NaN. -/
structure FiniteDouble where
  val : Binary64
  finite : val.isFinite = true
  deriving DecidableEq

/-- The double, if it is finite. -/
def FiniteDouble.ofBinary64? (x : Binary64) : Option FiniteDouble :=
  if h : x.isFinite = true then some ⟨x, h⟩ else none

/-- A JSON value. -/
inductive Json where
  | null
  | bool (b : Bool)
  | int (n : Whole)
  | double (x : FiniteDouble)
  | string (s : String)
  | array (items : List Json)
  | object (members : List (String × Json))

namespace Json

/-- The object with the given entries: of a repeated name the first position and the last value
remain. -/
def ofMembers (entries : List (String × Json)) : Json := .object (Members.collect entries)

/-- The JSON number of an integer of a signed type. -/
def ofInt64 (n : Int64) : Json := .int (.ofInt64 n)

/-- The signed 64-bit integer that a value is. -/
def toInt64? : Json → Option Int64
  | .int n => n.toInt64?
  | _ => none

/-- The number that a value is, as a double; an integer becomes the nearest one. -/
def toBinary64? : Json → Option Binary64
  | .int n => some (Binary64.ofInt n.val)
  | .double x => some x.val
  | _ => none

mutual

/-- No object anywhere in the value repeats a name. -/
def WellFormed : Json → Prop
  | .array items => WellFormedItems items
  | .object members => (members.map Prod.fst).Nodup ∧ WellFormedMembers members
  | _ => True

/-- Every element is well formed. -/
def WellFormedItems : List Json → Prop
  | [] => True
  | j :: rest => WellFormed j ∧ WellFormedItems rest

/-- Every member's value is well formed. -/
def WellFormedMembers : List (String × Json) → Prop
  | [] => True
  | (_, j) :: rest => WellFormed j ∧ WellFormedMembers rest

end

end Json

end QueryClient
