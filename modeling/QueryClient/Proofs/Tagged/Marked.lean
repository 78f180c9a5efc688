import QueryClient.Proofs.Members
import QueryClient.Proofs.Tagged.RoundTrip
import QueryClient.Value.Text

/-!
# Plain JSON behind colons

With a colon in front of each of its strings any JSON value is one in tagged form, whatever the
strings look like. `decode_marked` says which value it is read as, and `toJson_ofJson_iff` when this
one is written as the JSON it has come from. Main statement: `decode_marked_toJson`.
-/

namespace QueryClient

namespace Json

mutual

/-- The value with a colon in front of every string. Names of members are no strings of the value
and stay as they are. -/
def marked : Json → Json
  | .null => .null
  | .bool b => .bool b
  | .int n => .int n
  | .double x => .double x
  | .string s => .string (String.ofList (':' :: s.toList))
  | .array items => .array (markedItems items)
  | .object members => .object (markedMembers members)

/-- The elements with a colon in front of every string. -/
def markedItems : List Json → List Json
  | [] => []
  | j :: rest => marked j :: markedItems rest

/-- The members with a colon in front of every string in their values. -/
def markedMembers : List (String × Json) → List (String × Json)
  | [] => []
  | (name, j) :: rest => (name, marked j) :: markedMembers rest

end

mutual

/-- No integer in the value is too great for a signed 64-bit word. -/
def Signed : Json → Prop
  | .int n => n.val < 9223372036854775808
  | .array items => SignedItems items
  | .object members => SignedMembers members
  | _ => True

/-- No integer in the elements is too great. -/
def SignedItems : List Json → Prop
  | [] => True
  | j :: rest => Signed j ∧ SignedItems rest

/-- No integer in the members' values is too great. -/
def SignedMembers : List (String × Json) → Prop
  | [] => True
  | (_, j) :: rest => Signed j ∧ SignedMembers rest

end

end Json

namespace Value

/-- An integer as a value: a double if it is too great for a signed 64-bit word. -/
def ofWhole (n : Whole) : Value :=
  match n.toInt64? with
  | some m => .bigInt m
  | none => .double (Binary64.ofInt n.val)

mutual

/-- Plain JSON as a value, strings as they stand. -/
def ofJson : Json → Value
  | .null => .null
  | .bool b => .boolean b
  | .int n => ofWhole n
  | .double x => .double x.val
  | .string s => .string s
  | .array items => .array (ofItems items)
  | .object members => .object (ofMembers members)

/-- The elements of an array as values. -/
def ofItems : List Json → List Value
  | [] => []
  | j :: rest => ofJson j :: ofItems rest

/-- The members of an object as fields. -/
def ofMembers : List (String × Json) → List (String × Value)
  | [] => []
  | (name, j) :: rest => (name, ofJson j) :: ofMembers rest

end

end Value

namespace Tagged

open Value

/-! ## What is read -/

theorem decodeNumber_int (n : Whole) : decodeNumber (.int n) = .ok (ofWhole n) := by
  simp only [decodeNumber, Json.toInt64?, Json.toBinary64?, ofWhole]
  cases n.toInt64? with
  | some m => rfl
  | none => rfl

mutual

theorem decode_marked : ∀ j : Json, decode j.marked = .ok (ofJson j)
  | .null | .bool _ | .double _ => rfl
  | .int n => decodeNumber_int n
  | .string s => decode_string s
  | .array items => by
    simp only [Json.marked, decode, decodeItems_marked items]
    rfl
  | .object members => by
    simp only [Json.marked, decode, decodeMembers_marked members]
    rfl

theorem decodeItems_marked : ∀ items : List Json,
    decodeItems (Json.markedItems items) = .ok (ofItems items)
  | [] => rfl
  | j :: rest => by
    simp only [Json.markedItems, decodeItems, decode_marked j, decodeItems_marked rest]
    rfl

theorem decodeMembers_marked : ∀ members : List (String × Json),
    decodeMembers (Json.markedMembers members) = .ok (Value.ofMembers members)
  | [] => rfl
  | (name, j) :: rest => by
    simp only [Json.markedMembers, decodeMembers, decode_marked j, decodeMembers_marked rest]
    rfl

end

/-! ## What is written -/

/-- A finite double stays one. -/
theorem doubleJson_val (x : FiniteDouble) (text : List Char) :
    doubleJson x.val text = .double x := by
  simp [doubleJson, FiniteDouble.ofBinary64?, x.finite]

/-- A double is never written as an integer. -/
theorem doubleJson_ne_int (x : Binary64) (text : List Char) (n : Whole) :
    doubleJson x text ≠ .int n := by
  intro h
  unfold doubleJson at h
  split at h <;> cases h

/-- An integer is written as it was if and only if it has not become a double. -/
theorem toJson_ofWhole_iff (n : Whole) :
    toJson (ofWhole n) = .int n ↔ n.val < 9223372036854775808 := by
  have hlow := n.low
  unfold ofWhole Whole.toInt64?
  split
  · next m hm =>
    split at hm
    · next hlt =>
      obtain rfl := Option.some.inj hm
      have hval : (Int64.ofInt n.val).toInt = n.val :=
        Int64.toInt_ofInt_of_le (by simpa using hlow) (by simpa using hlt)
      simp [toJson, Json.ofInt64, Whole.ofInt64, hval, hlt]
    · cases hm
  · next hm =>
    split at hm
    · cases hm
    · next hge =>
      simp only [toJson, hge, iff_false]
      exact doubleJson_ne_int _ _ n

/-- Fields are written under the names that they have been read with. -/
theorem names_toJsonFields : ∀ members : List (String × Json),
    Members.names (toJsonFields (Value.ofMembers members)) = Members.names members
  | [] => rfl
  | (name, _) :: rest => congrArg (name :: ·) (names_toJsonFields rest)

mutual

theorem toJson_ofJson_iff : ∀ {j : Json}, j.WellFormed → (toJson (ofJson j) = j ↔ j.Signed)
  | .null, _ | .bool _, _ | .string _, _ => by simp [ofJson, toJson, Json.Signed]
  | .int n, _ => toJson_ofWhole_iff n
  | .double x, _ => by simp [ofJson, toJson, doubleJson_val, Json.Signed]
  | .array items, wf => by
    simp only [ofJson, toJson, Json.array.injEq, Json.Signed]
    exact toJsonItems_ofItems_iff wf
  | .object members, ⟨distinct, wf⟩ => by
    -- no name comes twice, and so none of the fields is taken for another
    have hkept : Members.collect (toJsonFields (Value.ofMembers members)) =
        toJsonFields (Value.ofMembers members) := by
      apply Members.collect_of_nodup
      rw [names_toJsonFields]
      exact distinct
    simp only [ofJson, toJson, Json.ofMembers, hkept, Json.object.injEq, Json.Signed]
    exact toJsonFields_ofMembers_iff wf

theorem toJsonItems_ofItems_iff : ∀ {items : List Json}, Json.WellFormedItems items →
    (toJsonItems (ofItems items) = items ↔ Json.SignedItems items)
  | [], _ => by simp [ofItems, toJsonItems, Json.SignedItems]
  | j :: rest, ⟨wf, wfs⟩ => by
    simp only [ofItems, toJsonItems, List.cons.injEq, Json.SignedItems]
    exact and_congr (toJson_ofJson_iff wf) (toJsonItems_ofItems_iff wfs)

theorem toJsonFields_ofMembers_iff : ∀ {members : List (String × Json)},
    Json.WellFormedMembers members →
    (toJsonFields (Value.ofMembers members) = members ↔ Json.SignedMembers members)
  | [], _ => by simp [Value.ofMembers, toJsonFields, Json.SignedMembers]
  | (name, j) :: rest, ⟨wf, wfs⟩ => by
    simp only [Value.ofMembers, toJsonFields, List.cons.injEq, Prod.mk.injEq, true_and,
      Json.SignedMembers]
    exact and_congr (toJson_ofJson_iff wf) (toJsonFields_ofMembers_iff wfs)

end

/-- **Behind colons any JSON is read, and it is written again as it was.** A JSON value with a colon
in front of each of its strings always stands for a value. The plain JSON of this one is the JSON
value itself, elements and members in their order, if and only if no integer in it is too great for
a signed 64-bit word. -/
theorem decode_marked_toJson {j : Json} (wf : j.WellFormed) :
    ∃ v, decode j.marked = .ok v ∧ (v.toJson = j ↔ j.Signed) :=
  ⟨ofJson j, decode_marked j, toJson_ofJson_iff wf⟩

/-- Strings that look like tagged values, empty containers, a name with a colon, both kinds of
numbers and the least of the integers. -/
def lookalike : Json :=
  .object [
    ("03:7", .array [.string "03:7", .string ":", .string "", .object [], .array []]),
    (":", .double ⟨⟨0x8000000000000000⟩, rfl⟩),
    ("", .array [.int ⟨-9223372036854775808, by decide, by decide⟩,
      .object [("b", .null), ("a", .bool true)]])]

theorem decode_lookalike_toJson : lookalike.WellFormed ∧ lookalike.Signed ∧
    ∃ v, decode lookalike.marked = .ok v ∧ v.toJson = lookalike := by
  have wf : lookalike.WellFormed := by
    simp [lookalike, Json.WellFormed, Json.WellFormedItems, Json.WellFormedMembers]
  have signed : lookalike.Signed := by
    simp [lookalike, Json.Signed, Json.SignedItems, Json.SignedMembers]
  obtain ⟨v, hv, hjson⟩ := decode_marked_toJson wf
  exact ⟨wf, signed, v, hv, hjson.mpr signed⟩

end Tagged

end QueryClient
