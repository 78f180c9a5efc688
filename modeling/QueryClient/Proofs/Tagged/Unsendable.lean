import QueryClient.Proofs.Failure
import QueryClient.Proofs.Row
import QueryClient.Scenario.Exchange

/-!
# Values that cannot be sent

A missing value and a duration of months and milliseconds have no form on the wire, and neither has
anything that holds one. `Value.parts` lists what a value holds in the order in which it is worked
through, and `FailsAtFirst` says that the first value of such a list that cannot be sent decides
the result. Main statement: `encodeAll_fails_at_first`.
-/

namespace QueryClient

namespace Value

/-! ## What a value holds -/

/-- The value itself has no form on the wire. -/
def isUnsendable : Value → Bool
  | .missing | .duration .. => true
  | _ => false

/-- The values that stand in a value directly. -/
def children : Value → List Value
  | .array items | .multiset items => items
  | .object fields => fields.map (·.2)
  | _ => []

/-- A value is another one or has it in it, however deep. -/
inductive Holds : Value → Value → Prop
  | itself (v : Value) : Holds v v
  | inside {v child w : Value} (among : child ∈ v.children) (holds : Holds child w) : Holds v w

mutual

/-- A value and all that it holds: a container comes before what is in it, and that from left to
right. Each field of an object is there, also if a later one has the same name. -/
def parts : Value → List Value
  | .array items => .array items :: partsOfItems items
  | .multiset items => .multiset items :: partsOfItems items
  | .object fields => .object fields :: partsOfFields fields
  | v => [v]

/-- All that the elements of a container hold. -/
def partsOfItems : List Value → List Value
  | [] => []
  | v :: rest => v.parts ++ partsOfItems rest

/-- All that the fields of an object hold. -/
def partsOfFields : List (String × Value) → List Value
  | [] => []
  | (_, v) :: rest => v.parts ++ partsOfFields rest

end

theorem sizeOf_lt_of_mem_children {v child : Value} (h : child ∈ v.children) :
    sizeOf child < sizeOf v := by
  cases v with
  | array items =>
    have : sizeOf child < sizeOf items := List.sizeOf_lt_of_mem h
    rw [Value.array.sizeOf_spec]
    omega
  | multiset items =>
    have : sizeOf child < sizeOf items := List.sizeOf_lt_of_mem h
    rw [Value.multiset.sizeOf_spec]
    omega
  | object fields =>
    obtain ⟨⟨name, v⟩, hf, rfl⟩ := List.mem_map.mp (h : child ∈ fields.map (·.2))
    have := List.sizeOf_lt_of_mem hf
    rw [Prod.mk.sizeOf_spec] at this
    rw [Value.object.sizeOf_spec]
    show sizeOf v < _
    omega
  | _ => exact absurd h List.not_mem_nil

/-- What holds of a value as soon as it holds of those in it holds of every value. -/
theorem children_ind {p : Value → Prop} (step : ∀ v : Value, (∀ child ∈ v.children, p child) → p v)
    (v : Value) : p v :=
  step v fun child _ => children_ind step child
termination_by sizeOf v
decreasing_by exact sizeOf_lt_of_mem_children ‹_›

theorem partsOfItems_eq (items : List Value) : partsOfItems items = items.flatMap parts := by
  induction items with
  | nil => rfl
  | cons v rest ih => rw [partsOfItems, ih, List.flatMap_cons]

theorem partsOfFields_eq (fields : List (String × Value)) :
    partsOfFields fields = (fields.map (·.2)).flatMap parts := by
  induction fields with
  | nil => rfl
  | cons field rest ih => rw [partsOfFields, ih, List.map_cons, List.flatMap_cons]

/-- A value comes before all that is in it. -/
theorem parts_eq (v : Value) : v.parts = v :: v.children.flatMap parts := by
  cases v with
  | array items => rw [parts, partsOfItems_eq, children]
  | multiset items => rw [parts, partsOfItems_eq, children]
  | object fields => rw [parts, partsOfFields_eq, children]
  | _ => rfl

/-- The list is complete, and nothing else is in it. -/
theorem mem_parts_iff (v w : Value) : w ∈ v.parts ↔ v.Holds w := by
  induction v using children_ind with
  | step v ih =>
    rw [parts_eq, List.mem_cons, List.mem_flatMap]
    constructor
    · rintro (rfl | ⟨child, among, hw⟩)
      · exact .itself w
      · exact .inside among ((ih child among).mp hw)
    · intro h
      cases h with
      | itself => exact .inl rfl
      | inside among holds => exact .inr ⟨_, among, (ih _ among).mpr holds⟩

end Value

namespace Param

/-- All the values that a parameter holds, in the order of `Value.parts`. An instant with a zone
is no value. -/
def parts : Param → List Value
  | .value v => v.parts
  | _ => []

/-- The parameter is a value that holds this one. -/
def Holds : Param → Value → Prop
  | .value v, w => v.Holds w
  | _, _ => False

theorem mem_parts_iff (p : Param) (w : Value) : w ∈ p.parts ↔ p.Holds w := by
  cases p with
  | value v => exact v.mem_parts_iff w
  | _ => exact ⟨fun h => absurd h List.not_mem_nil, False.elim⟩

end Param

namespace Tagged

/-! ## The first value that cannot be sent decides -/

/-- The first value among these that cannot be sent is the one that a result fails for, and if all
of them can be sent there is a result. -/
def FailsAtFirst {α : Type} (r : Result α) (held : List Value) : Prop :=
  match held.find? Value.isUnsendable with
  | some w => r = .error (unsupported w)
  | none => ∃ a, r = .ok a

/-- What a value that cannot be sent fails with. -/
def refusal? (v : Value) : Option ClientError :=
  if v.isUnsendable then some (unsupported v) else none

theorem findSome?_refusal? (held : List Value) :
    held.findSome? refusal? = (held.find? Value.isUnsendable).map unsupported := by
  induction held with
  | nil => rfl
  | cons v held ih =>
    rw [List.findSome?_cons, List.find?_cons, refusal?, ih]
    cases v.isUnsendable <;> rfl

theorem failsAtFirst_of_errorOf? {α : Type} {r : Result α} {held : List Value}
    (h : errorOf? r = held.findSome? refusal?) : FailsAtFirst r held := by
  rw [findSome?_refusal?] at h
  unfold FailsAtFirst
  split
  · next w hw =>
    rw [hw] at h
    exact errorOf?_eq_some_iff.mp h
  · next hnone =>
    rw [hnone] at h
    exact errorOf?_eq_none_iff.mp h

theorem encodeItems_eq (items : List Value) : encodeItems items = items.mapM encode := by
  induction items with
  | nil => rfl
  | cons v rest ih => rw [encodeItems, ih, List.mapM_cons]

theorem encodeFields_eq (fields : List (String × Value)) :
    encodeFields fields = fields.mapM fun field => (encode field.2).map (field.1, ·) := by
  induction fields with
  | nil => rfl
  | cons field rest ih =>
    rw [encodeFields, ih, List.mapM_cons]
    cases encode field.2 <;> rfl

/-- A container stands in front of what is in it and can itself be sent. -/
theorem errorOf?_encode (v : Value) : errorOf? (encode v) = v.parts.findSome? refusal? := by
  induction v using Value.children_ind with
  | step v ih =>
    rw [Value.parts_eq, List.findSome?_cons, findSome?_flatMap]
    cases v with
    | array items =>
      rw [encode, errorOf?_map, encodeItems_eq]
      exact errorOf?_mapM ih
    | multiset items =>
      rw [encode, errorOf?_map, encodeItems_eq]
      exact errorOf?_mapM ih
    | object fields =>
      -- All fields are worked through before repeated names are put together.
      rw [encode, errorOf?_map, encodeFields_eq, Value.children, List.findSome?_map]
      refine errorOf?_mapM fun field hf => ?_
      rw [errorOf?_map]
      exact ih field.2 (List.mem_map_of_mem hf)
    | _ => rfl

end Tagged

namespace Param

open Tagged

theorem encodeAll_eq (params : List Param) : encodeAll params = params.mapM encode := by
  induction params with
  | nil => rfl
  | cons p rest ih => rw [encodeAll, ih, List.mapM_cons]

theorem errorOf?_encode (p : Param) : errorOf? p.encode = p.parts.findSome? refusal? := by
  cases p with
  | value v => exact Tagged.errorOf?_encode v
  | _ => rfl

theorem failsAtFirst_encodeAll (params : List Param) :
    FailsAtFirst (encodeAll params) (params.flatMap parts) := by
  refine failsAtFirst_of_errorOf? ?_
  rw [encodeAll_eq, findSome?_flatMap]
  exact errorOf?_mapM fun p _ => p.errorOf?_encode

/-- Nothing is sent if the parameters have no form on the wire. -/
theorem submit_of_encodeAll {params : List Param} {e : ClientError}
    (h : encodeAll params = .error e) (link : Scenario.Link) (sql execution : String)
    (options : SubmitOptions) :
    link.submit sql params execution options = (.error e, none, link) := by
  have hr : link.transport.submitRequest sql params execution options = .error e := by
    rw [HttpTransport.submitRequest, h]
    rfl
  rw [Scenario.Link.submit, hr]
  rfl

/-- Parameters cannot be sent if and only if one of them holds, however deep, a value that cannot.
The failure then names the type of the first such value, and a submission ends with it: the server
sees no request and nothing changes. Otherwise each parameter has its form, in order. -/
theorem encodeAll_fails_at_first (params : List Param) :
    ((∃ e, encodeAll params = .error e) ↔ ∃ p ∈ params, ∃ v, p.Holds v ∧ v.isUnsendable) ∧
    match (params.flatMap parts).find? Value.isUnsendable with
    | some w =>
      encodeAll params = .error (.unsupportedType w.datatype.typeName) ∧
      ∀ (link : Scenario.Link) (sql execution : String) (options : SubmitOptions),
        link.submit sql params execution options =
          (.error (.unsupportedType w.datatype.typeName), none, link)
    | none =>
      ∃ forms, encodeAll params = .ok forms ∧ forms.length = params.length ∧
        ∀ (i : Nat) (hp : i < params.length) (hf : i < forms.length),
          params[i].encode = .ok forms[i] := by
  have hall := failsAtFirst_encodeAll params
  have held (v : Value) : v ∈ params.flatMap parts ↔ ∃ p ∈ params, p.Holds v := by
    simp only [List.mem_flatMap, mem_parts_iff]
  unfold FailsAtFirst at hall
  split at hall
  · -- A value that is found in the list is held by one of the parameters.
    next w hw =>
    refine ⟨⟨fun _ => ?_, fun _ => ⟨_, hall⟩⟩, hall, submit_of_encodeAll hall⟩
    obtain ⟨p, hp, hv⟩ := (held w).mp (List.mem_of_find?_eq_some hw)
    exact ⟨p, hp, w, hv, List.find?_some hw⟩
  · -- None is found, so nothing that is held stands in the way.
    next hnone =>
    obtain ⟨forms, hforms⟩ := hall
    refine ⟨⟨?_, ?_⟩, forms, hforms, ?_⟩
    · rintro ⟨e, he⟩
      exact absurd (hforms.symm.trans he) (by simp)
    · rintro ⟨p, hp, v, hv, hbad⟩
      exact absurd hbad (List.find?_eq_none.mp hnone v ((held v).mpr ⟨p, hp, hv⟩))
    · rw [encodeAll_eq, mapM_eq_ok_iff] at hforms
      exact ⟨hforms.length_eq.symm, fun i hp hf => hforms.get hp hf⟩

/-- The missing value under a name that a later field has too is found, and before the duration. -/
example :
    encodeAll [.value (.boolean true),
        .value (.object [("a", .array [.null, .missing]), ("a", .null)]),
        .value (.duration 1 0)] =
      .error (.unsupportedType "missing") := rfl

end Param

end QueryClient
