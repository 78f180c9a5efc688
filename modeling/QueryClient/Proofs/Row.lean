import QueryClient.Proofs.Json.RoundTrip
import QueryClient.Proofs.Tagged.RoundTrip
import QueryClient.Row

/-!
# Rows that are sent and read back

A row is sent as an object, with its values by the names of the columns (`Row.encode`). It is laid
out over these columns again, value by value (`Row.decode_encode`), and the object's text can be
read back, because nothing that is sent repeats a name or holds a double (`printable_encode`).
-/

namespace QueryClient

/-- A list is worked through without a failure if each of its elements is. -/
theorem mapM_eq_ok_iff {α β : Type} {f : α → Result β} {as : List α} {bs : List β} :
    as.mapM f = .ok bs ↔ List.Forall₂ (fun a b => f a = .ok b) as bs := by
  induction as generalizing bs with
  | nil =>
    rw [List.mapM_nil, List.forall₂_nil_left_iff]
    exact ⟨fun h => (Except.ok.inj h).symm, fun h => h ▸ rfl⟩
  | cons a as ih =>
    rw [List.mapM_cons, List.forall₂_cons_left_iff]
    constructor
    · intro h
      obtain ⟨b, hb, h⟩ := Tagged.bind_eq_ok h
      obtain ⟨bs', hbs, h⟩ := Tagged.bind_eq_ok h
      exact ⟨b, bs', hb, ih.mp hbs, (Except.ok.inj h).symm⟩
    · rintro ⟨b, bs', hb, hbs, rfl⟩
      rw [hb, ih.mpr hbs]
      rfl

/-! ## What is sent can be read back from its text -/

namespace Json

/-- Nothing but too deep a nesting keeps a value from being read back from its text. -/
def Printable (j : Json) : Prop := j.WellFormed ∧ j.Integral

theorem printable_array {items : List Json} (h : ∀ j ∈ items, j.Printable) :
    (array items).Printable := by
  suffices WellFormedItems items ∧ IntegralItems items from this
  induction items with
  | nil => exact ⟨trivial, trivial⟩
  | cons j items ih =>
    obtain ⟨wf, integral⟩ := h j List.mem_cons_self
    obtain ⟨wfs, integrals⟩ := ih fun j' hj' => h j' (List.mem_cons_of_mem j hj')
    exact ⟨⟨wf, wfs⟩, ⟨integral, integrals⟩⟩

theorem printable_object {members : Members Json} (distinct : (Members.names members).Nodup)
    (h : ∀ m ∈ members, m.2.Printable) : (object members).Printable := by
  suffices WellFormedMembers members ∧ IntegralMembers members from
    ⟨⟨distinct, this.1⟩, this.2⟩
  clear distinct
  induction members with
  | nil => exact ⟨trivial, trivial⟩
  | cons m members ih =>
    obtain ⟨wf, integral⟩ := h m List.mem_cons_self
    obtain ⟨wfs, integrals⟩ := ih fun m' hm' => h m' (List.mem_cons_of_mem m hm')
    exact ⟨⟨wf, wfs⟩, ⟨integral, integrals⟩⟩

theorem printable_ofMembers {entries : List (String × Json)} (h : ∀ e ∈ entries, e.2.Printable) :
    (ofMembers entries).Printable :=
  printable_object (Members.nodup_names_collect entries) (Members.forall_mem_collect h)

end Json

namespace Tagged

mutual

theorem printable_encode : ∀ (v : Value) {j : Json}, encode v = .ok j → j.Printable := by
  intro v j h
  cases v with
  | array items =>
    obtain ⟨js, hjs, rfl⟩ := map_eq_ok h
    exact Json.printable_array (printable_encodeItems items hjs)
  | multiset items =>
    obtain ⟨js, hjs, rfl⟩ := map_eq_ok h
    exact Json.printable_array (printable_encodeItems items hjs)
  | object fields =>
    obtain ⟨members, hmembers, rfl⟩ := map_eq_ok h
    exact Json.printable_ofMembers (printable_encodeFields fields hmembers)
  | missing => exact nomatch h
  | duration => exact nomatch h
  | _ =>
    -- a literal, an integer or a text
    obtain rfl := Except.ok.inj h
    exact ⟨trivial, trivial⟩

theorem printable_encodeItems : ∀ (items : List Value) {js : List Json},
    encodeItems items = .ok js → ∀ j ∈ js, j.Printable
  | [], _, h => by
    obtain rfl := Except.ok.inj h
    exact fun _ hj => absurd hj List.not_mem_nil
  | v :: rest, _, h => by
    obtain ⟨j, hj, h⟩ := bind_eq_ok h
    obtain ⟨js, hjs, h⟩ := bind_eq_ok h
    obtain rfl := Except.ok.inj h
    exact List.forall_mem_cons.mpr ⟨printable_encode v hj, printable_encodeItems rest hjs⟩

theorem printable_encodeFields : ∀ (fields : List (String × Value))
    {members : List (String × Json)}, encodeFields fields = .ok members →
    ∀ m ∈ members, m.2.Printable
  | [], _, h => by
    obtain rfl := Except.ok.inj h
    exact fun _ hm => absurd hm List.not_mem_nil
  | (name, v) :: rest, _, h => by
    obtain ⟨j, hj, h⟩ := bind_eq_ok h
    obtain ⟨members, hmembers, h⟩ := bind_eq_ok h
    obtain rfl := Except.ok.inj h
    exact List.forall_mem_cons.mpr ⟨printable_encode v hj, printable_encodeFields rest hmembers⟩

end

end Tagged

/-! ## The object of a row -/

namespace Row

/-- The object that a row is sent as: its values by the names of the columns. -/
def encode (names : List String) (row : Row) : Result Json :=
  (Param.encodeAll (row.map .value)).map fun forms => Json.ofMembers (names.zip forms)

/-- The object of a row is that of the value whose fields are the columns. -/
theorem encode_eq {names : List String} {row : Row} (h : row.length = names.length) :
    encode names row = Tagged.encode (.object (names.zip row)) := by
  -- either way the values are sent in their order, so the first failure is the same
  have fields : Tagged.encodeFields (names.zip row) =
      (Param.encodeAll (row.map .value)).map names.zip := by
    induction row generalizing names with
    | nil =>
      rw [List.zip_nil_right]
      show _ = Except.ok (names.zip [])
      rw [List.zip_nil_right]
      rfl
    | cons v row ih =>
      obtain ⟨name, names, rfl⟩ := List.exists_cons_of_length_eq_add_one h.symm
      rw [List.zip_cons_cons, Tagged.encodeFields, ih (Nat.succ.inj h), List.map_cons,
        Param.encodeAll, Param.encode]
      cases Tagged.encode v with
      | error e => rfl
      | ok j =>
        cases Param.encodeAll (row.map .value) with
        | error e => rfl
        | ok js => rfl
  rw [Tagged.encode, fields, encode]
  cases Param.encodeAll (row.map .value) with
  | error e => rfl
  | ok js => rfl

theorem printable_encode {names : List String} {row : Row} {form : Json}
    (h : row.length = names.length) (sent : encode names row = .ok form) : form.Printable := by
  rw [encode_eq h] at sent
  exact Tagged.printable_encode _ sent

theorem normalFields_zip (names : List String) (row : Row) :
    Value.normalFields (names.zip row) = names.zip (row.map Value.normal) := by
  induction names generalizing row with
  | nil => rfl
  | cons name names ih =>
    cases row with
    | nil => rfl
    | cons v row => rw [List.zip_cons_cons, Value.normalFields, ih]; rfl

theorem inCalendarFields_zip (names : List String) {row : Row} (h : ∀ v ∈ row, v.InCalendar) :
    Value.InCalendarFields (names.zip row) := by
  induction names generalizing row with
  | nil => trivial
  | cons name names ih =>
    cases row with
    | nil => trivial
    | cons v row =>
      obtain ⟨hv, hrow⟩ := List.forall_mem_cons.mp h
      exact ⟨hv, ih hrow⟩

/-- Members that are read as the values of the columns are laid out over the columns. -/
theorem ofObject_of_alike {columns : List Column} {members : Members Json} {row : Row}
    (distinct : (columns.map Column.name).Nodup) (length : row.length = columns.length)
    (alike : List.Forall₂ (Members.Alike Tagged.Reads) members
      ((columns.map Column.name).zip row)) : ofObject columns members = .ok row := by
  have distinctNames : (Members.names ((columns.map Column.name).zip row)).Nodup := by
    rwa [Members.names, List.map_fst_zip (by rw [List.length_map]; exact Nat.le_of_eq length.symm)]
  refine mapM_eq_ok_iff.mpr (List.forall₂_iff_zip.mpr ⟨length.symm, ?_⟩)
  intro column v hmem
  -- no name comes twice, so a column finds the member that has been made of its own value
  have hfield : (column.name, v) ∈ (columns.map Column.name).zip row := by
    rw [List.zip_map_left]
    exact List.mem_map_of_mem (f := Prod.map Column.name id) hmem
  obtain ⟨j, hget, hreads⟩ :=
    Members.get?_of_alike alike (Members.get?_of_mem distinctNames hfield)
  rw [hget]
  exact hreads

/-- **A row that has been sent is laid out over its columns again**, each value as its normal
form. -/
theorem decode_encode {columns : List Column} {row : Row} {form : Json} (nonempty : columns ≠ [])
    (distinct : (columns.map Column.name).Nodup) (length : row.length = columns.length)
    (sent : encode (columns.map Column.name) row = .ok form)
    (inCalendar : ∀ v ∈ row, v.InCalendar) :
    decode columns form = .ok (row.map Value.normal) := by
  have lengths : row.length = (columns.map Column.name).length := by rw [length, List.length_map]
  rw [encode_eq lengths] at sent
  obtain ⟨members, hmembers, rfl⟩ := Tagged.map_eq_ok sent
  have alike := Tagged.alike_encodeFields _ hmembers (inCalendarFields_zip _ inCalendar)
  rw [normalFields_zip] at alike
  have names : Members.names members = columns.map Column.name := by
    rw [Members.names_eq_of_alike alike, Members.names, List.map_fst_zip]
    rw [List.length_map, List.length_map]
    exact Nat.le_of_eq length.symm
  have members_eq : Members.collect members = members :=
    Members.collect_of_nodup (by rw [names]; exact distinct)
  -- the first column is among the members, so even a single column takes the row for its object
  have named : (columns.any fun c => Members.has c.name members) = true := by
    obtain ⟨column, columns, rfl⟩ := List.exists_cons_of_ne_nil nonempty
    have hmem : column.name ∈ Members.names members := by
      rw [names]
      exact List.mem_cons_self
    rw [List.any_cons, Members.has_of_mem hmem, Bool.true_or]
  rw [Json.ofMembers, members_eq, decode, if_pos (Or.inr named)]
  exact ofObject_of_alike distinct (by rw [List.length_map, length]) alike

end Row

end QueryClient
