import Mathlib.Data.List.Forall2
import Mathlib.Data.List.Induction
import Mathlib.Data.List.Nodup
import QueryClient.Members

/-!
# Members collected from entries

Of a repeated name `collect` keeps the first position (`names_collect`) and the last value
(`get?_collect`), and that is all it does (`collect_eq_latest`). It does the same to entries that
correspond one by one (`forall₂_collect`).
-/

namespace QueryClient.Members

variable {α β : Type}

theorem collect_concat (entries : List (String × α)) (entry : String × α) :
    collect (entries ++ [entry]) = put entry.1 entry.2 (collect entries) := by
  rw [collect, List.foldl_append]
  rfl

/-! ## One member -/

theorem get?_put (name wanted : String) (value : α) (members : Members α) :
    get? wanted (put name value members) =
      if name = wanted then some value else get? wanted members := by
  induction members with
  | nil => rfl
  | cons member rest ih =>
    obtain ⟨n, v⟩ := member
    by_cases hn : n = name
    · subst hn
      by_cases hw : n = wanted <;> simp [put, get?, hw]
    · by_cases hw : n = wanted
      · subst hw
        simp [put, get?, hn, Ne.symm hn]
      · simp [put, get?, hn, hw, ih]

theorem names_put (name : String) (value : α) (members : Members α) :
    names (put name value members) =
      if name ∈ names members then names members else names members ++ [name] := by
  induction members with
  | nil => rfl
  | cons member rest ih =>
    obtain ⟨n, v⟩ := member
    by_cases hn : n = name
    · subst hn
      simp [put, names]
    · show names ((if n = name then _ else _) : Members α) = _
      rw [if_neg hn]
      show n :: names (put name value rest) = if name ∈ n :: names rest then n :: names rest else _
      rw [ih]
      by_cases hmem : name ∈ names rest
      · rw [if_pos hmem, if_pos (List.mem_cons_of_mem n hmem)]
      · rw [if_neg hmem, if_neg (List.not_mem_cons_of_ne_of_not_mem (Ne.symm hn) hmem)]
        rfl

/-! ## All members -/

/-- Each name stands where it has appeared first. -/
theorem names_collect (entries : List (String × α)) :
    names (collect entries) = (entries.map Prod.fst).eraseDups := by
  induction entries using List.reverseRecOn with
  | nil => rfl
  | append_singleton entries entry ih =>
    rw [collect_concat, names_put, ih, List.map_append, List.eraseDups_append]
    by_cases hmem : entry.1 ∈ entries.map Prod.fst
    · simp [List.mem_eraseDups, hmem, List.removeAll]
    · simp [List.mem_eraseDups, hmem, List.removeAll, List.eraseDups_cons]

/-- Each name has the value that it has been given last. -/
theorem get?_collect (entries : List (String × α)) (name : String) :
    get? name (collect entries) = entries.reverse.lookup name := by
  induction entries using List.reverseRecOn with
  | nil => rfl
  | append_singleton entries entry ih =>
    rw [collect_concat, get?_put, ih, List.reverse_concat, List.lookup_cons]
    by_cases hn : entry.1 = name
    · simp [hn]
    · have hne : (name == entry.1) = false := beq_eq_false_iff_ne.mpr (Ne.symm hn)
      simp [hn, hne]

theorem nodup_names_collect (entries : List (String × α)) :
    (names (collect entries)).Nodup := by
  induction entries using List.reverseRecOn with
  | nil => exact List.nodup_nil
  | append_singleton entries entry ih =>
    rw [collect_concat, names_put]
    split
    next => exact ih
    next hmem => exact List.nodup_append_comm.mp (List.nodup_cons.mpr ⟨hmem, ih⟩)

theorem nodup_eraseDups (keys : List String) : keys.eraseDups.Nodup := by
  have h := names_collect (keys.map fun key => (key, ()))
  have hkeys : (keys.map fun key => (key, ())).map Prod.fst = keys := by
    rw [List.map_map]
    exact List.map_id keys
  rw [hkeys] at h
  rw [← h]
  exact nodup_names_collect _

/-- Members without repeated names are given by their names and the value of each. -/
theorem eq_of_nodup_names {members : Members α} (h : (names members).Nodup) :
    members = (names members).filterMap fun name =>
      (get? name members).map fun value => (name, value) := by
  induction members with
  | nil => rfl
  | cons member rest ih =>
    obtain ⟨n, v⟩ := member
    obtain ⟨hn, hrest⟩ := List.nodup_cons.mp h
    have hfirst : get? n ((n, v) :: rest) = some v := if_pos rfl
    have hothers : ∀ name ∈ names rest, get? name ((n, v) :: rest) = get? name rest := by
      intro name hname
      apply if_neg
      rintro rfl
      exact hn hname
    -- the first member hides nothing behind it, for its name does not come again
    show _ = (n :: names rest).filterMap _
    rw [List.filterMap_cons, hfirst]
    show _ = (n, v) :: _
    rw [List.filterMap_congr fun name hname => by rw [hothers name hname], ← ih hrest]

/-- Each name where it has appeared first, with the value that it has been given last. -/
def latest (entries : List (String × α)) : Members α :=
  (entries.map Prod.fst).eraseDups.filterMap fun name =>
    (entries.reverse.lookup name).map fun value => (name, value)

theorem collect_eq_latest (entries : List (String × α)) : collect entries = latest entries := by
  calc collect entries
    _ = (names (collect entries)).filterMap fun name =>
          (get? name (collect entries)).map fun value => (name, value) :=
      eq_of_nodup_names (nodup_names_collect entries)
    _ = latest entries := by
      simp only [names_collect, get?_collect]
      rfl

theorem has_of_mem {name : String} {members : Members α} (h : name ∈ names members) :
    has name members = true := by
  induction members with
  | nil => exact absurd h List.not_mem_nil
  | cons member rest ih =>
    obtain ⟨n, v⟩ := member
    rw [has, get?]
    split
    next => rfl
    next hn => exact ih (List.mem_of_ne_of_mem (Ne.symm hn) h)

/-- Among members without repeated names each one is found. -/
theorem get?_of_mem {name : String} {value : α} {members : Members α}
    (distinct : (names members).Nodup) (h : (name, value) ∈ members) :
    get? name members = some value := by
  induction members with
  | nil => exact absurd h List.not_mem_nil
  | cons member rest ih =>
    obtain ⟨n, v⟩ := member
    obtain ⟨hn, hrest⟩ := List.nodup_cons.mp distinct
    rcases List.mem_cons.mp h with heq | hmem
    · obtain ⟨rfl, rfl⟩ := Prod.mk.inj heq
      exact if_pos rfl
    · have hne : n ≠ name := by
        rintro rfl
        exact hn (List.mem_map.mpr ⟨_, hmem, rfl⟩)
      rw [get?, if_neg hne]
      exact ih hrest hmem

/-- Reading the value of each member keeps the names. -/
theorem get?_mapM {f : α → Option β} {members : Members α} {values : Members β}
    (h : (members.mapM fun (name, a) => (f a).map (name, ·)) = some values) (name : String) :
    (get? name members).map f = (get? name values).map some := by
  induction members generalizing values with
  | nil =>
    obtain rfl := Option.some.inj h
    rfl
  | cons member rest ih =>
    obtain ⟨n, a⟩ := member
    rw [List.mapM_cons] at h
    obtain ⟨value, hvalue, h⟩ := Option.bind_eq_some_iff.mp h
    obtain ⟨others, hothers, h⟩ := Option.bind_eq_some_iff.mp h
    obtain ⟨b, hb, rfl⟩ := Option.map_eq_some_iff.mp hvalue
    obtain rfl := Option.some.inj h
    rw [get?, get?]
    split
    · rw [Option.map_some, Option.map_some, hb]
    · exact ih hothers

theorem put_of_not_mem {name : String} {members : Members α} (h : name ∉ names members)
    (value : α) : put name value members = members ++ [(name, value)] := by
  induction members with
  | nil => rfl
  | cons member rest ih =>
    obtain ⟨n, v⟩ := member
    obtain ⟨hn, hrest⟩ := not_or.mp (mt List.mem_cons.mpr h)
    show (if n = name then _ else _) = _
    rw [if_neg (Ne.symm hn), ih hrest]
    rfl

/-- Entries that repeat no name are kept as they are. -/
theorem collect_of_nodup {entries : Members α} (h : (names entries).Nodup) :
    collect entries = entries := by
  induction entries using List.reverseRecOn with
  | nil => rfl
  | append_singleton entries entry ih =>
    rw [names, List.map_append] at h
    obtain ⟨hentries, -, hnew⟩ := List.nodup_append.mp h
    rw [collect_concat, ih hentries, put_of_not_mem]
    intro hmem
    exact hnew _ hmem _ List.mem_cons_self rfl

/-! ## Members that correspond -/

/-- Two entries have the same name and related values. -/
def Alike (r : α → β → Prop) (a : String × α) (b : String × β) : Prop := a.1 = b.1 ∧ r a.2 b.2

theorem names_eq_of_alike {r : α → β → Prop} {members : Members α} {members' : Members β}
    (h : List.Forall₂ (Alike r) members members') : names members = names members' := by
  induction h with
  | nil => rfl
  | cons hm _ ih => exact List.cons_eq_cons.mpr ⟨hm.1, ih⟩

theorem get?_of_alike {r : α → β → Prop} {members : Members α} {members' : Members β}
    {name : String} {b : β} (h : List.Forall₂ (Alike r) members members')
    (hb : get? name members' = some b) : ∃ a, get? name members = some a ∧ r a b := by
  induction h with
  | nil => exact nomatch hb
  | @cons member member' rest rest' hm _ ih =>
    obtain ⟨n, a⟩ := member
    obtain ⟨n', b'⟩ := member'
    obtain rfl : n = n' := hm.1
    rw [get?] at hb ⊢
    split at hb
    next hn =>
      obtain rfl := Option.some.inj hb
      rw [if_pos hn]
      exact ⟨a, rfl, hm.2⟩
    next hn =>
      rw [if_neg hn]
      exact ih hb

theorem forall₂_put {r : α → β → Prop} {members : Members α} {members' : Members β} {name : String}
    {a : α} {b : β} (h : List.Forall₂ (Alike r) members members') (hab : r a b) :
    List.Forall₂ (Alike r) (put name a members) (put name b members') := by
  induction h with
  | nil => exact .cons ⟨rfl, hab⟩ .nil
  | @cons member member' rest rest' hm hrest ih =>
    obtain ⟨n, v⟩ := member
    obtain ⟨n', v'⟩ := member'
    obtain rfl : n = n' := hm.1
    by_cases hn : n = name
    · simp only [put, hn, if_true]
      exact .cons ⟨rfl, hab⟩ hrest
    · simp only [put, hn, if_false]
      exact .cons hm ih

theorem forall₂_collect {r : α → β → Prop} {entries : List (String × α)}
    {entries' : List (String × β)} (h : List.Forall₂ (Alike r) entries entries') :
    List.Forall₂ (Alike r) (collect entries) (collect entries') := by
  refine List.rel_foldl ?_ .nil h
  rintro members members' hm ⟨n, a⟩ ⟨n', b⟩ ⟨hn, hab⟩
  obtain rfl : n = n' := hn
  exact forall₂_put hm hab

/-- Collecting adds no value. -/
theorem forall_mem_collect {p : α → Prop} {entries : List (String × α)}
    (h : ∀ e ∈ entries, p e.2) : ∀ m ∈ collect entries, p m.2 := by
  have alike : List.Forall₂ (Alike fun a (_ : α) => p a) entries entries :=
    List.forall₂_same.mpr fun e he => ⟨rfl, h e he⟩
  intro m hm
  exact (List.forall₂_same.mp (forall₂_collect alike) m hm).2

end QueryClient.Members
