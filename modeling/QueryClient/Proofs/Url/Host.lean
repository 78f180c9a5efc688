import Mathlib
import QueryClient.Proofs.Text.Digits
import QueryClient.Proofs.Url.Domain
import QueryClient.Url.Basic

/-!
# Hosts read back

A host has one written form, and what is read from that form is the same host
(`IsRead.eq_of_read?_text`). The written form is enclosed (`IsEnclosed`): nothing in it divides an
address, and colons stand in brackets only. The two internet protocols come first, each with the
range of what it reads.
-/

namespace QueryClient.Url.Host

/-! ## The fourth version -/

/-- The numbers of an address of the fourth version. -/
theorem combine?_lt {numbers : List Nat} {address : Nat} (h : combine? numbers = some address) :
    address < 2 ^ 32 := by
  match numbers with
  | [] => cases h
  | [a] => simp [combine?] at h; omega
  | [a, b] => simp [combine?] at h; omega
  | [a, b, c] => simp [combine?] at h; omega
  | [a, b, c, d] => simp [combine?] at h; omega
  | a :: b :: c :: d :: e :: more => simp [combine?] at h

theorem readIpv4?_lt {name : List Char} {address : Nat} (h : readIpv4? name = some address) :
    address < 2 ^ 32 := by
  obtain ⟨numbers, -, h⟩ := Option.bind_eq_some_iff.mp h
  exact combine?_lt h

/-- A byte has no leading zeros that would make it octal. -/
theorem readNumber?_natText : ∀ n < 256, readNumber? (Text.natText n) = some n := by
  decide +kernel

/-- The four bytes of an address. -/
def bytes (address : Nat) : List Nat :=
  [24, 16, 8, 0].map fun shift => address / Nat.pow 2 shift % 256

theorem ipv4_text (address : Nat) :
    text (.ipv4 address) = ['.'].intercalate ((bytes address).map Text.natText) := by
  rw [text, bytes, List.map_map]
  rfl

theorem bytes_lt {address n : Nat} (h : n ∈ bytes address) : n < 256 := by
  obtain ⟨shift, -, rfl⟩ := List.mem_map.mp h
  exact Nat.mod_lt _ (by decide)

theorem getLast?_bytes (address : Nat) : ((bytes address).map Text.natText).getLast? =
    some (Text.natText (address / Nat.pow 2 0 % 256)) := rfl

theorem combine?_bytes {address : Nat} (h : address < 2 ^ 32) :
    combine? (bytes address) = some address := by
  simp [combine?, bytes]
  omega

theorem parts_ipv4_text (address : Nat) :
    parts (text (.ipv4 address)) = (bytes address).map Text.natText := by
  have hsplit : (text (.ipv4 address)).splitOn '.' = (bytes address).map Text.natText := by
    rw [ipv4_text]
    refine List.splitOn_intercalate '.' ?_ (by simp [bytes])
    intro piece hpiece
    obtain ⟨n, -, rfl⟩ := List.mem_map.mp hpiece
    exact Text.Digits.not_mem (fun _ => Text.isDigit_of_mem_natText) (by decide)
  simp only [parts, hsplit, getLast?_bytes]
  -- the last part is not empty, so it is not left out
  split
  · next heq => exact absurd (Option.some.inj heq) (Text.natText_ne_nil _)
  · rfl

theorem endsInNumber_ipv4_text (address : Nat) : endsInNumber (text (.ipv4 address)) = true := by
  rw [endsInNumber, parts_ipv4_text, getLast?_bytes]
  dsimp only
  rw [readNumber?_natText _ (Nat.mod_lt _ (by decide))]
  exact Bool.or_true _

theorem readIpv4?_text {address : Nat} (h : address < 2 ^ 32) :
    readIpv4? (text (.ipv4 address)) = some address := by
  have hnumbers : ((bytes address).map Text.natText).mapM (fun part =>
      (readNumber? part).bind fun n => if n < Nat.pow 2 32 then some n else none) =
      some (bytes address) := by
    refine mapM_eq_some_iff.mpr (List.forall₂_map_left_iff.mpr (List.forall₂_same.mpr ?_))
    intro n hn
    have hlt := bytes_lt hn
    rw [readNumber?_natText n hlt, Option.bind_some, if_pos (hlt.trans (by decide))]
  rw [readIpv4?, parts_ipv4_text, hnumbers, Option.bind_some, combine?_bytes h]

/-! ## The sixth version -/

/-- The groups of an address of the sixth version. -/
def AreGroups (groups : List Nat) : Prop := ∀ g ∈ groups, g < 0x10000

theorem areGroups_append_iff {front back : List Nat} :
    AreGroups (front ++ back) ↔ AreGroups front ∧ AreGroups back := List.forall_mem_append

theorem AreGroups.sublist {part groups : List Nat} (h : AreGroups groups)
    (hpart : part.Sublist groups) : AreGroups part := fun g hg => h g (hpart.subset hg)

/-! ### What is read -/

theorem readGroup?_lt {cs : List Char} {n : Nat} (h : readGroup? cs = some n) : n < 0x10000 := by
  rw [readGroup?] at h
  split at h
  · cases h
  · next hlength =>
    calc n < 16 ^ cs.length := Text.readHex?_lt h
      _ ≤ 16 ^ 4 := Nat.pow_le_pow_right (by decide) (by omega)

theorem readByte?_lt {cs : List Char} {n : Nat} (h : readByte? cs = some n) : n < 256 := by
  unfold readByte? at h
  split at h
  · cases h
  · obtain ⟨m, -, h⟩ := Option.bind_eq_some_iff.mp h
    split at h
    · exact Option.some.inj h ▸ ‹m < 256›
    · cases h

theorem areGroups_of_mapM {pieces : List (List Char)} {groups : List Nat}
    (h : pieces.mapM readGroup? = some groups) : AreGroups groups := by
  intro g hg
  obtain ⟨piece, -, hpiece⟩ := exists_of_mem_of_mapM h hg
  exact readGroup?_lt hpiece

theorem areGroups_of_readGroups? {cs : List Char} {groups : List Nat}
    (h : readGroups? cs = some groups) : AreGroups groups := by
  unfold readGroups? at h
  dsimp only at h
  split at h
  · cases h
  · split at h
    · obtain ⟨front, hfront, h⟩ := Option.bind_eq_some_iff.mp h
      obtain ⟨last, hlast, h⟩ := Option.bind_eq_some_iff.mp h
      split at h
      · next a b c d =>
        obtain rfl := Option.some.inj h
        have hbytes : ∀ n ∈ [a, b, c, d], n < 256 := by
          intro n hn
          obtain ⟨piece, -, hpiece⟩ := exists_of_mem_of_mapM hlast hn
          exact readByte?_lt hpiece
        simp only [List.forall_mem_cons] at hbytes
        refine areGroups_append_iff.mpr ⟨areGroups_of_mapM hfront, ?_⟩
        simp only [AreGroups, List.forall_mem_cons]
        refine ⟨by omega, by omega, fun _ hmem => absurd hmem List.not_mem_nil⟩
      · cases h
    · exact areGroups_of_mapM h

theorem areGroups_of_readSomeGroups? {cs : List Char} {groups : List Nat}
    (h : readSomeGroups? cs = some groups) : AreGroups groups := by
  rw [readSomeGroups?] at h
  split at h
  · obtain rfl := Option.some.inj h
    exact fun _ hmem => absurd hmem List.not_mem_nil
  · exact areGroups_of_readGroups? h

/-- An address of the sixth version has eight groups. -/
theorem readIpv6?_eq_some {cs : List Char} {groups : List Nat} (h : readIpv6? cs = some groups) :
    groups.length = 8 ∧ AreGroups groups := by
  unfold readIpv6? at h
  split at h
  · obtain ⟨hgroups, hlength⟩ := Option.filter_eq_some_iff.mp h
    exact ⟨of_decide_eq_true hlength, areGroups_of_readGroups? hgroups⟩
  · split at h
    · cases h
    · obtain ⟨front, hfront, h⟩ := Option.bind_eq_some_iff.mp h
      obtain ⟨back, hback, h⟩ := Option.bind_eq_some_iff.mp h
      split at h
      · cases h
      · obtain rfl := Option.some.inj h
        constructor
        · simp only [List.length_append, List.length_replicate]
          omega
        · refine areGroups_append_iff.mpr ⟨areGroups_append_iff.mpr ⟨?_, ?_⟩, ?_⟩
          · exact areGroups_of_readSomeGroups? hfront
          · intro g hg
            rw [List.eq_of_mem_replicate hg]
            decide
          · exact areGroups_of_readSomeGroups? hback

/-! ### Groups read back -/

theorem readGroup?_groupText {g : Nat} (h : g < 0x10000) : readGroup? (groupText g) = some g := by
  have hlength : (groupText g).length ≤ 4 :=
    (Nat.length_toDigits_le_iff (by decide) (by decide)).mpr h
  have hne : groupText g ≠ [] := Nat.toDigits_ne_nil
  rw [readGroup?, if_neg (by simp [hne, hlength]), groupText, Text.readHex?_toDigits]

/-- A group has digits only. -/
theorem not_mem_groupText (g : Nat) {c : Char} (hc : Text.hexValue? c = none) :
    c ∉ groupText g :=
  Text.not_mem_of_readHex? (Text.readHex?_toDigits g) hc

theorem groupsText_cons_cons (g next : Nat) (groups : List Nat) :
    groupsText (g :: next :: groups) = groupText g ++ ':' :: groupsText (next :: groups) := by
  rw [groupsText, List.map_cons, List.map_cons, List.intercalate_cons_cons, List.append_assoc]
  rfl

/-- Groups start with a digit. -/
theorem exists_groupsText_eq_cons (g : Nat) (groups : List Nat) :
    ∃ c rest, groupsText (g :: groups) = c :: rest ∧ c ≠ ':' := by
  have hne : groupText g ≠ [] := Nat.toDigits_ne_nil
  obtain ⟨c, rest, htext⟩ := List.exists_cons_of_ne_nil hne
  have hc : c ≠ ':' := by
    rintro rfl
    exact not_mem_groupText g (by decide) (htext ▸ List.mem_cons_self)
  cases groups with
  | nil => exact ⟨c, rest, by rw [← htext]; exact List.intercalate_singleton, hc⟩
  | cons next groups =>
    exact ⟨c, _, by rw [groupsText_cons_cons, htext, List.cons_append], hc⟩

theorem splitOn_groupsText {groups : List Nat} (h : groups ≠ []) :
    (groupsText groups).splitOn ':' = groups.map groupText := by
  refine List.splitOn_intercalate ':' ?_ (by simpa using h)
  intro piece hpiece
  obtain ⟨g, -, rfl⟩ := List.mem_map.mp hpiece
  exact not_mem_groupText g (by decide)

theorem not_mem_groupsText (groups : List Nat) {c : Char} (hc : Text.hexValue? c = none)
    (hcolon : c ≠ ':') : c ∉ groupsText groups := by
  intro hmem
  obtain h | ⟨piece, hpiece, h⟩ := Domain.mem_intercalate hmem
  · exact hcolon h
  · obtain ⟨g, -, rfl⟩ := List.mem_map.mp hpiece
    exact not_mem_groupText g hc h

theorem readGroups?_groupsText {groups : List Nat} (hne : groups ≠ []) (h : AreGroups groups) :
    readGroups? (groupsText groups) = some groups := by
  have hall : (groups.map groupText).mapM readGroup? = some groups := by
    refine mapM_eq_some_iff.mpr (List.forall₂_map_left_iff.mpr (List.forall₂_same.mpr ?_))
    exact fun g hg => readGroup?_groupText (h g hg)
  have hlast : (groups.map groupText).getLast? = some (groupText (groups.getLast hne)) := by
    rw [List.getLast?_map, List.getLast?_eq_some_getLast hne, Option.map_some]
  have hpoint : (groupText (groups.getLast hne)).contains '.' = false :=
    Bool.eq_false_iff.mpr fun hmem =>
      not_mem_groupText _ (by decide) (List.contains_iff_mem.mp hmem)
  simp only [readGroups?, splitOn_groupsText hne, hlast, hpoint, Bool.false_eq_true, if_false, hall]

theorem readSomeGroups?_groupsText {groups : List Nat} (h : AreGroups groups) :
    readSomeGroups? (groupsText groups) = some groups := by
  cases groups with
  | nil => rfl
  | cons g groups =>
    have hne : g :: groups ≠ [] := List.cons_ne_nil g groups
    obtain ⟨c, rest, htext, -⟩ := exists_groupsText_eq_cons g groups
    rw [readSomeGroups?, if_neg (by simp [htext]), readGroups?_groupsText hne h]

/-! ### The gap -/

theorem splitGap_append {cs : List Char} (h : ':' ∉ cs) (rest : List Char) :
    splitGap (cs ++ rest) = (splitGap rest).map fun p => (cs ++ p.1, p.2) := by
  induction cs with
  | nil => simp
  | cons c cs ih =>
    rw [List.mem_cons, not_or] at h
    rw [List.cons_append, splitGap, ih h.2, Option.map_map]
    · rfl
    · exact fun _ hc _ => h.1 hc.symm

/-- A colon that does not stand in front of another opens no gap. -/
theorem splitGap_colon {c : Char} (h : c ≠ ':') (rest : List Char) :
    splitGap (':' :: c :: rest) = (splitGap (c :: rest)).map fun p => (':' :: p.1, p.2) := by
  rw [splitGap]
  rintro _ - heq
  exact h (List.cons.inj heq).1

/-- There is no gap between groups. -/
theorem splitGap_groupsText (groups : List Nat) (rest : List Char) :
    splitGap (groupsText groups ++ rest) =
      (splitGap rest).map fun p => (groupsText groups ++ p.1, p.2) := by
  induction groups with
  | nil => simp [groupsText]
  | cons g groups ih =>
    have hcolon (g : Nat) : ':' ∉ groupText g := not_mem_groupText g (by decide)
    cases groups with
    | nil =>
      rw [groupsText, List.map_singleton, List.intercalate_singleton]
      exact splitGap_append (hcolon g) rest
    | cons next groups =>
      obtain ⟨c, tail, htail, hc⟩ := exists_groupsText_eq_cons next groups
      rw [groupsText_cons_cons, List.append_assoc, splitGap_append (hcolon g), htail,
        List.cons_append, List.cons_append, splitGap_colon hc, ← List.cons_append, ← htail, ih,
        Option.map_map, Option.map_map]
      simp [Function.comp_def]

/-! ### The longest run of zeros -/

theorem zeroRuns_drop (groups : List Nat) (i : Nat) :
    (zeroRuns groups).drop i = zeroRuns (groups.drop i) := by
  induction groups generalizing i with
  | nil => rw [List.drop_nil, zeroRuns, List.drop_nil]
  | cons g groups ih =>
    cases i with
    | zero => rfl
    | succ i =>
      rw [zeroRuns, List.drop_succ_cons, List.drop_succ_cons]
      exact ih i

/-- A list starts with as many zeros as its first run counts. -/
theorem eq_append_of_zeroRuns (groups : List Nat) :
    groups = List.replicate ((zeroRuns groups).headD 0) 0 ++
      groups.drop ((zeroRuns groups).headD 0) := by
  induction groups with
  | nil => rfl
  | cons g groups ih =>
    by_cases hg : g = 0
    · rw [zeroRuns, if_pos hg, List.headD_cons, List.replicate_succ, List.drop_succ_cons,
        List.cons_append, ← ih, hg]
    · rw [zeroRuns, if_neg hg]
      rfl

/-- The list around the run of zeros that is counted at a place. -/
theorem eq_append_of_getElem?_zeroRuns {groups : List Nat} {i k : Nat}
    (h : (zeroRuns groups)[i]? = some k) :
    groups = groups.take i ++ List.replicate k 0 ++ groups.drop (i + k) := by
  have hhead : (zeroRuns (groups.drop i)).headD 0 = k := by
    rw [← zeroRuns_drop, List.headD_eq_head?_getD, List.head?_drop, h, Option.getD_some]
  have hdrop := eq_append_of_zeroRuns (groups.drop i)
  rw [hhead, List.drop_drop] at hdrop
  rw [List.append_assoc, ← hdrop, List.take_append_drop]

theorem foldl_max_eq_or_mem (runs : List Nat) (start : Nat) :
    runs.foldl max start = start ∨ runs.foldl max start ∈ runs := by
  induction runs generalizing start with
  | nil => exact .inl rfl
  | cons n runs ih =>
    rw [List.foldl_cons]
    obtain h | h := ih (max start n)
    · rw [h]
      refine (max_choice start n).imp_right fun hn => ?_
      rw [hn]
      exact List.mem_cons_self
    · exact .inr (List.mem_cons_of_mem n h)

/-- The longest run of zeros stands where it is counted first. -/
theorem eq_append_of_longest {groups : List Nat} {k : Nat}
    (h : (zeroRuns groups).foldl max 0 = k) (hpos : 0 < k) :
    groups = groups.take ((zeroRuns groups).idxOf k) ++ List.replicate k 0 ++
      groups.drop ((zeroRuns groups).idxOf k + k) := by
  have hmem : k ∈ zeroRuns groups := by
    obtain hzero | hmem := foldl_max_eq_or_mem (zeroRuns groups) 0
    · omega
    · exact h ▸ hmem
  exact eq_append_of_getElem?_zeroRuns (List.getElem?_idxOf hmem)

/-! ### Addresses -/

theorem readIpv6?_groupsText {groups : List Nat} (hlength : groups.length = 8)
    (h : AreGroups groups) : readIpv6? (groupsText groups) = some groups := by
  have hne : groups ≠ [] := List.ne_nil_of_length_pos (by omega)
  have hgap : splitGap (groupsText groups) = none := by
    have hnone := splitGap_groupsText groups []
    rwa [List.append_nil, splitGap, Option.map_none] at hnone
  simp [readIpv6?, hgap, readGroups?_groupsText hne h, hlength]

/-- A double colon between groups stands for the zeros that are missing. -/
theorem readIpv6?_gap {front back : List Nat} {k : Nat} (hfront : AreGroups front)
    (hback : AreGroups back) (hpos : 0 < k) (hlength : front.length + k + back.length = 8) :
    readIpv6? (groupsText front ++ [':', ':'] ++ groupsText back) =
      some (front ++ List.replicate k 0 ++ back) := by
  have hgap : splitGap (groupsText front ++ [':', ':'] ++ groupsText back) =
      some (groupsText front, groupsText back) := by
    rw [List.append_assoc, splitGap_groupsText]
    simp [splitGap]
  have hpoint : (groupsText front).contains '.' = false :=
    Bool.eq_false_iff.mpr fun hmem =>
      not_mem_groupsText _ (by decide) (by decide) (List.contains_iff_mem.mp hmem)
  have hfits : ¬8 ≤ front.length + back.length := by omega
  have hmissing : 8 - front.length - back.length = k := by omega
  simp only [readIpv6?, hgap, hpoint, readSomeGroups?_groupsText hfront,
    readSomeGroups?_groupsText hback, Bool.false_eq_true, if_false, Option.bind_eq_bind,
    Option.bind_some, hfits, hmissing]
  rfl

theorem readIpv6?_ipv6Text {groups : List Nat} (hlength : groups.length = 8)
    (h : AreGroups groups) : readIpv6? (ipv6Text groups) = some groups := by
  rw [ipv6Text]
  dsimp only
  generalize hk : (zeroRuns groups).foldl max 0 = k
  split
  · exact readIpv6?_groupsText hlength h
  · have hsplit := eq_append_of_longest hk (by omega)
    generalize (zeroRuns groups).idxOf k = start at hsplit
    have hcount := congrArg List.length hsplit
    simp only [List.length_append, List.length_replicate, hlength] at hcount
    rw [readIpv6?_gap (h.sublist (List.take_sublist start groups))
      (h.sublist (List.drop_sublist (start + k) groups)) (by omega) hcount.symm, ← hsplit]

/-! ## Hosts -/

/-- The characters that divide an address in front of its path, or that are taken out of it. -/
def dividers : List Char := ['/', '\\', '?', '#', '@', '\t', '\n', '\r']

/-- A plain text for a host: nothing in it divides, and if there are brackets they stand around it
all. -/
structure IsPlain (cs : List Char) : Prop where
  undivided : ∀ c ∈ cs, c ∉ dividers
  brackets : ('[' ∉ cs ∧ ']' ∉ cs) ∨
    ∃ inner, cs = '[' :: (inner ++ [']']) ∧ '[' ∉ inner ∧ ']' ∉ inner

/-- A plain text that no colon divides either. -/
structure IsEnclosed (cs : List Char) : Prop extends IsPlain cs where
  ne_nil : cs ≠ []
  colons : ':' ∈ cs → '[' ∈ cs

/-- What holds of a host that has been read. -/
def IsRead : Host → Prop
  | .domain name => name ≠ [] ∧ (∀ c ∈ name, Domain.IsSent c) ∧ endsInNumber name = false
  | .ipv4 address => address < 2 ^ 32
  | .ipv6 groups => groups.length = 8 ∧ AreGroups groups

theorem isRead_of_read? {cs : List Char} {host : Host} (h : read? cs = some host) :
    host.IsRead := by
  unfold read? at h
  split at h
  · cases h
  · split at h
    · obtain ⟨groups, hgroups, rfl⟩ := Option.map_eq_some_iff.mp h
      exact readIpv6?_eq_some hgroups
    · cases h
  · obtain ⟨name, hname, h⟩ := Option.bind_eq_some_iff.mp h
    split at h
    · cases h
    · next hne =>
      split at h
      · obtain ⟨address, haddress, rfl⟩ := Option.map_eq_some_iff.mp h
        exact readIpv4?_lt haddress
      · next hends =>
        obtain rfl := Option.some.inj h
        refine ⟨?_, Domain.isSent_of_read? hname, Bool.eq_false_iff.mpr hends⟩
        exact fun hnil => hne (List.isEmpty_iff.mpr hnil)

theorem not_mem_dividers_of_isSent {c : Char} (h : Domain.IsSent c) : c ∉ dividers := by
  have hall : dividers.all (fun d => !decide (Domain.IsSent d)) = true := by decide
  intro hmem
  have hc := List.all_eq_true.mp hall c hmem
  rw [decide_eq_true h] at hc
  cases hc

/-- No divider is a hexadecimal digit, and none is a colon. -/
theorem hexValue?_of_mem_dividers {d : Char} (h : d ∈ dividers) :
    Text.hexValue? d = none ∧ d ≠ ':' := by
  have hall : dividers.all (fun d => (Text.hexValue? d).isNone && d ≠ ':') = true := by decide
  have hd := List.all_eq_true.mp hall d h
  rw [Bool.and_eq_true] at hd
  exact ⟨Option.isNone_iff_eq_none.mp hd.1, of_decide_eq_true hd.2⟩

theorem isSent_of_isDigit {c : Char} (h : Text.isDigit c = true) : Domain.IsSent c := by
  have hall : ∀ d < 10, Domain.IsSent (Nat.digitChar d) := by decide
  obtain ⟨d, hd, rfl⟩ := Text.digitChar_of_isDigit h
  exact hall d hd

/-- The written form of an address of the fourth version may stand in a name. -/
theorem isSent_of_mem_text {address : Nat} {c : Char} (h : c ∈ text (.ipv4 address)) :
    Domain.IsSent c := by
  rw [ipv4_text] at h
  obtain rfl | ⟨piece, hpiece, hc⟩ := Domain.mem_intercalate h
  · decide
  · obtain ⟨n, -, rfl⟩ := List.mem_map.mp hpiece
    exact isSent_of_isDigit (Text.isDigit_of_mem_natText hc)

theorem not_mem_ipv6Text {groups : List Nat} {c : Char} (hc : Text.hexValue? c = none)
    (hcolon : c ≠ ':') : c ∉ ipv6Text groups := by
  have hgroups (part : List Nat) : c ∉ groupsText part := not_mem_groupsText part hc hcolon
  rw [ipv6Text]
  dsimp only
  split
  · exact hgroups groups
  · simp [hgroups, hcolon]

theorem isEnclosed_of_isSent {cs : List Char} (hne : cs ≠ []) (h : ∀ c ∈ cs, Domain.IsSent c) :
    IsEnclosed cs where
  undivided := fun c hc => not_mem_dividers_of_isSent (h c hc)
  brackets := .inl ⟨fun hmem => absurd (h '[' hmem) (by decide),
    fun hmem => absurd (h ']' hmem) (by decide)⟩
  ne_nil := hne
  colons := fun hmem => absurd (h ':' hmem) (by decide)

theorem isEnclosed_ipv6 (groups : List Nat) : IsEnclosed (text (.ipv6 groups)) where
  undivided := by
    intro c hc hmem
    have hdigit := hexValue?_of_mem_dividers hmem
    obtain rfl | hc := List.mem_cons.mp hc
    · exact absurd hmem (by decide)
    · obtain hc | hc := List.mem_append.mp hc
      · exact not_mem_ipv6Text hdigit.1 hdigit.2 hc
      · rw [List.mem_singleton.mp hc] at hmem
        exact absurd hmem (by decide)
  brackets := .inr ⟨ipv6Text groups, rfl, not_mem_ipv6Text (by decide) (by decide),
    not_mem_ipv6Text (by decide) (by decide)⟩
  ne_nil := List.cons_ne_nil _ _
  colons := fun _ => List.mem_cons_self

theorem ipv4_text_ne_nil (address : Nat) : text (.ipv4 address) ≠ [] := by
  intro hnil
  have hends := endsInNumber_ipv4_text address
  rw [hnil] at hends
  cases hends

/-- The written form of a host is not divided. -/
theorem IsRead.isEnclosed {host : Host} (h : host.IsRead) : IsEnclosed host.text := by
  cases host with
  | domain name => exact isEnclosed_of_isSent h.1 h.2.1
  | ipv4 address =>
    exact isEnclosed_of_isSent (ipv4_text_ne_nil address) fun c => isSent_of_mem_text
  | ipv6 groups => exact isEnclosed_ipv6 groups

/-- A text that may be sent as a name is read as the name or the address of the fourth version that
it is. -/
theorem read?_of_isSent {cs : List Char} {host : Host} (hsent : ∀ c ∈ cs, Domain.IsSent c)
    (h : read? cs = some host) :
    if endsInNumber cs then ∃ address, readIpv4? cs = some address ∧ host = .ipv4 address
    else host = .domain cs := by
  unfold read? at h
  split at h
  · cases h
  · exact absurd (hsent '[' List.mem_cons_self) (by decide)
  · obtain ⟨name, hname, h⟩ := Option.bind_eq_some_iff.mp h
    rw [Domain.eq_of_read? hsent hname] at h
    split at h
    · cases h
    · split at h
      · next hends =>
        rw [if_pos hends]
        obtain ⟨address, haddress, rfl⟩ := Option.map_eq_some_iff.mp h
        exact ⟨address, haddress, rfl⟩
      · next hends =>
        rw [if_neg hends]
        exact (Option.some.inj h).symm

/-- **What is read from the written form of a host is the host.** -/
theorem IsRead.eq_of_read?_text {host again : Host} (h : host.IsRead)
    (hagain : read? host.text = some again) : again = host := by
  cases host with
  | domain name =>
    have hread := read?_of_isSent h.2.1 hagain
    rwa [h.2.2] at hread
  | ipv4 address =>
    have hread := read?_of_isSent (fun c => isSent_of_mem_text) hagain
    rw [endsInNumber_ipv4_text, if_pos rfl] at hread
    obtain ⟨address', haddress, rfl⟩ := hread
    rw [readIpv4?_text h] at haddress
    rw [Option.some.inj haddress]
  | ipv6 groups =>
    have hread : read? (text (.ipv6 groups)) = some (.ipv6 groups) := by
      simp [text, read?, readIpv6?_ipv6Text h.1 h.2]
    exact Option.some.inj (hagain.symm.trans hread)

end QueryClient.Url.Host
