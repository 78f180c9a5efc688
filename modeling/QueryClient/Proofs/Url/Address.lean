import Mathlib
import QueryClient.Proofs.Url.Host

/-!
# Addresses put together

An address that is written as a scheme, a host with its port and what stands below it is read part
by part (`readsAs_of_read?`), and a host whose text nothing divides is read on its own
(`spanHost_of_isEnclosed`). What stands below is cut at the first mark, and each of its segments is
encoded before the dot segments are resolved (`mem_resolveDots`).
-/

namespace QueryClient

/-- Where a text ends that has a property throughout. -/
theorem span_append_of_neg {α : Type} {p : α → Bool} {front back : List α} {a : α}
    (hfront : ∀ b ∈ front, p b = true) (ha : p a = false) :
    (front ++ a :: back).span p = (front, a :: back) := by
  have hneg : ¬p a = true := by simp [ha]
  rw [List.span_eq_takeWhile_dropWhile, List.takeWhile_append_of_pos hfront,
    List.dropWhile_append_of_pos hfront, List.takeWhile_cons_of_neg hneg,
    List.dropWhile_cons_of_neg hneg, List.append_nil]

theorem takeWhile_append_of_not_mem {α : Type} [DecidableEq α] {front : List α} {a : α}
    (h : a ∉ front) (back : List α) :
    (front ++ back).takeWhile (· ≠ a) = front ++ back.takeWhile (· ≠ a) := by
  refine List.takeWhile_append_of_pos fun b hb => decide_eq_true ?_
  rintro rfl
  exact h hb

theorem span_eq_self {α : Type} [DecidableEq α] {as : List α} {a : α} (h : a ∉ as) :
    as.span (· ≠ a) = (as, []) := by
  have hall : ∀ b ∈ as, (decide (b ≠ a)) = true := by
    intro b hb
    refine decide_eq_true ?_
    rintro rfl
    exact h hb
  rw [List.span_eq_takeWhile_dropWhile, List.takeWhile_eq_self_iff.mpr hall,
    List.dropWhile_eq_nil_iff.mpr hall]

namespace Url

/-! ## The ends of a text -/

/-- A character that is dropped at the ends of an address. -/
def isEdge (c : Char) : Bool := c.toNat ≤ 0x20

/-- A character that is kept inside an address. -/
def isKept (c : Char) : Bool := c ≠ '\t' && c ≠ '\n' && c ≠ '\r'

/-- What is left of the end of an address. -/
def stripEnd (cs : List Char) : List Char :=
  (cs.reverse.dropWhile isEdge).reverse.filter isKept

/-- Nothing is dropped in front of a character that is no edge. -/
theorem strip_append {first last : Char} {middle back : List Char} (hfirst : isEdge first = false)
    (hlast : isEdge last = false)
    (hkept : ∀ c ∈ first :: (middle ++ [last]), isKept c = true) :
    strip (first :: (middle ++ last :: back)) = first :: (middle ++ last :: stripEnd back) := by
  have hstart : (first :: (middle ++ last :: back)).dropWhile isEdge =
      first :: (middle ++ last :: back) :=
    List.dropWhile_cons_of_neg (by simp [hfirst])
  have hend : (first :: (middle ++ last :: back)).reverse.dropWhile isEdge =
      back.reverse.dropWhile isEdge ++ (first :: (middle ++ [last])).reverse := by
    have hreverse : (first :: (middle ++ last :: back)).reverse =
        back.reverse ++ (first :: (middle ++ [last])).reverse := by simp
    have hstays : (first :: (middle ++ [last])).reverse.dropWhile isEdge =
        (first :: (middle ++ [last])).reverse := by simp [hlast]
    -- whatever is dropped behind it, dropping ends at the last character at the latest
    rw [hreverse, List.dropWhile_append, hstays]
    split
    · next hall => rw [List.isEmpty_iff.mp hall, List.nil_append]
    · rfl
  have hfilter : (first :: (middle ++ [last])).filter isKept = first :: (middle ++ [last]) :=
    List.filter_eq_self.mpr hkept
  have hstrip (cs : List Char) :
      strip cs = ((cs.dropWhile isEdge).reverse.dropWhile isEdge).reverse.filter isKept := rfl
  rw [hstrip, hstart, hend, List.reverse_append, List.reverse_reverse, List.filter_append, hfilter,
    stripEnd]
  simp

theorem mem_of_mem_stripEnd {cs : List Char} {c : Char} (h : c ∈ stripEnd cs) : c ∈ cs := by
  have hdrop := List.mem_reverse.mp (List.mem_filter.mp h).1
  exact List.mem_reverse.mp ((List.dropWhile_sublist isEdge).subset hdrop)

/-! ## The parts of an address -/

/-- The text in front of the first question mark or number sign. -/
def beforeMarks (cs : List Char) : List Char :=
  (cs.takeWhile (· ≠ '#')).takeWhile (· ≠ '?')

theorem mem_of_mem_beforeMarks {cs : List Char} {c : Char} (h : c ∈ beforeMarks cs) : c ∈ cs :=
  (List.takeWhile_sublist _).subset ((List.takeWhile_sublist _).subset h)

/-- No mark stands in a front without any. -/
theorem beforeMarks_append {front : List Char} (hnumber : '#' ∉ front) (hquestion : '?' ∉ front)
    (cs : List Char) : beforeMarks (front ++ cs) = front ++ beforeMarks cs := by
  rw [beforeMarks, takeWhile_append_of_not_mem hnumber, takeWhile_append_of_not_mem hquestion,
    beforeMarks]

/-- An address that has been read from a scheme, a host with its port and what stands below. -/
structure ReadsAs (u : Url) (s : String) (authority below : List Char) : Prop where
  scheme : u.scheme = s
  user : u.user = []
  password : u.password = []
  host : Host.read? (spanHost false authority).1 = some u.host
  port : readPort? s ((spanHost false authority).2.drop 1) = some u.port
  path : u.path = readPath (beforeMarks below)
  unmarked : '?' ∉ below → '#' ∉ below → u.query = none ∧ u.fragment = none

/-- A text that may stand for a host and a port. -/
structure IsAuthority (cs : List Char) : Prop where
  ne_nil : cs ≠ []
  undivided : ∀ c ∈ cs, c ∉ Host.dividers

theorem endsAuthority_of_not_mem {c : Char} (h : c ∉ Host.dividers) :
    isSlash c = false ∧ endsAuthority c = false := by
  simp only [Host.dividers, List.mem_cons, not_or] at h
  simp [isSlash, endsAuthority, h]

theorem isKept_of_not_mem {c : Char} (h : c ∉ Host.dividers) : isKept c = true := by
  simp only [Host.dividers, List.mem_cons, not_or] at h
  simp [isKept, h]

theorem splitUser_of_not_mem {authority : List Char} (h : '@' ∉ authority) :
    splitUser authority = none := by
  rw [splitUser, span_eq_self fun hmem => h (List.mem_reverse.mp hmem)]

theorem readsAs_of_readAfterScheme? {scheme : String} {authority below : List Char} {u : Url}
    (hauthority : IsAuthority authority)
    (h : readAfterScheme? scheme ('/' :: '/' :: (authority ++ '/' :: below)) = some u) :
    u.ReadsAs scheme authority ('/' :: below) := by
  have hslashes : ('/' :: '/' :: (authority ++ '/' :: below)).dropWhile isSlash =
      authority ++ '/' :: below := by
    obtain ⟨c, rest, rfl⟩ := List.exists_cons_of_ne_nil hauthority.ne_nil
    have hc := (endsAuthority_of_not_mem (hauthority.undivided c List.mem_cons_self)).1
    have hslash : isSlash '/' = true := rfl
    simp [hslash, hc]
  have hspan : (authority ++ '/' :: below).span (fun c => !endsAuthority c) =
      (authority, '/' :: below) := by
    refine span_append_of_neg (fun c hc => ?_) rfl
    rw [(endsAuthority_of_not_mem (hauthority.undivided c hc)).2]
    rfl
  have huser : splitUser authority = none :=
    splitUser_of_not_mem fun hmem => hauthority.undivided '@' hmem (by decide)
  simp only [readAfterScheme?, hslashes, hspan, huser, Option.getD_none, Option.bind_eq_bind] at h
  obtain ⟨host, hhost, h⟩ := Option.bind_eq_some_iff.mp h
  obtain ⟨port, hport, h⟩ := Option.bind_eq_some_iff.mp h
  rw [← Option.some.inj h]
  refine ⟨rfl, rfl, rfl, hhost, hport, ?_, fun hquestion hnumber => ?_⟩
  · simp only [List.span_eq_takeWhile_dropWhile]
    rfl
  · have hfront : ('/' :: below).span (· ≠ '#') = ('/' :: below, []) := span_eq_self hnumber
    have hquery : ('/' :: below).span (· ≠ '?') = ('/' :: below, []) := span_eq_self hquestion
    simp only [hfront, hquery]
    exact ⟨rfl, rfl⟩

/-! ## Hosts and ports -/

/-- Without brackets and colons there is nothing but a host. -/
theorem spanHost_append {front : List Char} (hopen : '[' ∉ front) (hclose : ']' ∉ front)
    (hcolon : ':' ∉ front) (rest : List Char) :
    spanHost false (front ++ rest) =
      (front ++ (spanHost false rest).1, (spanHost false rest).2) := by
  induction front with
  | nil => rfl
  | cons c front ih =>
    rw [List.mem_cons, not_or] at hopen hclose hcolon
    have hrest := ih hopen.2 hclose.2 hcolon.2
    simp [spanHost, Ne.symm hopen.1, Ne.symm hclose.1, Ne.symm hcolon.1, hrest]

/-- Brackets end only where they close. -/
theorem spanHost_of_bracketed {inner : List Char} (hopen : '[' ∉ inner) (hclose : ']' ∉ inner)
    (rest : List Char) :
    spanHost true (inner ++ ']' :: rest) =
      (inner ++ ']' :: (spanHost false rest).1, (spanHost false rest).2) := by
  induction inner with
  | nil => simp [spanHost]
  | cons c inner ih =>
    rw [List.mem_cons, not_or] at hopen hclose
    simp [spanHost, Ne.symm hopen.1, Ne.symm hclose.1, ih hopen.2 hclose.2]

/-- A port as it is written behind a host. -/
def portText (port : Option Nat) : List Char := (port.map fun p => ':' :: Text.natText p).getD []

theorem spanHost_portText (port : Option Nat) :
    spanHost false (portText port) = ([], portText port) := by
  cases port with
  | none => rfl
  | some n => simp [portText, spanHost]

theorem isAuthority_append {host : List Char} {port : Option Nat}
    (hhost : ∀ c ∈ host, c ∉ Host.dividers) (hne : host ++ portText port ≠ []) :
    IsAuthority (host ++ portText port) where
  ne_nil := hne
  undivided := by
    intro c hc
    obtain hc | hc := List.mem_append.mp hc
    · exact hhost c hc
    · cases port with
      | none => cases hc
      | some n =>
        obtain rfl | hc := List.mem_cons.mp hc
        · decide
        · have hsent := Host.isSent_of_isDigit (Text.isDigit_of_mem_natText hc)
          exact Host.not_mem_dividers_of_isSent hsent

/-- **A host that nothing divides is read apart from its port.** -/
theorem spanHost_of_isEnclosed {host : List Char} (h : Host.IsEnclosed host)
    (port : Option Nat) : spanHost false (host ++ portText port) = (host, portText port) := by
  obtain hnone | ⟨inner, rfl, hopen, hclose⟩ := h.brackets
  · obtain ⟨hopen, hclose⟩ := hnone
    have hcolon : ':' ∉ host := fun hmem => hopen (h.colons hmem)
    rw [spanHost_append hopen hclose hcolon, spanHost_portText, List.append_nil]
  · have hbracketed := spanHost_of_bracketed hopen hclose (portText port)
    rw [spanHost_portText] at hbracketed
    simp [spanHost, hbracketed]

theorem digits_of_readPort? {scheme : String} {cs : List Char} {port : Option Nat}
    (h : readPort? scheme cs = some port) : Text.Digits cs := by
  rw [readPort?] at h
  split at h
  · next hempty =>
    rw [List.isEmpty_iff.mp hempty]
    exact Text.digits_nil
  · obtain ⟨n, hn, -⟩ := Option.bind_eq_some_iff.mp h
    exact (Text.readNat?_eq_some_iff.mp hn).1

/-- A plain host in front of a port is enclosed if the two are read: a colon in it would end the
host, and no port has a colon. -/
theorem isEnclosed_of_isPlain {scheme : String} {host : List Char} {n : Nat} {h : Host}
    {port : Option Nat} (hplain : Host.IsPlain host)
    (hhost : Host.read? (spanHost false (host ++ portText (some n))).1 = some h)
    (hport : readPort? scheme ((spanHost false (host ++ portText (some n))).2.drop 1) = some port) :
    Host.IsEnclosed host := by
  obtain hnone | ⟨inner, hinner, -⟩ := hplain.brackets
  · obtain ⟨hopen, hclose⟩ := hnone
    have hcolon : ':' ∉ host := by
      intro hmem
      obtain ⟨front, back, rfl, hfront⟩ := List.eq_append_cons_of_mem hmem
      rw [List.mem_append, not_or] at hopen hclose
      rw [List.append_assoc, spanHost_append hopen.1 hclose.1 hfront] at hport
      refine (digits_of_readPort? hport).not_mem (c := ':') (by decide) ?_
      simp [spanHost, portText]
    have hne : host ≠ [] := by
      rintro rfl
      have hnone : Host.read? [] = none := rfl
      simp [spanHost, portText, hnone] at hhost
    exact ⟨hplain, hne, fun hmem => absurd hmem hcolon⟩
  · refine ⟨hplain, ?_, fun _ => ?_⟩
    · rw [hinner]
      exact List.cons_ne_nil _ _
    · rw [hinner]
      exact List.mem_cons_self

/-- A port is one of 16 bits, and what is left of it beside the scheme's own is read again. -/
theorem readPort?_natText {scheme : String} {n : Nat} {port : Option Nat}
    (h : readPort? scheme (Text.natText n) = some port) :
    port.getD (defaultPort scheme) = n ∧
      readPort? scheme ((portText port).drop 1) = some port := by
  have hne : (Text.natText n).isEmpty = false :=
    Bool.eq_false_iff.mpr fun hnil => Text.natText_ne_nil n (List.isEmpty_iff.mp hnil)
  have hread := h
  rw [readPort?, hne, Text.readNat?_natText, Option.bind_some] at h
  simp only [Bool.false_eq_true, if_false] at h
  split at h
  · cases h
  · split at h
    · next hdefault =>
      obtain rfl := Option.some.inj h
      exact ⟨hdefault.symm, rfl⟩
    · obtain rfl := Option.some.inj h
      exact ⟨rfl, hread⟩

/-! ## What stands below -/

/-- One segment more leaves what is there, an empty segment or itself. -/
theorem exists_resolveDots_cons (done : List (List Char)) (next : List Char)
    (rest : List (List Char)) :
    ∃ done', resolveDots done (next :: rest) = resolveDots done' rest ∧
      ∀ segment ∈ done', segment ∈ done ∨ segment = [] ∨ segment = next := by
  have hatEnd : ∀ segment ∈ (if rest.isEmpty then [[]] else [] : List (List Char)),
      segment = [] := by
    split <;> simp
  have hfewer : (dropSegment done).Sublist done := by
    rw [dropSegment]
    split
    · exact List.Sublist.refl done
    · exact List.dropLast_sublist done
  rw [resolveDots]
  split
  · refine ⟨_, rfl, fun segment hmem => ?_⟩
    exact (List.mem_append.mp hmem).imp (fun h => hfewer.subset h) fun h => .inl (hatEnd segment h)
  · split
    · refine ⟨_, rfl, fun segment hmem => ?_⟩
      exact (List.mem_append.mp hmem).imp_right fun h => .inl (hatEnd segment h)
    · refine ⟨_, rfl, fun segment hmem => ?_⟩
      exact (List.mem_append.mp hmem).imp_right fun h => .inr (List.mem_singleton.mp h)

/-- No segment arises that was not there, but for empty ones. -/
theorem mem_resolveDots {done rest : List (List Char)} {segment : List Char}
    (h : segment ∈ resolveDots done rest) : segment ∈ done ∨ segment = [] ∨ segment ∈ rest := by
  induction rest generalizing done with
  | nil => exact .inl h
  | cons next rest ih =>
    obtain ⟨done', hstep, hdone'⟩ := exists_resolveDots_cons done next rest
    obtain h | h | h := ih (hstep ▸ h)
    · refine (hdone' segment h).imp_right fun h => h.imp_right fun h => ?_
      rw [h]
      exact List.mem_cons_self
    · exact .inr (.inl h)
    · exact .inr (.inr (List.mem_cons_of_mem next h))

/-- Segments that are no dot segments stay. -/
theorem resolveDots_append {done front : List (List Char)}
    (h : ∀ segment ∈ front, isDoubleDot segment = false ∧ isSingleDot segment = false)
    (rest : List (List Char)) :
    resolveDots done (front ++ rest) = resolveDots (done ++ front) rest := by
  induction front generalizing done with
  | nil => rw [List.nil_append, List.append_nil]
  | cons segment front ih =>
    obtain ⟨hsegment, hfront⟩ := List.forall_mem_cons.mp h
    rw [List.cons_append, resolveDots, hsegment.1, hsegment.2]
    simp only [Bool.false_eq_true, if_false]
    rw [ih hfront, List.append_assoc, List.singleton_append]

/-- Segments that a slash ends are cut off one by one. -/
theorem splitOnP_flatMap {front : List (List Char)}
    (h : ∀ segment ∈ front, ∀ c ∈ segment, isSlash c = false) (cs : List Char) :
    (front.flatMap (fun segment => segment ++ ['/']) ++ cs).splitOnP isSlash =
      front ++ cs.splitOnP isSlash := by
  induction front with
  | nil => rfl
  | cons segment front ih =>
    obtain ⟨hsegment, hfront⟩ := List.forall_mem_cons.mp h
    rw [List.flatMap_cons, List.append_assoc, List.append_assoc, List.singleton_append,
      List.splitOnP_append_cons_of_forall_mem hsegment _ rfl, ih hfront, List.cons_append]

/-- Only a backslash is written with a backslash. -/
theorem backslash_mem_encode_iff {cs : List Char} : '\\' ∈ encode pathSet cs ↔ '\\' ∈ cs := by
  have hbyte : ∀ n < 256, '\\' ∈ encodeByte pathSet (UInt8.ofNat n) ↔ n = 0x5c := by
    decide +kernel
  rw [encode, List.mem_flatMap]
  constructor
  · rintro ⟨b, hb, hmem⟩
    obtain ⟨c, hc, hb⟩ := List.mem_flatMap.mp hb
    have hn := (hbyte b.toNat b.toNat_lt).mp (by rwa [UInt8.ofNat_toNat])
    obtain h | h := Text.Utf8.toNat_of_mem_utf8EncodeChar hb
    · have heq : c = '\\' := Char.toNat_inj.mp (h.symm.trans hn)
      exact heq ▸ hc
    · omega
  · intro hmem
    refine ⟨0x5c, List.mem_flatMap.mpr ⟨'\\', hmem, by decide⟩, (hbyte 0x5c (by decide)).mpr rfl⟩

/-! ## Addresses read from their text -/

/-- The text of an address with the given parts. -/
def written (scheme : String) (authority below : List Char) : List Char :=
  scheme.toList ++ ':' :: '/' :: '/' :: (authority ++ '/' :: below)

section

variable {scheme : String} (hscheme : scheme = "http" ∨ scheme = "https")
include hscheme

theorem strip_written {authority below back : List Char} {last : Char}
    (hauthority : IsAuthority authority) (hbelow : ∀ c ∈ below ++ [last], isKept c = true)
    (hlast : isEdge last = false) :
    strip (written scheme authority (below ++ last :: back)) =
      written scheme authority (below ++ last :: stripEnd back) := by
  have hfront : ∀ c ∈ authority ++ '/' :: (below ++ [last]), isKept c = true := by
    intro c hc
    obtain hc | hc := List.mem_append.mp hc
    · exact isKept_of_not_mem (hauthority.undivided c hc)
    · obtain rfl | hc := List.mem_cons.mp hc
      · rfl
      · exact hbelow c hc
  obtain ⟨start, hstart, hkept⟩ : ∃ start, scheme.toList = 'h' :: start ∧
      ('h' :: (start ++ [':', '/', '/'])).all isKept = true := by
    obtain rfl | rfl := hscheme
    · exact ⟨['t', 't', 'p'], rfl, rfl⟩
    · exact ⟨['t', 't', 'p', 's'], rfl, rfl⟩
  have hshape (tail : List Char) : written scheme authority (below ++ last :: tail) =
      'h' :: ((start ++ ':' :: '/' :: '/' :: (authority ++ '/' :: below)) ++ last :: tail) := by
    simp [written, hstart]
  have hparts : 'h' :: ((start ++ ':' :: '/' :: '/' :: (authority ++ '/' :: below)) ++ [last]) =
      ('h' :: (start ++ [':', '/', '/'])) ++ (authority ++ '/' :: (below ++ [last])) := by simp
  rw [hshape, hshape]
  refine strip_append rfl hlast fun c hc => ?_
  rw [hparts] at hc
  obtain hc | hc := List.mem_append.mp hc
  · exact List.all_eq_true.mp hkept c hc
  · exact hfront c hc

/-- **An address is read part by part.** -/
theorem readsAs_of_read? {text : String} {authority below back : List Char} {last : Char} {u : Url}
    (htext : text.toList = written scheme authority (below ++ last :: back))
    (hauthority : IsAuthority authority) (hbelow : ∀ c ∈ below ++ [last], isKept c = true)
    (hlast : isEdge last = false) (h : read? text = some u) :
    u.ReadsAs scheme authority ('/' :: (below ++ last :: stripEnd back)) := by
  have hspan : (written scheme authority (below ++ last :: stripEnd back)).span (· ≠ ':') =
      (scheme.toList,
        ':' :: '/' :: '/' :: (authority ++ '/' :: (below ++ last :: stripEnd back))) := by
    refine span_append_of_neg (fun c hc => decide_eq_true ?_) (by decide)
    rintro rfl
    obtain rfl | rfl := hscheme <;> exact absurd hc (by decide)
  have hlower : String.ofList (Text.lower scheme.toList) = scheme := by
    obtain rfl | rfl := hscheme <;> rfl
  rw [read?, htext, strip_written hscheme hauthority hbelow hlast, hspan] at h
  dsimp only at h
  rw [hlower] at h
  obtain rfl | rfl := hscheme <;> exact readsAs_of_readAfterScheme? hauthority h

end

end Url

end QueryClient
