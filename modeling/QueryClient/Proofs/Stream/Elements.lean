import QueryClient.Proofs.Stream.Scan
import QueryClient.Stream.Elements

/-!
# The elements of an array in well-formed text

In the text of an object the stream finds the first member with the wanted name, and if its value is
an array, the elements one after the other. `Holds` says what is ahead of a stream; a call of `next`
takes the first of it (`next_of_holds`). Main statement: `locate_objectText`.
-/

namespace QueryClient.ElementStream

open Json (Blanks WholeText StringText ItemsTail Enclosed MemberText ValueText ArrayText Spells
  IsMember ObjectText blanks_nil)
open Scan

variable (field : String) (policy : TransientPolicy) {i : Input} {rest : List UInt8}

/-! ## Where a value starts and what comes after it -/

/-- A value does not start with a blank, a comma or a closing bracket. -/
theorem head_of_valueText {t : List UInt8} (h : ValueText t) :
    ∃ b bs, t = b :: bs ∧ endsScalar b = false := by
  cases h with
  | scalar ht =>
    obtain ⟨b, bs, rfl⟩ := List.exists_cons_of_ne_nil (ne_nil_of_scalarText ht)
    have hb := isWord_of_mem_scalarText ht b List.mem_cons_self
    simp only [isWord, Bool.and_eq_true, Bool.not_eq_true'] at hb
    exact ⟨b, bs, rfl, hb.1.1.1⟩
  | string => exact ⟨_, _, rfl, rfl⟩
  | array => exact ⟨_, _, rfl, rfl⟩
  | object => exact ⟨_, _, rfl, rfl⟩

theorem isBlank_of_endsScalar {b : UInt8} (h : endsScalar b = false) : Ascii.isBlank b = false := by
  simp only [endsScalar, Bool.or_eq_false_iff] at h
  exact h.2

theorem ne_of_endsScalar {b c : UInt8} (h : endsScalar b = false) (hc : endsScalar c = true) :
    b ≠ c := by
  rintro rfl
  rw [h] at hc
  exact Bool.false_ne_true hc

theorem endsScalar_of_isBlank {b : UInt8} (h : Json.Tree.isBlank b = true) :
    endsScalar b = true := by
  simp only [endsScalar, isBlank_of_isBlank h, Bool.or_true]

theorem delimited_blanks_append {r bs : List UInt8} {b : UInt8} (hr : Blanks r)
    (hb : endsScalar b = true) : Delimited (r ++ b :: bs) := by
  cases r with
  | nil => exact delimited_cons hb
  | cons c r => exact delimited_cons (endsScalar_of_isBlank (hr c List.mem_cons_self))

/-! ## The next element -/

theorem nextText_close {position : Position} {l : List UInt8} (hl : Blanks l)
    (h : i.Brings (l ++ Ascii.closeBracket :: rest)) :
    Reaches (nextText position policy i) none rest := by
  obtain ⟨j, hblanks, hj⟩ := skipBlanks_blanks policy hl (solid_cons rfl) h
  obtain ⟨k, hpeek, -, hconsume⟩ := peek_cons policy hj
  refine ⟨k.consume, ?_, hconsume⟩
  unfold nextText
  simp only [hblanks, hpeek, if_true]

theorem nextText_first {l e : List UInt8} (hl : Blanks l) (he : ValueText e)
    (hrest : Delimited rest) (h : i.Brings (l ++ (e ++ rest))) :
    Reaches (nextText .first policy i) (some e) rest := by
  obtain ⟨b, bs, rfl, hb⟩ := head_of_valueText he
  obtain ⟨j, hblanks, hj⟩ := skipBlanks_blanks policy hl
    (solid_cons (isBlank_of_endsScalar hb)) h
  obtain ⟨k, hpeek, hk, -⟩ := peek_cons policy hj
  obtain ⟨m, hvalue, hm⟩ := value_of_valueText policy he hrest hk
  refine ⟨m, ?_, hm⟩
  have hclose : b ≠ Ascii.closeBracket := ne_of_endsScalar hb rfl
  unfold nextText
  simp only [hblanks, hpeek, Option.some.injEq, hclose, if_false, reduceCtorEq, hvalue]

theorem nextText_rest {r l e : List UInt8} (hr : Blanks r) (hl : Blanks l) (he : ValueText e)
    (hrest : Delimited rest) (h : i.Brings (r ++ Ascii.comma :: (l ++ (e ++ rest)))) :
    Reaches (nextText .rest policy i) (some e) rest := by
  obtain ⟨b, bs, rfl, hb⟩ := head_of_valueText he
  obtain ⟨j, hblanks, hj⟩ := skipBlanks_blanks policy hr (solid_cons rfl) h
  obtain ⟨k, hpeek, hk, -⟩ := peek_cons policy hj
  obtain ⟨m, hexpect, hm⟩ := expect_cons policy hk
  obtain ⟨n, hblanks', hn⟩ := skipBlanks_blanks policy hl
    (solid_cons (isBlank_of_endsScalar hb)) hm
  obtain ⟨p, hvalue, hp⟩ := value_of_valueText policy he hrest hn
  refine ⟨p, ?_, hp⟩
  have hclose : Ascii.comma ≠ Ascii.closeBracket := by decide
  unfold nextText
  simp only [hblanks, hpeek, Option.some.injEq, hclose, if_false, if_true, hexpect, hblanks',
    hvalue]

/-! ## What is ahead of a stream -/

/-- The elements that a stream has still to deliver, by their texts. -/
inductive Holds : ElementStream → List (List UInt8) → Prop
  | first {s es tail after} : s.position = .first → (∀ e ∈ es, ValueText e) →
      Enclosed Ascii.closeBracket es tail → s.input.Brings (tail ++ after) → Holds s es
  | rest {s es r tail after} : s.position = .rest → (∀ e ∈ es, ValueText e) → Blanks r →
      ItemsTail Ascii.closeBracket es tail →
      s.input.Brings (r ++ Ascii.comma :: (tail ++ after)) → Holds s es
  | last {s r after} : s.position = .rest → Blanks r →
      s.input.Brings (r ++ Ascii.closeBracket :: after) → Holds s []
  | done {s} : s.position = .done → Holds s []

/-- What a call of `next` answers, given the text of the element that comes next. -/
def answer : Option (List UInt8) → Result (Option Json)
  | none => .ok none
  | some e =>
    match Json.read? e with
    | some j => .ok (some j)
    | none => .error (.protocol "malformed result row")

theorem next_of_text {s : ElementStream} {e : List UInt8} {j : Input} (hs : s.position ≠ .done)
    (h : nextText s.position s.policy s.input = .ok (some e) j) :
    s.next = (answer (some e), { s with input := j, position := .rest }) := by
  unfold next
  rw [if_neg hs, h]
  simp only [answer]
  cases Json.read? e with
  | none => rfl
  | some j => rfl

theorem next_of_end {s : ElementStream} {j : Input} (hs : s.position ≠ .done)
    (h : nextText s.position s.policy s.input = .ok none j) :
    s.next = (answer none, { s with input := j, position := .done }) := by
  unfold next
  rw [if_neg hs, h]
  rfl

/-- At least one element: the first of them, and what is ahead of a stream behind it. -/
theorem split_itemsTail {es : List (List UInt8)} {tail : List UInt8} (after : List UInt8)
    (hes : ∀ e ∈ es, ValueText e) (h : ItemsTail Ascii.closeBracket es tail) :
    ∃ l e rest es', es = e :: es' ∧ tail ++ after = l ++ (e ++ rest) ∧ Blanks l ∧ ValueText e ∧
      Delimited rest ∧
      ∀ s : ElementStream, s.position = .rest → s.input.Brings rest → Holds s es' := by
  cases h with
  | @last l e r hl hr =>
    refine ⟨l, e, r ++ Ascii.closeBracket :: after, [], rfl, by simp, hl,
      hes e List.mem_cons_self, delimited_blanks_append hr rfl, ?_⟩
    intro s hs hinput
    exact .last hs hr hinput
  | @more l e r es tail hl hr htail =>
    refine ⟨l, e, r ++ Ascii.comma :: (tail ++ after), es, rfl, by simp, hl,
      hes e List.mem_cons_self, delimited_blanks_append hr rfl, ?_⟩
    intro s hs hinput
    exact .rest hs (fun e' he' => hes e' (List.mem_cons_of_mem e he')) hr htail hinput

theorem next_element {s : ElementStream} {e : List UInt8} {rest : List UInt8}
    {es : List (List UInt8)} (hs : s.position ≠ .done)
    (h : Reaches (nextText s.position s.policy s.input) (some e) rest)
    (hafter : ∀ s : ElementStream, s.position = .rest → s.input.Brings rest → Holds s es) :
    ∃ s', s.next = (answer (some e), s') ∧ Holds s' es ∧ s'.isDone = false := by
  obtain ⟨j, htext, hj⟩ := h
  exact ⟨_, next_of_text hs htext, hafter _ rfl hj, rfl⟩

theorem next_end {s : ElementStream} {rest : List UInt8} (hs : s.position ≠ .done)
    (h : Reaches (nextText s.position s.policy s.input) none rest) :
    ∃ s', s.next = (answer none, s') ∧ Holds s' [] ∧ s'.isDone = true := by
  obtain ⟨j, htext, hj⟩ := h
  exact ⟨_, next_of_end hs htext, .done rfl, rfl⟩

/-- **A call of `next` takes the first of the elements ahead**, and finds the end if there is
none. -/
theorem next_of_holds {s : ElementStream} {es : List (List UInt8)} (h : Holds s es) :
    ∃ s', s.next = (answer es.head?, s') ∧ Holds s' es.tail ∧ s'.isDone = es.isEmpty := by
  cases h with
  | @first es tail after hs hes htail hinput =>
    have hdone : s.position ≠ .done := by
      rw [hs]
      decide
    cases htail with
    | empty hl =>
      rw [List.append_assoc] at hinput
      exact next_end hdone (nextText_close _ hl hinput)
    | items htail =>
      obtain ⟨l, e, rest, es', rfl, htext, hl, he, hrest, hafter⟩ := split_itemsTail after hes htail
      rw [htext] at hinput
      apply next_element hdone _ hafter
      rw [hs]
      exact nextText_first _ hl he hrest hinput
  | @rest es r tail after hs hes hr htail hinput =>
    have hdone : s.position ≠ .done := by
      rw [hs]
      decide
    obtain ⟨l, e, rest, es', rfl, htext, hl, he, hrest, hafter⟩ := split_itemsTail after hes htail
    rw [htext] at hinput
    apply next_element hdone _ hafter
    rw [hs]
    exact nextText_rest _ hr hl he hrest hinput
  | last hs hr hinput =>
    have hdone : s.position ≠ .done := by
      rw [hs]
      decide
    exact next_end hdone (nextText_close _ hr hinput)
  | done hs =>
    refine ⟨s, ?_, .done hs, ?_⟩
    · unfold next
      rw [if_pos hs]
      rfl
    · simp [isDone, hs]

/-! ## Call after call -/

/-- The stream after a number of calls of `next`. -/
def skip : Nat → ElementStream → ElementStream
  | 0, s => s
  | n + 1, s => skip n s.next.2

theorem holds_skip {s : ElementStream} {es : List (List UInt8)} (h : Holds s es) (n : Nat) :
    Holds (s.skip n) (es.drop n) := by
  induction n generalizing s es with
  | zero => exact h
  | succ n ih =>
    obtain ⟨s', hnext, htail, -⟩ := next_of_holds h
    have hskip := ih htail
    rw [List.drop_tail] at hskip
    rw [skip, hnext]
    exact hskip

theorem isDone_skip_of_isDone {s : ElementStream} (h : s.isDone = true) (n : Nat) :
    (s.skip n).isDone = true := by
  induction n with
  | zero => exact h
  | succ n ih =>
    have hs : s.position = .done := by simpa [isDone] using h
    have hnext : s.next = (.ok none, s) := by
      unfold next
      rw [if_pos hs]
    rw [skip, hnext]
    exact ih

/-- The end is noticed by the call that asks for an element and finds none. -/
theorem isDone_skip {s : ElementStream} {es : List (List UInt8)} (h : Holds s es)
    (hs : s.isDone = false) (n : Nat) : (s.skip n).isDone = true ↔ es.length < n := by
  induction n generalizing s es with
  | zero => simp [skip, hs]
  | succ n ih =>
    obtain ⟨s', hnext, htail, hdone⟩ := next_of_holds h
    rw [skip, hnext]
    cases es with
    | nil =>
      -- the first call has met the end, and the others stay there
      simp [isDone_skip_of_isDone hdone n]
    | cons e es =>
      rw [ih htail hdone]
      simp

/-! ## Finding the array -/

/-- The steps of the search, each of which may fail. -/
theorem seekField_eq (i : Input) :
    seekField field policy i =
      match skipBlanks policy i with
      | .error e j => .error e j
      | .ok () j =>
        match peek policy j with
        | .error e k => .error e k
        | .ok b k =>
          if b = some Ascii.closeBrace then
            .error (.protocol ("'" ++ field ++ "' not found in response")) k
          else if b = some Ascii.comma then seekField field policy k.consume
          else
            match fieldName policy k with
            | .error e l => .error e l
            | .ok name l =>
              match colon policy l with
              | .error e m => .error e m
              | .ok () m =>
                if name = field then enterArray field policy m
                else
                  match value policy m with
                  | .error e n => .error e n
                  | .ok _ n => seekField field policy n := by
  -- the definition also carries the sizes that show its termination
  rw [seekField]
  split
  · next hs => rw [hs]
  · next hs =>
    simp only [hs]
    split
    · next hp => rw [hp]
    · next hp =>
      simp only [hp]
      split
      · rfl
      · split
        · rfl
        · split
          · next hn => rw [hn]
          · next hn =>
            simp only [hn]
            split
            · next hc => rw [hc]
            · next hc =>
              simp only [hc]
              split
              · rfl
              · split
                · next hv => rw [hv]
                · next hv => rw [hv]

theorem seekField_close {l : List UInt8} (hl : Blanks l)
    (h : i.Brings (l ++ Ascii.closeBrace :: rest)) :
    ∃ j, seekField field policy i =
      .error (.protocol ("'" ++ field ++ "' not found in response")) j := by
  obtain ⟨j, hblanks, hj⟩ := skipBlanks_blanks policy hl (solid_cons rfl) h
  obtain ⟨k, hpeek, -, -⟩ := peek_cons policy hj
  refine ⟨k, ?_⟩
  rw [seekField_eq]
  simp only [hblanks, hpeek, if_true]

theorem seekField_comma {l : List UInt8} (hl : Blanks l)
    (h : i.Brings (l ++ Ascii.comma :: rest)) :
    ∃ j, j.Brings rest ∧ seekField field policy i = seekField field policy j := by
  obtain ⟨j, hblanks, hj⟩ := skipBlanks_blanks policy hl (solid_cons rfl) h
  obtain ⟨k, hpeek, -, hconsume⟩ := peek_cons policy hj
  have hne : some Ascii.comma ≠ some Ascii.closeBrace := by decide
  refine ⟨k.consume, hconsume, ?_⟩
  rw [seekField_eq]
  simp only [hblanks, hpeek, hne, if_false, if_true]

/-- At a member the search goes into its value or past it. -/
theorem seekField_member {l text : List UInt8} {m : String × List UInt8} (hl : Blanks l)
    (hm : IsMember m text) (h : i.Brings (l ++ (text ++ rest))) :
    ∃ j, j.Brings (m.2 ++ rest) ∧ seekField field policy i =
      if m.1 = field then enterArray field policy j
      else
        match value policy j with
        | .error e n => .error e n
        | .ok _ n => seekField field policy n := by
  obtain ⟨hvalue, name, hname, hgaps⟩ := hm
  obtain ⟨b, bs, hstart, hb⟩ := head_of_valueText hvalue
  obtain ⟨hleft, hright⟩ := hgaps
  simp only [List.cons_append, List.append_assoc] at h
  obtain ⟨j, hblanks, hj⟩ := skipBlanks_blanks policy hl (solid_cons rfl) h
  obtain ⟨k, hpeek, hk, -⟩ := peek_cons policy hj
  obtain ⟨n, hfield, hn⟩ := fieldName_spells policy hname hk
  have hsolid : Solid (m.2 ++ rest) := by
    rw [hstart]
    exact solid_cons (isBlank_of_endsScalar hb)
  obtain ⟨p, hcolon, hp⟩ := colon_blanks policy hleft hright hsolid hn
  have hbrace : some Ascii.quote ≠ some Ascii.closeBrace := by decide
  have hcomma : some Ascii.quote ≠ some Ascii.comma := by decide
  refine ⟨p, hp, ?_⟩
  rw [seekField_eq]
  simp only [hblanks, hpeek, hbrace, hcomma, if_false, hfield, hcolon]

theorem seekField_found {l text : List UInt8} {m : String × List UInt8} (hl : Blanks l)
    (hm : IsMember m text) (hname : m.1 = field) (h : i.Brings (l ++ (text ++ rest))) :
    ∃ j, j.Brings (m.2 ++ rest) ∧ seekField field policy i = enterArray field policy j := by
  obtain ⟨j, hj, hstep⟩ := seekField_member field policy hl hm h
  rw [if_pos hname] at hstep
  exact ⟨j, hj, hstep⟩

theorem seekField_past {l text : List UInt8} {m : String × List UInt8} (hl : Blanks l)
    (hm : IsMember m text) (hname : m.1 ≠ field) (hrest : Delimited rest)
    (h : i.Brings (l ++ (text ++ rest))) :
    ∃ j, j.Brings rest ∧ seekField field policy i = seekField field policy j := by
  obtain ⟨j, hj, hstep⟩ := seekField_member field policy hl hm h
  obtain ⟨k, hvalue, hk⟩ := value_of_valueText policy hm.1 hrest hj
  refine ⟨k, hk, ?_⟩
  rw [hstep, if_neg hname, hvalue]

/-- The first of the members with the wanted name, if there is one. -/
def firstNamed (field : String) (members : List (String × List UInt8)) :
    Option (String × List UInt8) :=
  members.find? fun m => m.1 = field

/-- The search ends at the value of the first member with the wanted name. -/
theorem seekField_itemsTail {members : List (String × List UInt8)} {texts : List (List UInt8)}
    {tail after : List UInt8} (htail : ItemsTail Ascii.closeBrace texts tail)
    (hmembers : List.Forall₂ IsMember members texts) (h : i.Brings (tail ++ after)) :
    match firstNamed field members with
    | none => ∃ j, seekField field policy i =
        .error (.protocol ("'" ++ field ++ "' not found in response")) j
    | some m => ∃ j rest, j.Brings (m.2 ++ rest) ∧
        seekField field policy i = enterArray field policy j := by
  induction htail generalizing members i with
  | @last l text r hl hr =>
    obtain ⟨m, members, hm, hnil, rfl⟩ := List.forall₂_cons_right_iff.mp hmembers
    obtain rfl := List.forall₂_nil_right_iff.mp hnil
    simp only [List.append_assoc, List.cons_append, List.nil_append] at h
    by_cases hname : m.1 = field
    · obtain ⟨j, hj, hfound⟩ := seekField_found field policy hl hm hname h
      rw [firstNamed, List.find?_cons_of_pos (by simpa using hname)]
      exact ⟨j, _, hj, hfound⟩
    · -- past the last member there is only the closing brace
      obtain ⟨j, hj, hpast⟩ :=
        seekField_past field policy hl hm hname (delimited_blanks_append hr rfl) h
      obtain ⟨k, hclose⟩ := seekField_close field policy hr hj
      rw [firstNamed, List.find?_cons_of_neg (by simpa using hname), List.find?_nil]
      exact ⟨k, hpast.trans hclose⟩
  | @more l text r texts tail hl hr _ ih =>
    obtain ⟨m, members, hm, hrest, rfl⟩ := List.forall₂_cons_right_iff.mp hmembers
    simp only [List.append_assoc, List.cons_append] at h
    by_cases hname : m.1 = field
    · obtain ⟨j, hj, hfound⟩ := seekField_found field policy hl hm hname h
      rw [firstNamed, List.find?_cons_of_pos (by simpa using hname)]
      exact ⟨j, _, hj, hfound⟩
    · obtain ⟨j, hj, hpast⟩ :=
        seekField_past field policy hl hm hname (delimited_blanks_append hr rfl) h
      obtain ⟨k, hk, hcomma⟩ := seekField_comma field policy hr hj
      rw [firstNamed, List.find?_cons_of_neg (by simpa using hname), hpast, hcomma]
      exact ih hrest hk

theorem seekField_enclosed {members : List (String × List UInt8)} {texts : List (List UInt8)}
    {tail after : List UInt8} (htail : Enclosed Ascii.closeBrace texts tail)
    (hmembers : List.Forall₂ IsMember members texts) (h : i.Brings (tail ++ after)) :
    match firstNamed field members with
    | none => ∃ j, seekField field policy i =
        .error (.protocol ("'" ++ field ++ "' not found in response")) j
    | some m => ∃ j rest, j.Brings (m.2 ++ rest) ∧
        seekField field policy i = enterArray field policy j := by
  cases htail with
  | empty hl =>
    obtain rfl := List.forall₂_nil_right_iff.mp hmembers
    rw [List.append_assoc] at h
    exact seekField_close field policy hl h
  | items htail => exact seekField_itemsTail field policy htail hmembers h

theorem enterArray_array (h : i.Brings (Ascii.openBracket :: rest)) :
    Reaches (enterArray field policy i) () rest := by
  obtain ⟨j, hpeek, -, hconsume⟩ := peek_cons policy h
  refine ⟨j.consume, ?_, hconsume⟩
  unfold enterArray
  simp only [hpeek, if_true]

theorem enterArray_other {b : UInt8} (hb : b ≠ Ascii.openBracket) (h : i.Brings (b :: rest)) :
    ∃ j, enterArray field policy i =
      .error (.protocol ("'" ++ field ++ "' is not an array")) j := by
  obtain ⟨j, hpeek, -, -⟩ := peek_cons policy h
  refine ⟨j, ?_⟩
  unfold enterArray
  simp only [hpeek, Option.some.injEq, hb, if_false]

/-- A value that starts with a square bracket is an array. -/
theorem head_of_not_arrayText {t : List UInt8} (ht : ValueText t)
    (h : ∀ elements, ¬ArrayText elements t) : ∃ b bs, t = b :: bs ∧ b ≠ Ascii.openBracket := by
  cases ht with
  | scalar ht =>
    obtain ⟨b, bs, rfl⟩ := List.exists_cons_of_ne_nil (ne_nil_of_scalarText ht)
    have hb := isWord_of_mem_scalarText ht b List.mem_cons_self
    simp only [isWord, Bool.and_eq_true, bne_iff_ne] at hb
    exact ⟨b, bs, rfl, hb.2⟩
  | string => exact ⟨_, _, rfl, by decide⟩
  | @array items tail hitems htail => exact absurd ⟨hitems, tail, htail, rfl⟩ (h items)
  | object => exact ⟨_, _, rfl, by decide⟩

/-- Before the members the search has nothing to do but to step into the object. -/
theorem locate_objectText_eq {members : List (String × List UInt8)} {text : List UInt8}
    (h : ObjectText members text) (hi : i.Brings text) :
    ∃ j texts tail after, j.Brings (tail ++ after) ∧
      Enclosed Ascii.closeBrace texts tail ∧ List.Forall₂ IsMember members texts ∧
      locate field policy i =
        match seekField field policy j with
        | .error e l => .error e l
        | .ok () l => .ok ⟨l, policy, .first⟩ l := by
  obtain ⟨texts, l, tail, after, hl, -, rfl, htail, hmembers⟩ := h
  obtain ⟨j, hblanks, hj⟩ := skipBlanks_blanks policy hl (solid_cons rfl) hi
  obtain ⟨k, hexpect, hk⟩ := expect_cons policy hj
  refine ⟨k, texts, tail, after, hk, htail, hmembers, ?_⟩
  unfold locate
  cases hseek : seekField field policy k with
  | ok => simp only [hblanks, hexpect, hseek]
  | error => simp only [hblanks, hexpect, hseek]

theorem valueText_of_mem {members : List (String × List UInt8)} {texts : List (List UInt8)}
    (h : List.Forall₂ IsMember members texts) : ∀ m ∈ members, ValueText m.2 := by
  induction h with
  | nil => exact fun m hm => absurd hm List.not_mem_nil
  | cons hm _ ih =>
    intro m' hm'
    rcases List.mem_cons.mp hm' with rfl | hm'
    · exact hm.1
    · exact ih m' hm'

/-- **The first member with the wanted name decides.** If its value is an array, the stream delivers
its elements in order, each as the reader reads it, and then nothing; any other value is refused,
and so is an object without such a member. -/
theorem locate_objectText {members : List (String × List UInt8)} {text : List UInt8}
    (h : ObjectText members text) (field : String) (policy : TransientPolicy) {i : Input}
    (hi : i.Brings text) :
    (∀ m elements, firstNamed field members = some m → ArrayText elements m.2 →
      ∃ s j, locate field policy i = .ok s j ∧
        ∀ n, (s.skip n).next.1 = answer elements[n]? ∧
          ((s.skip n).isDone = true ↔ elements.length < n)) ∧
    (∀ m, firstNamed field members = some m → (∀ elements, ¬ArrayText elements m.2) →
      ∃ j, locate field policy i =
        .error (.protocol ("'" ++ field ++ "' is not an array")) j) ∧
    (firstNamed field members = none →
      ∃ j, locate field policy i =
        .error (.protocol ("'" ++ field ++ "' not found in response")) j) := by
  obtain ⟨j, texts, tail, after, hj, htail, hmembers, hlocate⟩ :=
    locate_objectText_eq field policy h hi
  have hseek := seekField_enclosed field policy htail hmembers hj
  refine ⟨?_, ?_, ?_⟩
  · rintro m elements hfind ⟨helements, array, harray, hm⟩
    rw [hfind] at hseek
    obtain ⟨k, rest, hk, hstep⟩ := hseek
    rw [hm] at hk
    obtain ⟨l, henter, hl⟩ := enterArray_array field policy hk
    have hs : Holds ⟨l, policy, .first⟩ elements := .first rfl helements harray hl
    refine ⟨⟨l, policy, .first⟩, l, ?_, ?_⟩
    · rw [hlocate, hstep, henter]
    · intro n
      obtain ⟨s', hnext, -, -⟩ := next_of_holds (holds_skip hs n)
      refine ⟨?_, isDone_skip hs rfl n⟩
      rw [hnext, List.head?_drop]
  · intro m hfind hm
    have hvalue := valueText_of_mem hmembers m (List.mem_of_find?_eq_some hfind)
    obtain ⟨b, bs, hstart, hb⟩ := head_of_not_arrayText hvalue hm
    rw [hfind] at hseek
    obtain ⟨k, rest, hk, hstep⟩ := hseek
    rw [hstart] at hk
    obtain ⟨l, henter⟩ := enterArray_other field policy hb hk
    exact ⟨l, by rw [hlocate, hstep, henter]⟩
  · intro hfind
    rw [hfind] at hseek
    obtain ⟨k, hstep⟩ := hseek
    exact ⟨k, by rw [hlocate, hstep]⟩

/-- An array that is found is ahead of the stream. -/
theorem locate_array {members : List (String × List UInt8)} {text : List UInt8}
    (h : ObjectText members text) (field : String) (policy : TransientPolicy) {i : Input}
    (hi : i.Brings text) {m : String × List UInt8} {elements : List (List UInt8)}
    (hfind : firstNamed field members = some m) (harray : ArrayText elements m.2) :
    ∃ s j, locate field policy i = .ok s j ∧ Holds s elements := by
  obtain ⟨j, texts, tail, after, hj, htail, hmembers, hlocate⟩ :=
    locate_objectText_eq field policy h hi
  have hseek := seekField_enclosed field policy htail hmembers hj
  rw [hfind] at hseek
  obtain ⟨k, rest, hk, hstep⟩ := hseek
  obtain ⟨helements, array, henclosed, hm⟩ := harray
  rw [hm] at hk
  obtain ⟨l, henter, hl⟩ := enterArray_array field policy hk
  exact ⟨⟨l, policy, .first⟩, l, by rw [hlocate, hstep, henter],
    .first rfl helements henclosed hl⟩

/-! ### An object with brackets in a string, an escape in a name and the wanted name further in -/

def nestedText : List UInt8 :=
  Text.Utf8.encode "\x7b\"a\":[\x7b\"rows\":\"]\"\x7d], \"r\\u006fws\" : [ 1 ,[]]\x7d".toList

def nestedMembers : List (String × List UInt8) :=
  [("a", Text.Utf8.encode "[\x7b\"rows\":\"]\"\x7d]".toList),
    ("rows", Text.Utf8.encode "[ 1 ,[]]".toList)]

theorem blanks_space : Blanks [0x20] := by
  intro b hb
  rw [List.mem_singleton.mp hb]
  rfl

/-- The only item, with nothing but the closing bracket behind it. -/
theorem itemsTail_single (close : UInt8) (item : List UInt8) :
    ItemsTail close [item] (item ++ [close]) := .last blanks_nil blanks_nil

theorem arrayText_rows :
    ArrayText [[0x31], [0x5b, 0x5d]] (Text.Utf8.encode "[ 1 ,[]]".toList) := by
  have hwhole : WholeText [0x31] := ⟨⟨List.cons_ne_nil _ _, List.all_eq_true.mp rfl⟩, fun _ => rfl⟩
  have hone : ValueText [0x31] := .scalar (.number (.inl rfl) hwhole .none .none)
  have htail : Enclosed Ascii.closeBracket [] [0x5d] := .empty blanks_nil
  have hempty : ValueText [0x5b, 0x5d] :=
    .array (fun _ h => absurd h List.not_mem_nil) htail
  refine ⟨?_, Text.Utf8.encode " 1 ,[]]".toList, ?_, rfl⟩
  · intro e he
    simp only [List.mem_cons, List.not_mem_nil, or_false] at he
    rcases he with rfl | rfl
    · exact hone
    · exact hempty
  · exact .items (.more blanks_space blanks_space (itemsTail_single _ _))

theorem isMember_a :
    IsMember ("a", Text.Utf8.encode "[\x7b\"rows\":\"]\"\x7d]".toList)
      (Text.Utf8.encode "\"a\":[\x7b\"rows\":\"]\"\x7d]".toList) := by
  have hname : StringText (Text.Utf8.encode "rows".toList) :=
    .plain (by decide) (by decide) (by decide) (.plain (by decide) (by decide) (by decide)
      (.plain (by decide) (by decide) (by decide)
        (.plain (by decide) (by decide) (by decide) .nil)))
  have hstring : StringText [0x5d] := .plain (by decide) (by decide) (by decide) .nil
  have hmembers : List.Forall₂ (fun (m : List UInt8 × List UInt8) t => MemberText m.1 m.2 t)
      [(Text.Utf8.encode "rows".toList, Text.Utf8.encode "\"]\"".toList)]
      [Text.Utf8.encode "\"rows\":\"]\"".toList] := .cons (.mk blanks_nil blanks_nil) .nil
  have hobject : ValueText (Text.Utf8.encode "\x7b\"rows\":\"]\"\x7d".toList) := by
    apply ValueText.object _ _ hmembers (.items (itemsTail_single _ _))
    · intro m hm
      rw [List.mem_singleton.mp hm]
      exact hname
    · intro m hm
      rw [List.mem_singleton.mp hm]
      exact .string hstring
  refine ⟨?_, _, .plain (c := 'a') (by decide) (by decide) (by decide) .nil,
    .mk blanks_nil blanks_nil⟩
  have htail : Enclosed Ascii.closeBracket [Text.Utf8.encode "\x7b\"rows\":\"]\"\x7d".toList]
      (Text.Utf8.encode "\x7b\"rows\":\"]\"\x7d]".toList) := .items (itemsTail_single _ _)
  apply ValueText.array _ htail
  intro item hitem
  rw [List.mem_singleton.mp hitem]
  exact hobject

theorem objectText_nested : ObjectText nestedMembers nestedText := by
  have hunit : Json.Tree.hexQuad? 0x30 0x30 0x36 0x66 = some 0x6f := by decide
  have hname : Spells (Text.Utf8.encode "r\\u006fws".toList) "rows".toList :=
    .plain (c := 'r') (by decide) (by decide) (by decide)
      (.unit hunit (by decide)
        (.plain (c := 'w') (by decide) (by decide) (by decide)
          (.plain (c := 's') (by decide) (by decide) (by decide) .nil)))
  have hrows : IsMember ("rows", Text.Utf8.encode "[ 1 ,[]]".toList)
      (Text.Utf8.encode "\"r\\u006fws\" : [ 1 ,[]]".toList) :=
    ⟨arrayText_rows.valueText, _, hname, .mk blanks_space blanks_space⟩
  have htail : Enclosed Ascii.closeBrace
      [Text.Utf8.encode "\"a\":[\x7b\"rows\":\"]\"\x7d]".toList,
        Text.Utf8.encode "\"r\\u006fws\" : [ 1 ,[]]".toList]
      (Text.Utf8.encode "\"a\":[\x7b\"rows\":\"]\"\x7d], \"r\\u006fws\" : [ 1 ,[]]\x7d".toList) :=
    .items (.more blanks_nil blanks_nil (.last blanks_space blanks_nil))
  exact ⟨_, [], _, [], blanks_nil, blanks_nil, rfl, htail, .cons isMember_a (.cons hrows .nil)⟩

theorem locate_nested :
    let i : Input := .ofRefills [.bytes (nestedText.take 9), .bytes [], .bytes (nestedText.drop 9)]
    ObjectText nestedMembers nestedText ∧ i.Brings nestedText ∧
      ∃ s j, locate "rows" .never i = .ok s j ∧ (s.skip 1).next.1 = .ok (some (.array [])) ∧
        (s.skip 2).next.1 = .ok none ∧ (s.skip 3).isDone = true := by
  intro i
  have hi : i.Brings nestedText := Input.brings_ofRefills rfl
  obtain ⟨hfound, -, -⟩ := locate_objectText objectText_nested "rows" .never hi
  obtain ⟨s, j, hlocate, hcalls⟩ := hfound _ _ rfl arrayText_rows
  exact ⟨objectText_nested, hi, s, j, hlocate, (hcalls 1).1.trans (by cbv), (hcalls 2).1,
    (hcalls 3).2.mpr (by decide)⟩

end QueryClient.ElementStream
