import QueryClient.Proofs.Stream.Span

/-!
# Reading side by side with an input that fails

Two inputs bring the same bytes, and one of them fails at an offset. A scan of the one goes along
with the same scan of the other until it looks at that offset; then it fails with what the policy
makes of the failure. `Strike.Lockstep` says so of a scan, and going on keeps it
(`Lockstep.andThen`), so that following the steps of a scan once shows it. How far the input without
the failure has been looked at tells whether the failure has been met, since no scan goes back
(`Lockstep.onward`). Main statement: `nextText_lockstep`.
-/

namespace QueryClient

/-! ## Inputs that fail -/

/-- The input brings the bytes but for the failure: it fails at the offset at which the fault
starts, either once, to bring `after` then, or from there on. A fault behind the end is not met. -/
inductive Input.Meets (fault : Fault) (after : List UInt8) (i : Input) : List UInt8 → Prop
  | beyond {bs} : i.Brings bs → i.offset + bs.length < fault.start → Meets fault after i bs
  | once {before} : fault.once = true → i.offset + before.length = fault.start →
      i.ahead = before.map .ok ++ .error fault.failure :: after.map .ok → i.ending = none →
      Meets fault after i (before ++ after)
  | always {before} : fault.once = false → i.offset + before.length = fault.start →
      i.ahead = before.map .ok → i.ending = some fault.failure →
      Meets fault after i (before ++ after)

namespace Input

theorem brought_append (before after : List Refill) :
    brought (before ++ after) = brought before ++ brought after := by
  induction before with
  | nil => rfl
  | cons refill before ih =>
    cases refill with
    | bytes bs => simp only [List.cons_append, brought, ih, List.append_assoc]
    | failure f => simp only [List.cons_append, brought, ih]

theorem brought_chunked (size : Nat) (bs : List UInt8) :
    brought (chunked size bs) = bs.map .ok := by
  fun_induction chunked size bs with
  | case1 => simp [brought]
  | case2 bs _ ih =>
    rw [brought, ih, ← List.map_append, List.take_append_drop]

/-- Bytes that are brought in refills of one size, with a fault on the way. -/
theorem meets_ofBytes (size : Nat) (body : List UInt8) (fault : Fault) :
    (ofBytes size body (some fault)).Meets fault (body.drop fault.start) body := by
  by_cases hlength : body.length < fault.start
  · simp only [ofBytes, hlength, if_true]
    apply Meets.beyond (brings_ofRefills (brought_chunked size body))
    rw [ofRefills, Nat.zero_add]
    exact hlength
  · have htake : 0 + (body.take fault.start).length = fault.start := by
      rw [List.length_take]
      omega
    have hbody : body = body.take fault.start ++ body.drop fault.start :=
      (List.take_append_drop ..).symm
    simp only [ofBytes, hlength, if_false]
    cases honce : fault.once with
    | true =>
      rw [if_pos rfl]
      have hmeets : (ofRefills (chunked size (body.take fault.start) ++ .failure fault.failure ::
          chunked size (body.drop fault.start))).Meets fault (body.drop fault.start)
            (body.take fault.start ++ body.drop fault.start) := by
        apply Meets.once honce htake _ rfl
        show brought (chunked size (body.take fault.start) ++ .failure fault.failure ::
          chunked size (body.drop fault.start)) = _
        rw [brought_append, brought_chunked, brought, brought_chunked]
      rwa [← hbody] at hmeets
    | false =>
      rw [if_neg Bool.false_ne_true]
      have hmeets : Meets fault (body.drop fault.start)
          { ofRefills (chunked size (body.take fault.start)) with ending := some fault.failure }
            (body.take fault.start ++ body.drop fault.start) := by
        apply Meets.always honce htake _ rfl
        exact brought_chunked size (body.take fault.start)
      rwa [← hbody] at hmeets

/-! ## One byte -/

theorem settle_of_brought_error {buffer : List UInt8} {refills : List Refill} {f : IoFailure}
    {rest : List (Except IoFailure UInt8)}
    (h : buffer.map Except.ok ++ brought refills = .error f :: rest) :
    ∃ refills', settle buffer refills = (some f, [], refills') ∧ brought refills' = rest := by
  fun_induction settle buffer refills with
  | case1 c cs refills => simp at h
  | case2 => simp [brought] at h
  | case3 bs refills ih => exact ih h
  | case4 g refills =>
    simp only [List.map_nil, List.nil_append, brought, List.cons.injEq, Except.error.injEq] at h
    obtain ⟨rfl, rfl⟩ := h
    exact ⟨refills, rfl, rfl⟩

/-- Looking leaves the input where it is, and is remembered. -/
structure Looked (i j : Input) : Prop where
  offset : j.offset = i.offset
  looked : j.looked = max i.looked (i.offset + 1)
  ending : j.ending = i.ending

/-- The second input is the first one read on: it does not stand further back, and it has been
looked at no less far. -/
structure Onward (i j : Input) : Prop where
  offset : i.offset ≤ j.offset
  looked : i.looked ≤ j.looked

theorem Onward.refl (i : Input) : i.Onward i := ⟨Nat.le_refl _, Nat.le_refl _⟩

theorem Onward.trans {i j k : Input} (hj : i.Onward j) (hk : j.Onward k) : i.Onward k :=
  ⟨Nat.le_trans hj.offset hk.offset, Nat.le_trans hj.looked hk.looked⟩

theorem onward_consume (i : Input) : i.Onward i.consume := ⟨Nat.le_succ _, Nat.le_refl _⟩

theorem Looked.onward {i j : Input} (h : i.Looked j) : i.Onward j := by
  refine ⟨Nat.le_of_eq h.offset.symm, ?_⟩
  rw [h.looked]
  exact Nat.le_max_left ..

theorem looked_peek (i : Input) : i.Looked i.peek.2 := by
  unfold peek
  grind [Looked]

theorem peek_of_ahead_cons {i : Input} {b : UInt8} {rest : List (Except IoFailure UInt8)}
    (h : i.ahead = .ok b :: rest) :
    ∃ j, i.peek = (.ok (some b), j) ∧ i.Looked j ∧ j.ahead = .ok b :: rest ∧
      j.consume.ahead = rest := by
  obtain ⟨buffer, refills, hsettle, hrest⟩ := settle_of_brought_cons h
  have hlooked := looked_peek i
  unfold peek at hlooked ⊢
  rw [hsettle] at hlooked ⊢
  refine ⟨_, rfl, hlooked, ?_, hrest⟩
  show .ok b :: (buffer.map .ok ++ brought refills) = _
  rw [hrest]

theorem peek_of_ahead_error {i : Input} {f : IoFailure} {rest : List (Except IoFailure UInt8)}
    (h : i.ahead = .error f :: rest) :
    ∃ j, i.peek = (.error f, j) ∧ i.Looked j ∧ j.ahead = rest := by
  obtain ⟨refills, hsettle, hrest⟩ := settle_of_brought_error h
  have hlooked := looked_peek i
  unfold peek at hlooked ⊢
  rw [hsettle] at hlooked ⊢
  exact ⟨_, rfl, hlooked, hrest⟩

theorem peek_of_ahead_nil {i : Input} (h : i.ahead = []) :
    ∃ j, i.peek = (match i.ending with | some f => .error f | none => .ok none, j) ∧
      i.Looked j ∧ j.ahead = [] := by
  obtain ⟨refills, hsettle, hrest⟩ := settle_of_brought_nil h
  have hlooked := looked_peek i
  unfold peek at hlooked ⊢
  rw [hsettle] at hlooked ⊢
  exact ⟨_, rfl, hlooked, hrest⟩

/-- The input has been read up to the fault, and has been looked at no further. -/
structure StopsAt (i : Input) (fault : Fault) : Prop where
  offset : i.offset = fault.start
  looked : i.looked = fault.start + 1

/-- What looking at the next byte shows of an input that is to meet a fault. -/
inductive Sight (fault : Fault) (after : List UInt8) (i : Input) :
    List UInt8 → Except IoFailure (Option UInt8) × Input → Prop
  | byte {b bs j} : i.offset < fault.start → i.Looked j → j.Meets fault after (b :: bs) →
      j.consume.Meets fault after bs → Sight fault after i (b :: bs) (.ok (some b), j)
  | nothing {j} : i.offset < fault.start → i.Looked j → j.Meets fault after [] →
      Sight fault after i [] (.ok none, j)
  | fault {bs j} : i.offset = fault.start → i.Looked j → (fault.once = true → j.Brings after) →
      Sight fault after i bs (.error fault.failure, j)

/-- A byte in front of the fault is seen, and both with it and without it the fault is ahead. -/
theorem sight_byte {fault : Fault} {after : List UInt8} {i : Input} {b : UInt8} {bs : List UInt8}
    {more : List (Except IoFailure UInt8)} (hbefore : i.offset < fault.start)
    (hahead : i.ahead = .ok b :: more)
    (hwith : ∀ j : Input, j.offset = i.offset → j.ending = i.ending → j.ahead = .ok b :: more →
      j.Meets fault after (b :: bs))
    (hwithout : ∀ j : Input, j.offset = i.offset + 1 → j.ending = i.ending → j.ahead = more →
      j.Meets fault after bs) : Sight fault after i (b :: bs) i.peek := by
  obtain ⟨j, hpeek, hj, hahead', hconsume⟩ := peek_of_ahead_cons hahead
  rw [hpeek]
  apply Sight.byte hbefore hj
  · exact hwith j hj.offset hj.ending hahead'
  · exact hwithout j.consume (congrArg (· + 1) hj.offset) hj.ending hconsume

theorem peek_of_meets {fault : Fault} {after : List UInt8} {i : Input} {bs : List UInt8}
    (h : i.Meets fault after bs) : Sight fault after i bs i.peek := by
  cases h with
  | beyond hi hlength =>
    cases bs with
    | nil =>
      obtain ⟨j, hpeek, hj, hahead⟩ := peek_of_ahead_nil hi.ahead
      have hoffset := hj.offset
      rw [hpeek, hi.ending]
      exact .nothing hlength hj (.beyond ⟨hahead, hj.ending.trans hi.ending⟩ (by rwa [hoffset]))
    | cons b bs =>
      rw [List.length_cons] at hlength
      apply sight_byte (by omega) hi.ahead
      · intro j hoffset hending hahead
        exact .beyond ⟨hahead, hending.trans hi.ending⟩ (by rwa [hoffset, List.length_cons])
      · intro j hoffset hending hahead
        exact .beyond ⟨hahead, hending.trans hi.ending⟩ (by omega)
  | @once before honce hstart hi hend =>
    cases before with
    | nil =>
      obtain ⟨j, hpeek, hj, hahead⟩ := peek_of_ahead_error hi
      rw [hpeek]
      exact .fault hstart hj fun _ => ⟨hahead, hj.ending.trans hend⟩
    | cons b before =>
      have hstart' := hstart
      rw [List.length_cons] at hstart'
      apply sight_byte (by omega) hi
      · intro j hoffset hending hahead
        have hmeets : j.Meets fault after ((b :: before) ++ after) :=
          .once honce (by rwa [hoffset]) hahead (hending.trans hend)
        exact hmeets
      · intro j hoffset hending hahead
        exact .once honce (by omega) hahead (hending.trans hend)
  | @always before honce hstart hi hend =>
    cases before with
    | nil =>
      obtain ⟨j, hpeek, hj, -⟩ := peek_of_ahead_nil hi
      rw [hpeek, hend]
      apply Sight.fault hstart hj
      intro h
      rw [h] at honce
      exact nomatch honce
    | cons b before =>
      have hstart' := hstart
      rw [List.length_cons] at hstart'
      apply sight_byte (by omega) hi
      · intro j hoffset hending hahead
        have hmeets : j.Meets fault after ((b :: before) ++ after) :=
          .always honce (by rwa [hoffset]) hahead (hending.trans hend)
        exact hmeets
      · intro j hoffset hending hahead
        exact .always honce (by omega) hahead (hending.trans hend)

end Input

/-! ## Two inputs, and a scan of both -/

/-- A fault that an input is to meet, the bytes that it brings behind it if it brings any, and the
policy by which its failure is told. -/
structure Strike where
  fault : Fault
  after : List UInt8
  policy : TransientPolicy

namespace Strike

open Scan

variable {α β : Type} (x : Strike)

/-- What is told of the failure. -/
def told : ClientError := x.policy.ioError x.fault.failure "failed to read result"

/-- The first input brings the same bytes as the second one but for the fault, which has not been
met. -/
structure Twin (i i₀ : Input) : Prop where
  bytes : ∃ bs, i₀.Brings bs ∧ i.Meets x.fault x.after bs
  offset : i.offset = i₀.offset
  looked : i.looked = i₀.looked
  unmet : i₀.looked ≤ x.fault.start

/-- The input has met the fault just now. -/
structure Struck (i : Input) : Prop where
  stops : i.StopsAt x.fault
  brings : x.fault.once = true → i.Brings x.after

/-- Without the fault, the input has been read up to it and looked at there. -/
structure Passed (i₀ : Input) : Prop where
  offset : x.fault.start ≤ i₀.offset
  looked : x.fault.start < i₀.looked

theorem Passed.onward {x : Strike} {i₀ j₀ : Input} (h : x.Passed i₀) (hj : i₀.Onward j₀) :
    x.Passed j₀ :=
  ⟨Nat.le_trans h.offset hj.offset, Nat.lt_of_lt_of_le h.looked hj.looked⟩

/-- The outcome of a scan of an input that is to meet the fault, beside the outcome of the same scan
of its twin: the two agree, or the fault has been met and the other scan has gone that far. -/
inductive Parallel : EStateM.Result ClientError Input α → EStateM.Result ClientError Input α → Prop
  | result {a j j₀} : x.Twin j j₀ → Parallel (.ok a j) (.ok a j₀)
  | failure {e j j₀} : x.Twin j j₀ → Parallel (.error e j) (.error e j₀)
  | fault {j r₀} : x.Struck j → x.Passed (left r₀) → Parallel (.error x.told j) r₀

/-- Twins that stand at a byte which both of them have looked at. -/
structure AtByte (j j₀ : Input) : Prop where
  twin : x.Twin j j₀
  consume : x.Twin j.consume j₀.consume

/-- What looking at the next byte shows of twins: the same byte, the end of both, or the fault. -/
inductive Shows : EStateM.Result ClientError Input (Option UInt8) →
    EStateM.Result ClientError Input (Option UInt8) → Prop
  | byte {b j j₀} : x.AtByte j j₀ → Shows (.ok (some b) j) (.ok (some b) j₀)
  | nothing {j j₀} : x.Twin j j₀ → Shows (.ok none j) (.ok none j₀)
  | fault {j r₀} : x.Struck j → x.Passed (left r₀) → Shows (.error x.told j) r₀

variable {x} {i i₀ : Input}

theorem looked_left_peek (policy : TransientPolicy) (i : Input) :
    i.Looked (left (peek policy i)) := by
  have hlooked := Input.looked_peek i
  unfold peek
  grind [left]

/-- Looking on this side of the fault leaves twins. -/
theorem Twin.looked_both {j j₀ : Input} (h : x.Twin i i₀) (hj : i.Looked j) (hj₀ : i₀.Looked j₀)
    (hbefore : i.offset < x.fault.start)
    (hbytes : ∃ bs, j₀.Brings bs ∧ j.Meets x.fault x.after bs) : x.Twin j j₀ := by
  refine ⟨hbytes, ?_, ?_, ?_⟩
  · rw [hj.offset, hj₀.offset, h.offset]
  · rw [hj.looked, hj₀.looked, h.looked, h.offset]
  · have hoffset := h.offset
    have hunmet := h.unmet
    rw [hj₀.looked]
    omega

theorem Twin.shows (h : x.Twin i i₀) :
    x.Shows (peek x.policy i) (peek x.policy i₀) := by
  obtain ⟨bs, hi₀, hi⟩ := h.bytes
  have hsight := Input.peek_of_meets hi
  unfold peek
  generalize i.peek = out at hsight
  cases hsight with
  | @byte b bs j hbefore hj hmeets hconsume =>
    obtain ⟨j₀, hpeek, hj₀, hahead, hahead'⟩ := Input.peek_of_ahead_cons hi₀.ahead
    have hending := hj₀.ending.trans hi₀.ending
    have hbrings : j₀.Brings (b :: bs) := ⟨hahead, hending⟩
    have htwin := h.looked_both hj hj₀ hbefore ⟨_, hbrings, hmeets⟩
    rw [hpeek]
    exact .byte ⟨htwin, ⟨_, ⟨hahead', hending⟩, hconsume⟩, congrArg (· + 1) htwin.offset,
      htwin.looked, htwin.unmet⟩
  | nothing hbefore hj hmeets =>
    obtain ⟨j₀, hpeek, hj₀, hahead⟩ := Input.peek_of_ahead_nil hi₀.ahead
    have hbrings : j₀.Brings [] := ⟨hahead, hj₀.ending.trans hi₀.ending⟩
    rw [hpeek, hi₀.ending]
    exact .nothing (h.looked_both hj hj₀ hbefore ⟨_, hbrings, hmeets⟩)
  | fault hstart hj hbrings =>
    have hoffset := h.offset
    have hunmet := h.unmet
    refine .fault ⟨⟨?_, ?_⟩, hbrings⟩ ?_
    · rw [hj.offset, hstart]
    · rw [hj.looked, h.looked, hstart]
      omega
    · have hlooked₀ := looked_left_peek x.policy i₀
      have hoffset₀ := hlooked₀.offset
      have hlooked₀ := hlooked₀.looked
      unfold peek at hoffset₀ hlooked₀
      exact ⟨by omega, by omega⟩

/-! ## Going on in lockstep -/

variable (x)

/-- The scan goes along on both of two related inputs, and it goes back nowhere. -/
structure Lockstep (related : Input → Input → Prop) (i₀ : Input)
    (f : Input → EStateM.Result ClientError Input α) : Prop where
  onward : i₀.Onward (left (f i₀))
  parallel : ∀ i, related i i₀ → x.Parallel (f i) (f i₀)

variable {x} {related : Input → Input → Prop} {f g : Input → EStateM.Result ClientError Input α}

theorem Lockstep.of_eq (h : ∀ i, f i = g i) (hg : x.Lockstep related i₀ g) :
    x.Lockstep related i₀ f := by
  rwa [funext h]

theorem lockstep_ok (a : α) : x.Lockstep x.Twin i₀ fun i => .ok a i :=
  ⟨.refl i₀, fun _ hi => .result hi⟩

theorem lockstep_error (e : ClientError) : x.Lockstep x.Twin i₀ fun i => .error (α := α) e i :=
  ⟨.refl i₀, fun _ hi => .failure hi⟩

theorem Lockstep.andThen {k : α → Input → EStateM.Result ClientError Input β}
    (h : x.Lockstep related i₀ f)
    (hk : ∀ a j₀, f i₀ = .ok a j₀ → x.Lockstep x.Twin j₀ (k a)) :
    x.Lockstep related i₀ fun i => andThen (f i) k := by
  have honward : (left (f i₀)).Onward (left (Scan.andThen (f i₀) k)) := by
    cases hf : f i₀ with
    | ok a j₀ => exact (hk a j₀ hf).onward
    | error e j₀ => exact .refl j₀
  refine ⟨h.onward.trans honward, ?_⟩
  intro i hi
  have hparallel := h.parallel i hi
  show x.Parallel (Scan.andThen (f i) k) (Scan.andThen (f i₀) k)
  generalize f i = r at hparallel
  cases hf : f i₀ with
  | ok a j₀ =>
    rw [hf] at hparallel honward
    cases hparallel with
    | result htwin => exact (hk a j₀ hf).parallel _ htwin
    | fault hstruck hpassed => exact .fault hstruck (hpassed.onward honward)
  | error e j₀ =>
    rw [hf] at hparallel honward
    cases hparallel with
    | failure htwin => exact .failure htwin
    | fault hstruck hpassed => exact .fault hstruck (hpassed.onward honward)

/-- A scan that looks at the next byte first. -/
theorem Lockstep.peek {k : Option UInt8 → Input → EStateM.Result ClientError Input α}
    (hnone : ∀ j₀, Scan.peek x.policy i₀ = .ok none j₀ → x.Lockstep x.Twin j₀ (k none))
    (hsome : ∀ b j₀, Scan.peek x.policy i₀ = .ok (some b) j₀ →
      x.Lockstep x.AtByte j₀ (k (some b))) :
    x.Lockstep x.Twin i₀ fun i => Scan.andThen (Scan.peek x.policy i) k := by
  have honward : (left (Scan.peek x.policy i₀)).Onward
      (left (Scan.andThen (Scan.peek x.policy i₀) k)) := by
    cases hpeek : Scan.peek x.policy i₀ with
    | error e j₀ => exact .refl j₀
    | ok b j₀ =>
      cases b with
      | none => exact (hnone j₀ hpeek).onward
      | some b => exact (hsome b j₀ hpeek).onward
  refine ⟨(looked_left_peek x.policy i₀).onward.trans honward, ?_⟩
  intro i hi
  have hshows := hi.shows
  show x.Parallel (Scan.andThen (Scan.peek x.policy i) k) _
  generalize Scan.peek x.policy i = r at hshows
  generalize hpeek : Scan.peek x.policy i₀ = r₀ at hshows honward
  cases hshows with
  | byte hbyte => exact (hsome _ _ hpeek).parallel _ hbyte
  | nothing htwin => exact (hnone _ hpeek).parallel _ htwin
  | fault hstruck hpassed => exact .fault hstruck (hpassed.onward honward)

theorem Lockstep.ite {c : Prop} [Decidable c] (hf : c → x.Lockstep related i₀ f)
    (hg : ¬c → x.Lockstep related i₀ g) :
    x.Lockstep related i₀ fun i => if c then f i else g i := by
  by_cases hc : c
  · simpa only [if_pos hc] using hf hc
  · simpa only [if_neg hc] using hg hc

/-- Stepping over a byte that both have looked at. -/
theorem Lockstep.consume (h : x.Lockstep x.Twin i₀.consume f) :
    x.Lockstep x.AtByte i₀ fun i => f i.consume :=
  ⟨i₀.onward_consume.trans h.onward, fun i hi => h.parallel i.consume hi.consume⟩

theorem Lockstep.atByte (h : x.Lockstep x.Twin i₀ f) : x.Lockstep x.AtByte i₀ f :=
  ⟨h.onward, fun i hi => h.parallel i hi.twin⟩

theorem Lockstep.keep {f : Input → EStateM.Result ClientError Input (List UInt8)}
    (h : x.Lockstep related i₀ f) (bs : List UInt8) :
    x.Lockstep related i₀ fun i => keep bs (f i) :=
  .of_eq (fun i => keep_eq bs (f i)) (h.andThen fun _ _ _ => lockstep_ok _)

/-! ## Scans -/

theorem lockstep_require : x.Lockstep x.Twin i₀ (require x.policy) := by
  apply Lockstep.of_eq (require_eq x.policy)
  apply Lockstep.peek
  · intro j₀ _
    exact lockstep_error truncated
  · intro b j₀ _
    exact (lockstep_ok b).consume

theorem lockstep_expect (wanted : UInt8) : x.Lockstep x.Twin i₀ (expect wanted x.policy) := by
  apply Lockstep.of_eq (fun i => expect_eq x.policy i wanted)
  apply lockstep_require.andThen
  intro found j₀ _
  apply Lockstep.ite
  · intro _
    exact lockstep_ok ()
  · intro _
    exact lockstep_error _

theorem lockstep_skipBlanks : x.Lockstep x.Twin i₀ (skipBlanks x.policy) := by
  induction i₀ using bySize with
  | step i₀ ih =>
    apply Lockstep.of_eq (skipBlanks_eq x.policy)
    apply Lockstep.peek
    · intro j₀ _
      exact lockstep_ok ()
    · intro b j₀ hpeek
      apply Lockstep.ite
      · intro _
        exact (ih j₀.consume (size_of_peek hpeek)).consume
      · intro _
        exact (lockstep_ok ()).atByte

theorem lockstep_stringTail : x.Lockstep x.Twin i₀ (stringTail x.policy) := by
  induction i₀ using bySize with
  | step i₀ ih =>
    apply Lockstep.of_eq (stringTail_eq x.policy)
    apply lockstep_require.andThen
    intro b j₀ hrequire
    have hj := size_of_require hrequire
    apply Lockstep.ite
    · intro _
      apply lockstep_require.andThen
      intro c k₀ hrequire'
      have hk := size_of_require hrequire'
      exact (ih k₀ (Nat.lt_trans hk hj)).keep [b, c]
    · intro _
      apply Lockstep.ite
      · intro _
        exact lockstep_ok [b]
      · intro _
        exact (ih j₀ hj).keep [b]

theorem lockstep_containerTail (depth : Nat) :
    x.Lockstep x.Twin i₀ (containerTail x.policy depth) := by
  induction i₀ using bySize generalizing depth with
  | step i₀ ih =>
    cases depth with
    | zero => exact .of_eq (containerTail_zero x.policy) (lockstep_ok [])
    | succ depth =>
      apply Lockstep.of_eq (fun i => containerTail_succ x.policy i depth)
      apply lockstep_require.andThen
      intro b j₀ hrequire
      have hj := size_of_require hrequire
      apply Lockstep.ite
      · intro _
        apply lockstep_stringTail.andThen
        intro text k₀ hstring
        have hk := size_of_stringTail hstring
        exact (ih k₀ (Nat.lt_trans hk hj) _).keep (b :: text)
      · intro _
        apply Lockstep.ite
        · intro _
          exact (ih j₀ hj _).keep [b]
        · intro _
          apply Lockstep.ite
          · intro _
            exact (ih j₀ hj _).keep [b]
          · intro _
            exact (ih j₀ hj _).keep [b]

theorem lockstep_scalarTail : x.Lockstep x.Twin i₀ (scalarTail x.policy) := by
  induction i₀ using bySize with
  | step i₀ ih =>
    apply Lockstep.of_eq (scalarTail_eq x.policy)
    apply Lockstep.peek
    · intro j₀ _
      exact lockstep_ok []
    · intro b j₀ hpeek
      apply Lockstep.ite
      · intro _
        exact (lockstep_ok []).atByte
      · intro _
        exact ((ih j₀.consume (size_of_peek hpeek)).keep [b]).consume

theorem lockstep_value : x.Lockstep x.Twin i₀ (value x.policy) := by
  apply Lockstep.of_eq (value_eq x.policy)
  apply Lockstep.peek
  · intro j₀ _
    exact lockstep_error truncated
  · intro b j₀ _
    apply Lockstep.ite
    · intro _
      exact (lockstep_stringTail.keep [b]).consume
    · intro _
      apply Lockstep.ite
      · intro _
        exact ((lockstep_containerTail 1).keep [b]).consume
      · intro _
        exact lockstep_scalarTail.atByte

theorem lockstep_fieldName : x.Lockstep x.Twin i₀ (fieldName x.policy) := by
  apply Lockstep.of_eq (fieldName_eq x.policy)
  apply Lockstep.peek
  · intro j₀ _
    apply Lockstep.ite
    · intro h
      exact nomatch h
    · intro _
      exact lockstep_error _
  · intro b j₀ _
    apply Lockstep.ite
    · intro _
      apply Lockstep.andThen (lockstep_stringTail.consume)
      intro bytes k₀ _
      cases literalText? (Ascii.quote :: bytes) with
      | some name => exact lockstep_ok name
      | none => exact lockstep_error _
    · intro _
      exact (lockstep_error _).atByte

theorem lockstep_colon : x.Lockstep x.Twin i₀ (colon x.policy) := by
  apply Lockstep.of_eq (colon_eq x.policy)
  apply lockstep_skipBlanks.andThen
  intro _ j₀ _
  apply (lockstep_expect _).andThen
  intro _ k₀ _
  exact lockstep_skipBlanks

/-! ## Streams -/

open ElementStream

variable (field : String)

theorem lockstep_enterArray : x.Lockstep x.Twin i₀ (enterArray field x.policy) := by
  apply Lockstep.of_eq (enterArray_eq field x.policy)
  apply Lockstep.peek
  · intro j₀ _
    apply Lockstep.ite
    · intro h
      exact nomatch h
    · intro _
      exact lockstep_error _
  · intro b j₀ _
    apply Lockstep.ite
    · intro _
      exact (lockstep_ok ()).consume
    · intro _
      exact (lockstep_error _).atByte

theorem lockstep_atMember
    (hpast : ∀ j₀, j₀.size < i₀.size → x.Lockstep x.Twin j₀ (seekField field x.policy)) :
    x.Lockstep x.Twin i₀ (atMember field x.policy) := by
  apply lockstep_fieldName.andThen
  intro name j₀ hname
  apply lockstep_colon.andThen
  intro _ k₀ hcolon
  apply Lockstep.ite
  · intro _
    exact lockstep_enterArray field
  · intro _
    apply lockstep_value.andThen
    intro bytes l₀ hvalue
    exact hpast l₀ (size_of_member hname hcolon hvalue)

theorem lockstep_seekField : x.Lockstep x.Twin i₀ (seekField field x.policy) := by
  induction i₀ using bySize with
  | step i₀ ih =>
    apply Lockstep.of_eq (seekField_steps field x.policy)
    apply lockstep_skipBlanks.andThen
    intro _ j₀ hblanks
    have hmember {b k₀} (hpeek : Scan.peek x.policy j₀ = .ok b k₀) :
        x.Lockstep x.Twin k₀ (atMember field x.policy) := by
      have hk := size_of_blanks_peek hblanks hpeek
      exact lockstep_atMember field fun l₀ hl => ih l₀ (Nat.lt_of_lt_of_le hl hk)
    apply Lockstep.peek
    · intro k₀ hpeek
      apply Lockstep.ite
      · intro h
        exact nomatch h
      · intro _
        apply Lockstep.ite
        · intro h
          exact nomatch h
        · intro _
          exact hmember hpeek
    · intro b k₀ hpeek
      apply Lockstep.ite
      · intro _
        exact (lockstep_error _).atByte
      · intro _
        apply Lockstep.ite
        · intro _
          exact (ih k₀.consume (size_of_blanks_byte hblanks hpeek)).consume
        · intro _
          exact (hmember hpeek).atByte

theorem lockstep_search : x.Lockstep x.Twin i₀ (search field x.policy) := by
  apply lockstep_skipBlanks.andThen
  intro _ j₀ _
  apply (lockstep_expect _).andThen
  intro _ k₀ _
  exact lockstep_seekField field

theorem lockstep_lead (position : Position) :
    x.Lockstep x.Twin i₀ (lead position x.policy) := by
  apply Lockstep.ite
  · intro _
    apply (lockstep_expect _).andThen
    intro _ j₀ _
    exact lockstep_skipBlanks
  · intro _
    exact lockstep_ok ()

/-- **A call for the next element goes along on both inputs until the fault is met.** -/
theorem nextText_lockstep (position : Position) :
    x.Lockstep x.Twin i₀ (nextText position x.policy) := by
  apply Lockstep.of_eq (fun i => nextText_eq x.policy i position)
  apply lockstep_skipBlanks.andThen
  intro _ j₀ _
  have helement {k₀} : x.Lockstep x.Twin k₀ fun k =>
      Scan.andThen (lead position x.policy k) fun _ l =>
        Scan.andThen (value x.policy l) fun bytes m => .ok (some bytes) m := by
    apply (lockstep_lead position).andThen
    intro _ l₀ _
    apply lockstep_value.andThen
    intro bytes m₀ _
    exact lockstep_ok (some bytes)
  apply Lockstep.peek
  · intro k₀ _
    apply Lockstep.ite
    · intro h
      exact nomatch h
    · intro _
      exact helement
  · intro b k₀ _
    apply Lockstep.ite
    · intro _
      exact (lockstep_ok none).consume
    · intro _
      exact helement.atByte

end Strike

end QueryClient
