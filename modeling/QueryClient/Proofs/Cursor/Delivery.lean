import Mathlib
import QueryClient.Cursor.Basic
import QueryClient.Proofs.Stream.Elements

/-!
# What a cursor delivers

A source comes to a list of outcomes, row by row: the row, or the failure to read it (`Yields`). A
cursor delivers the rows in front of the first failure, as many as it may. `At` says where a cursor
stands after `j` calls of `next`, and every use of the cursor keeps it (`At.use`). Main statement:
`delivery_after`.
-/

namespace QueryClient

namespace RowSource

/-! ## What a source comes to -/

/-- Reading the source row by row comes to the outcomes, and then to its end. What lies behind a
failure is never read. -/
inductive Yields (columns : List Column) : RowSource → List (Result Row) → Prop
  | done {source rest} : source.pull columns = (none, rest) → Yields columns source []
  | row {source row rest outcomes} : source.pull columns = (some (.ok row), rest) →
      Yields columns rest outcomes → Yields columns source (.ok row :: outcomes)
  | failure {source e rest outcomes} : source.pull columns = (some (.error e), rest) →
      Yields columns source (.error e :: outcomes)

/-- What becomes of an element of the stream, given its text. -/
def outcome (columns : List Column) (text : List UInt8) : Result Row :=
  match Json.read? text with
  | some raw => Row.decode columns raw
  | none => .error (.protocol "malformed result row")

/-- A stream delivers some elements and then fails. -/
inductive BreaksOff : ElementStream → List (List UInt8) → ClientError → Prop
  | now {s e} : s.next.1 = .error e → BreaksOff s [] e
  | later {s t s' es e} : s.next = (ElementStream.answer (some t), s') → BreaksOff s' es e →
      BreaksOff s (t :: es) e

/-- A source, and what becomes of each of its rows. -/
inductive Delivers (columns : List Column) : RowSource → List (Result Row) → Prop
  | stream {s es} : ElementStream.Holds s es →
      Delivers columns (.stream s) (es.map (outcome columns))
  | brokenStream {s es e} : BreaksOff s es e →
      Delivers columns (.stream s) (es.map (outcome columns) ++ [.error e])
  | memory {rows} : Delivers columns (.memory rows) (rows.map .ok)

theorem pull_stream (columns : List Column) {s s' : ElementStream} {t : List UInt8}
    (h : s.next = (ElementStream.answer (some t), s')) :
    (stream s).pull columns = (some (outcome columns t), .stream s') := by
  unfold pull outcome
  simp only [h, ElementStream.answer]
  cases Json.read? t with
  | none => rfl
  | some raw => rfl

/-- An element in front of what is known already. -/
theorem yields_stream_cons {columns : List Column} {s s' : ElementStream} {t : List UInt8}
    {outcomes : List (Result Row)} (h : s.next = (ElementStream.answer (some t), s'))
    (hrest : Yields columns (.stream s') outcomes) :
    Yields columns (.stream s) (outcome columns t :: outcomes) := by
  have hpull := pull_stream columns h
  cases hout : outcome columns t with
  | ok row => exact .row (hout ▸ hpull) hrest
  | error e => exact .failure (hout ▸ hpull)

theorem yields_stream {columns : List Column} {s : ElementStream} {es : List (List UInt8)}
    (h : ElementStream.Holds s es) : Yields columns (.stream s) (es.map (outcome columns)) := by
  induction es generalizing s with
  | nil =>
    obtain ⟨s', hnext, -, -⟩ := ElementStream.next_of_holds h
    apply Yields.done
    unfold pull
    simp only [hnext]
    rfl
  | cons e es ih =>
    obtain ⟨s', hnext, hrest, -⟩ := ElementStream.next_of_holds h
    exact yields_stream_cons hnext (ih hrest)

theorem yields_brokenStream {columns : List Column} {s : ElementStream}
    {es : List (List UInt8)} {e : ClientError} (h : BreaksOff s es e) :
    Yields columns (.stream s) (es.map (outcome columns) ++ [.error e]) := by
  induction h with
  | @now s e hfail =>
    obtain ⟨s', hnext⟩ : ∃ s', s.next = (.error e, s') := ⟨s.next.2, by rw [← hfail]⟩
    apply Yields.failure
    unfold pull
    simp only [hnext]
    rfl
  | later hnext _ ih => exact yields_stream_cons hnext ih

theorem yields_memory (columns : List Column) (rows : List Row) :
    Yields columns (.memory rows) (rows.map .ok) := by
  induction rows with
  | nil => exact .done rfl
  | cons row rows ih => exact .row rfl ih

theorem Delivers.yields {columns : List Column} {source : RowSource}
    {outcomes : List (Result Row)} (h : Delivers columns source outcomes) :
    Yields columns source outcomes := by
  cases h with
  | stream hs => exact yields_stream hs
  | brokenStream hs => exact yields_brokenStream hs
  | memory => exact yields_memory columns _

/-! ## The rows in front of the first failure -/

/-- The rows in front of the first failure. -/
def leadingRows : List (Result Row) → List Row
  | .ok row :: outcomes => row :: leadingRows outcomes
  | _ => []

/-- The failure that comes behind the leading rows, if it is not the end that comes. -/
def failure? : List (Result Row) → Option ClientError
  | .ok _ :: outcomes => failure? outcomes
  | .error e :: _ => some e
  | [] => none

theorem leadingRows_map_ok (rows : List Row) : leadingRows (rows.map .ok) = rows := by
  induction rows with
  | nil => rfl
  | cons row rows ih => exact congrArg (row :: ·) ih

theorem failure?_map_ok (rows : List Row) : failure? (rows.map .ok) = none := by
  induction rows with
  | nil => rfl
  | cons row rows ih => exact ih

theorem drop_of_lt_leadingRows {outcomes : List (Result Row)} {j : Nat}
    (h : j < (leadingRows outcomes).length) :
    outcomes.drop j = .ok (leadingRows outcomes)[j] :: outcomes.drop (j + 1) := by
  induction outcomes generalizing j with
  | nil => exact absurd h (Nat.not_lt_zero j)
  | cons outcome outcomes ih =>
    cases outcome with
    | error e => exact absurd h (Nat.not_lt_zero j)
    | ok row =>
      cases j with
      | zero => rfl
      | succ j => exact ih (Nat.lt_of_succ_lt_succ h)

/-- Behind the leading rows comes the failure or the end. -/
theorem pull_of_yields_drop {columns : List Column} {source : RowSource}
    {outcomes : List (Result Row)}
    (h : Yields columns source (outcomes.drop (leadingRows outcomes).length)) :
    ∃ rest, source.pull columns = ((failure? outcomes).map .error, rest) := by
  induction outcomes with
  | nil =>
    cases h with
    | @done _ rest hpull => exact ⟨rest, hpull⟩
  | cons outcome outcomes ih =>
    cases outcome with
    | ok row => exact ih h
    | error e =>
      cases h with
      | @failure _ _ rest _ hpull => exact ⟨rest, hpull⟩

end RowSource

namespace Cursor

open RowSource

/-! ## Using a cursor -/

/-- What a client does with a cursor short of closing it. -/
inductive Use where
  | next
  | get (target : Getter.Target) (ref : ColumnRef)
  -- questions, which change nothing
  | rowNumber
  | isBeforeFirst
  | isFirst
  | isAfterLast
  | lastWasNull
  | findColumn (name : String)

/-- Whether a use goes to the next row. -/
def Use.isNext : Use → Bool
  | .next => true
  | _ => false

/-- The cursor after a use. -/
def use (c : Cursor) : Use → Cursor
  | .next => c.next.2
  | .get target ref => (c.get target ref).2
  | _ => c

/-- The cursor after one use after the other. -/
def afterUses (c : Cursor) (uses : List Use) : Cursor := uses.foldl use c

/-- How many rows a use reads from the source. -/
def reads (c : Cursor) (u : Use) : Nat :=
  if u.isNext ∧ c.startNext.1 = none then 1 else 0

/-- How many rows the uses read from the source altogether. -/
def readsOf (c : Cursor) : List Use → Nat
  | [] => 0
  | u :: uses => c.reads u + (c.use u).readsOf uses

/-- The rows that a cursor with a limit delivers: those in front of the first failure, as many as
the limit allows. -/
def deliverable (maxRows : Nat) (outcomes : List (Result Row)) : List Row :=
  if maxRows = 0 then leadingRows outcomes else (leadingRows outcomes).take maxRows

/-- Whether the limit comes before the first failure and before the end. -/
def Capped (maxRows : Nat) (outcomes : List (Result Row)) : Prop :=
  0 < maxRows ∧ maxRows ≤ (leadingRows outcomes).length

instance (maxRows : Nat) (outcomes : List (Result Row)) : Decidable (Capped maxRows outcomes) :=
  inferInstanceAs (Decidable (_ ∧ _))

/-- What the call of `next` behind the last delivered row answers: the failure that comes next,
unless it lies beyond the limit. -/
def ending (maxRows : Nat) (outcomes : List (Result Row)) : Result Bool :=
  if Capped maxRows outcomes then .ok false else (failure? outcomes).elim (.ok false) .error

/-- How many rows are read at most: unless the limit comes first, what lies behind the last row is
seen only by reading on. -/
def readable (maxRows : Nat) (outcomes : List (Result Row)) : Nat :=
  (deliverable maxRows outcomes).length + if Capped maxRows outcomes then 0 else 1

/-- The current row after so many calls of `next`. -/
def rowAt (rows : List Row) : Nat → Option Row
  | 0 => none
  | i + 1 => rows[i]?

/-- What a getter finds when the current row is known. -/
def valueIn (columns : List Column) (row : Option Row) (target : Getter.Target)
    (ref : ColumnRef) : Result (Option Getter.Reading) := do
  let index ← ref.resolve columns
  match row, columns[index]? with
  | some row, some column => Getter.read target (row.getD index .missing) column
  | _, _ => .error .noCurrentRow

theorem length_deliverable_of_capped {maxRows : Nat} {outcomes : List (Result Row)}
    (h : Capped maxRows outcomes) : (deliverable maxRows outcomes).length = maxRows := by
  obtain ⟨hpos, hle⟩ := h
  unfold deliverable
  rw [if_neg (Nat.ne_of_gt hpos), List.length_take, Nat.min_eq_left hle]

theorem deliverable_of_not_capped {maxRows : Nat} {outcomes : List (Result Row)}
    (h : ¬Capped maxRows outcomes) : deliverable maxRows outcomes = leadingRows outcomes := by
  unfold deliverable
  by_cases hzero : maxRows = 0
  · rw [if_pos hzero]
  · rw [if_neg hzero]
    apply List.take_of_length_le
    unfold Capped at h
    omega

theorem readable_le {maxRows : Nat} (outcomes : List (Result Row)) (h : 0 < maxRows) :
    readable maxRows outcomes ≤ maxRows := by
  unfold readable
  by_cases hcap : Capped maxRows outcomes
  · rw [if_pos hcap, length_deliverable_of_capped hcap]
    exact Nat.le_refl maxRows
  · rw [if_neg hcap, deliverable_of_not_capped hcap]
    unfold Capped at hcap
    omega

theorem deliverable_prefix (maxRows : Nat) (outcomes : List (Result Row)) :
    deliverable maxRows outcomes <+: leadingRows outcomes := by
  unfold deliverable
  split
  next => exact List.prefix_rfl
  next => exact List.take_prefix maxRows _

/-- How a cursor stands after `j` calls of `next`, given the rows that it delivers and the answer
behind the last of them. -/
structure Stands (columns : List Column) (rows : List Row) (ending : Result Bool) (j : Nat)
    (c : Cursor) : Prop where
  next : c.next.1 =
    if j < rows.length then .ok true else if j = rows.length then ending else .ok false
  rowNumber : c.rowNumber = .ok (if j ≤ rows.length then j else 0)
  isFirst : c.isFirst = .ok (decide (j = 1 ∧ 1 ≤ rows.length))
  get : ∀ target ref, (c.get target ref).1 = valueIn columns (rowAt rows j) target ref
  exhausted : c.exhausted = true ↔ rows.length < j
  isAfterLast : c.isAfterLast = .ok (decide (c.exhausted = true ∧ 1 ≤ rows.length))
  /-- It stands before the first row, or on a row, or it has finished. -/
  place :
    c.isBeforeFirst = .ok true ∧ c.row = none ∧ c.exhausted = false ∨
    c.isBeforeFirst = .ok false ∧ c.row.isSome = true ∧ c.exhausted = false ∨
    c.isBeforeFirst = .ok false ∧ c.row = none ∧ c.exhausted = true

/-! ## Starting a call of `next` -/

section startNext

variable {c : Cursor} (hopen : c.closed = false)

include hopen

theorem startNext_of_exhausted (h : c.exhausted = true) :
    c.startNext = (some (.ok false), { c with wasNull := false }) := by
  simp [startNext, hopen, h]

theorem startNext_of_atLimit (h : c.exhausted = false) (hlimit : c.atLimit = true) :
    c.startNext = (some (.ok false), Cursor.finish { c with wasNull := false }) := by
  simp only [atLimit, decide_eq_true_eq] at hlimit
  simp [startNext, hopen, h, atLimit, hlimit]

theorem startNext_of_more (h : c.exhausted = false) (hlimit : c.atLimit = false) :
    c.startNext = (none, { c with wasNull := false, reading := true }) := by
  simp only [atLimit, decide_eq_false_iff_not] at hlimit
  simp [startNext, hopen, h, atLimit, hlimit]

end startNext

/-! ## Taking a row over -/

section pull

variable {c : Cursor} {source rest : RowSource}
  (hstart : c.startNext = (none, { c with wasNull := false, reading := true }))
  (hopen : c.closed = false) (hsource : c.source = some source)

include hstart hopen hsource

theorem next_of_pull_row {row : Row}
    (hpull : source.pull c.columns = (some (.ok row), rest)) :
    c.next = (.ok true,
      { c with
        wasNull := false, reading := false, source := some rest, row := some row,
        position := c.position + 1 }) := by
  unfold next Cursor.pull finishNext
  simp [hstart, hsource, hpull, hopen]

theorem next_of_pull_end {failure : Option ClientError}
    (hpull : source.pull c.columns = (failure.map .error, rest)) :
    c.next = (failure.elim (.ok false) .error,
      Cursor.finish { c with wasNull := false, reading := false, source := some rest }) := by
  unfold next Cursor.pull finishNext
  cases failure with
  | none => simp [hstart, hsource, hpull, hopen]
  | some e => simp [hstart, hsource, hpull, hopen]

end pull

/-! ## Reading values -/

theorem get_of_open {c : Cursor} (hopen : c.closed = false) (target : Getter.Target)
    (ref : ColumnRef) : (c.get target ref).1 = valueIn c.columns c.row target ref := by
  unfold get valueIn
  rw [if_neg (by simp [hopen])]
  cases hindex : ref.resolve c.columns with
  | error e =>
    simp only [hindex]
    rfl
  | ok index =>
    simp only [hindex]
    show _ =
      match c.row, c.columns[index]? with
      | some row, some column => Getter.read target (row.getD index .missing) column
      | _, _ => .error .noCurrentRow
    cases c.row with
    | none => rfl
    | some row =>
      cases c.columns[index]? with
      | none => rfl
      | some column => rfl

/-- A getter changes nothing but whether the last value was null. -/
theorem get_keeps (c : Cursor) (target : Getter.Target) (ref : ColumnRef) :
    ∃ b, (c.get target ref).2 = { c with wasNull := b } := by
  unfold get
  split
  next => exact ⟨c.wasNull, rfl⟩
  next =>
    dsimp only
    cases ref.resolve c.columns with
    | error e => exact ⟨false, rfl⟩
    | ok index =>
      dsimp only
      split
      next => exact ⟨_, rfl⟩
      next => exact ⟨false, rfl⟩

/-! ## Where the cursor stands -/

/-- Where a cursor stands after `j` calls of `next`: it counts up to the last row that it delivers,
and until it is behind that row the outcomes from `j` on are ahead of it. -/
structure At (columns : List Column) (maxRows : Nat) (outcomes : List (Result Row)) (j : Nat)
    (c : Cursor) : Prop where
  signature : c.columns = columns
  limit : c.maxRows = maxRows
  closed : c.closed = false
  position : c.position = min j (deliverable maxRows outcomes).length
  exhausted : c.exhausted = decide ((deliverable maxRows outcomes).length < j)
  row : c.row = rowAt (deliverable maxRows outcomes) j
  ahead : j ≤ (deliverable maxRows outcomes).length →
    ∃ source, c.source = some source ∧ Yields columns source (outcomes.drop j)

theorem at_create {columns : List Column} {source : RowSource} {outcomes : List (Result Row)}
    (maxRows : Nat) (h : Yields columns source outcomes) :
    At columns maxRows outcomes 0 (create columns source maxRows) where
  signature := rfl
  limit := rfl
  closed := rfl
  position := (Nat.zero_min _).symm
  exhausted := rfl
  row := rfl
  ahead := fun _ => ⟨source, rfl, h⟩

/-- Behind the last row there is none. -/
theorem rowAt_of_length_lt {rows : List Row} {j : Nat} (h : rows.length < j) :
    rowAt rows j = none := by
  cases j with
  | zero => exact absurd h (Nat.not_lt_zero _)
  | succ i => exact List.getElem?_eq_none (Nat.le_of_lt_succ h)

section At

variable {columns : List Column} {maxRows : Nat} {outcomes : List (Result Row)} {j : Nat}
  {c : Cursor} (hat : At columns maxRows outcomes j c)

include hat

/-- Nothing is said of the last value read, nor of a row being read at the moment. -/
theorem At.withFlags (wasNull reading : Bool) :
    At columns maxRows outcomes j { c with wasNull := wasNull, reading := reading } :=
  ⟨hat.signature, hat.limit, hat.closed, hat.position, hat.exhausted, hat.row, hat.ahead⟩

/-- Once finished, a cursor stays where it is. -/
theorem At.past (h : (deliverable maxRows outcomes).length < j) :
    At columns maxRows outcomes (j + 1) c where
  signature := hat.signature
  limit := hat.limit
  closed := hat.closed
  position := by
    rw [hat.position]
    omega
  exhausted := by
    rw [hat.exhausted, decide_eq_true h, decide_eq_true (Nat.lt_succ_of_lt h)]
  row := by
    rw [hat.row, rowAt_of_length_lt h, rowAt_of_length_lt (Nat.lt_succ_of_lt h)]
  ahead := fun hle => absurd hle (by omega)

/-- Behind the last row that it delivers a cursor finishes. -/
theorem At.finish (h : j = (deliverable maxRows outcomes).length) :
    At columns maxRows outcomes (j + 1) c.finish where
  signature := hat.signature
  limit := hat.limit
  closed := hat.closed
  position := by
    show c.position = _
    rw [hat.position]
    omega
  exhausted := (decide_eq_true (by omega)).symm
  row := (rowAt_of_length_lt (by omega)).symm
  ahead := fun hle => absurd hle (by omega)

/-- A row taken over. -/
theorem At.advance {source : RowSource} (h : j < (deliverable maxRows outcomes).length)
    (hsource : Yields columns source (outcomes.drop (j + 1))) :
    At columns maxRows outcomes (j + 1)
      { c with
        source := some source, row := some (deliverable maxRows outcomes)[j],
        position := c.position + 1 } where
  signature := hat.signature
  limit := hat.limit
  closed := hat.closed
  position := by
    show c.position + 1 = _
    rw [hat.position]
    omega
  exhausted := by
    show c.exhausted = _
    rw [hat.exhausted, decide_eq_false (by omega), decide_eq_false (by omega)]
  row := (List.getElem?_eq_getElem h).symm
  ahead := fun _ => ⟨source, rfl, hsource⟩

/-- The limit stops a cursor exactly where its rows are capped. -/
theorem At.atLimit_iff (h : j ≤ (deliverable maxRows outcomes).length) :
    c.atLimit = true ↔ j = (deliverable maxRows outcomes).length ∧ Capped maxRows outcomes := by
  unfold atLimit
  rw [decide_eq_true_iff, hat.limit, hat.position]
  -- only where the rows are capped are there as many of them as the limit allows
  by_cases hcap : Capped maxRows outcomes
  · have hlen := length_deliverable_of_capped hcap
    have hpos := hcap.1
    constructor
    · intro hlimit
      exact ⟨by omega, hcap⟩
    · intro hend
      omega
  · rw [deliverable_of_not_capped hcap] at h ⊢
    constructor
    · intro hlimit
      apply absurd _ hcap
      unfold Capped
      omega
    · intro hend
      exact absurd hend.2 hcap

/-- In front of the last row that it delivers a cursor goes to the next one. -/
theorem At.next_of_lt (h : j < (deliverable maxRows outcomes).length) :
    c.startNext.1 = none ∧ c.next.1 = .ok true ∧
      At columns maxRows outcomes (j + 1) c.next.2 := by
  obtain ⟨source, hsource, hyields⟩ := hat.ahead (Nat.le_of_lt h)
  have hprefix := deliverable_prefix maxRows outcomes
  have hlead : j < (leadingRows outcomes).length := Nat.lt_of_lt_of_le h hprefix.length_le
  have hmore : c.exhausted = false := by
    rw [hat.exhausted, decide_eq_false (by omega)]
  have hlimit : c.atLimit = false := by
    rw [Bool.eq_false_iff]
    intro hstop
    have hend := ((hat.atLimit_iff (Nat.le_of_lt h)).mp hstop).1
    omega
  have hstart := startNext_of_more hat.closed hmore hlimit
  rw [drop_of_lt_leadingRows hlead, ← hprefix.getElem h] at hyields
  cases hyields with
  | @row _ _ rest _ hpull hrest =>
    rw [← hat.signature] at hpull
    rw [next_of_pull_row hstart hat.closed hsource hpull, hstart]
    exact ⟨rfl, rfl, (hat.withFlags false false).advance h hrest⟩

/-- Behind the last row that it delivers a cursor finishes, with a failure if one comes next. -/
theorem At.next_of_eq (h : j = (deliverable maxRows outcomes).length) :
    (c.startNext.1 = none ↔ ¬Capped maxRows outcomes) ∧ c.next.1 = ending maxRows outcomes ∧
      At columns maxRows outcomes (j + 1) c.next.2 := by
  have hmore : c.exhausted = false := by
    rw [hat.exhausted, decide_eq_false (by omega)]
  have hlimit_iff := hat.atLimit_iff (Nat.le_of_eq h)
  unfold ending
  by_cases hcap : Capped maxRows outcomes
  · have hlimit : c.atLimit = true := hlimit_iff.mpr ⟨h, hcap⟩
    have hstart := startNext_of_atLimit hat.closed hmore hlimit
    unfold next
    rw [hstart, if_pos hcap]
    refine ⟨?_, rfl, (hat.withFlags false _).finish h⟩
    exact iff_of_false (Option.some_ne_none _) (not_not.mpr hcap)
  · have hlimit : c.atLimit = false := by
      rw [Bool.eq_false_iff]
      intro hstop
      exact hcap (hlimit_iff.mp hstop).2
    have hstart := startNext_of_more hat.closed hmore hlimit
    -- all rows in front of the failure or the end have been delivered
    obtain ⟨source, hsource, hyields⟩ := hat.ahead (Nat.le_of_eq h)
    rw [h, deliverable_of_not_capped hcap] at hyields
    obtain ⟨rest, hpull⟩ := pull_of_yields_drop hyields
    rw [← hat.signature] at hpull
    rw [next_of_pull_end hstart hat.closed hsource hpull, hstart, if_neg hcap]
    exact ⟨iff_of_true rfl hcap, rfl, (hat.withFlags false false).finish h⟩

/-- A finished cursor stays finished. -/
theorem At.next_of_gt (h : (deliverable maxRows outcomes).length < j) :
    c.startNext.1 = some (.ok false) ∧ c.next.1 = .ok false ∧
      At columns maxRows outcomes (j + 1) c.next.2 := by
  have hdone : c.exhausted = true := by
    rw [hat.exhausted, decide_eq_true h]
  have hstart := startNext_of_exhausted hat.closed hdone
  unfold next
  rw [hstart]
  exact ⟨rfl, rfl, (hat.withFlags false _).past h⟩

/-- A call of `next` reads a row as long as there is something to be read. -/
theorem At.startNext_eq_none_iff :
    c.startNext.1 = none ↔ j < readable maxRows outcomes := by
  unfold readable
  rcases Nat.lt_trichotomy j (deliverable maxRows outcomes).length with h | h | h
  · exact iff_of_true (hat.next_of_lt h).1 (Nat.lt_add_right _ h)
  · rw [(hat.next_of_eq h).1]
    split
    next hcap => exact iff_of_false (not_not.mpr hcap) (by omega)
    next hcap => exact iff_of_true hcap (by omega)
  · rw [(hat.next_of_gt h).1]
    apply iff_of_false (Option.some_ne_none _)
    split
    next => omega
    next => omega

theorem At.next : At columns maxRows outcomes (j + 1) c.next.2 := by
  rcases Nat.lt_trichotomy j (deliverable maxRows outcomes).length with h | h | h
  · exact (hat.next_of_lt h).2.2
  · exact (hat.next_of_eq h).2.2
  · exact (hat.next_of_gt h).2.2

/-- **Every use of a cursor keeps where it stands**, one further behind a call of `next`. -/
theorem At.use (u : Use) :
    At columns maxRows outcomes (j + if u.isNext then 1 else 0) (c.use u) := by
  cases u with
  | next => exact hat.next
  | get target ref =>
    obtain ⟨b, hget⟩ := get_keeps c target ref
    show At columns maxRows outcomes j (c.get target ref).2
    rw [hget]
    exact hat.withFlags b c.reading
  | rowNumber => exact hat
  | isBeforeFirst => exact hat
  | isFirst => exact hat
  | isAfterLast => exact hat
  | lastWasNull => exact hat
  | findColumn name => exact hat

end At

/-! ## Runs -/

theorem at_afterUses {columns : List Column} {maxRows : Nat} {outcomes : List (Result Row)}
    {j : Nat} {c : Cursor} (hat : At columns maxRows outcomes j c) (uses : List Use) :
    At columns maxRows outcomes (j + uses.countP Use.isNext) (c.afterUses uses) := by
  induction uses generalizing j c with
  | nil => exact hat
  | cons u uses ih =>
    have hrest := ih (hat.use u)
    -- the use counts first, and the ones behind it after it
    rw [Nat.add_assoc, Nat.add_comm (if u.isNext then 1 else 0), ← List.countP_cons] at hrest
    exact hrest

/-- The rows that have been read already and those that a run reads make up the calls of `next`, as
far as there is something to be read. -/
theorem readsOf_eq {columns : List Column} {maxRows : Nat} {outcomes : List (Result Row)}
    {j : Nat} {c : Cursor} (hat : At columns maxRows outcomes j c) (uses : List Use) :
    min j (readable maxRows outcomes) + c.readsOf uses =
      min (j + uses.countP Use.isNext) (readable maxRows outcomes) := by
  induction uses generalizing j c with
  | nil => rfl
  | cons u uses ih =>
    have hrest := ih (hat.use u)
    rw [List.countP_cons]
    -- a call of `next` either reads a row or finds all the readable ones read
    unfold readsOf reads
    simp only [hat.startNext_eq_none_iff]
    cases hu : u.isNext with
    | false =>
      rw [hu] at hrest
      simp only [Bool.false_eq_true, false_and, if_false, Nat.add_zero] at hrest ⊢
      omega
    | true =>
      rw [hu] at hrest
      simp only [true_and, if_true] at hrest ⊢
      split
      next => omega
      next => omega

/-! ## What it answers -/

section Stands

variable {columns : List Column} {maxRows : Nat} {outcomes : List (Result Row)} {j : Nat}
  {c : Cursor} (hat : At columns maxRows outcomes j c)

include hat

theorem At.whenOpen {α : Type} (answer : α) : c.whenOpen answer = .ok answer := by
  unfold Cursor.whenOpen
  rw [if_neg (by simp [hat.closed])]

theorem At.isSome_row :
    c.row.isSome = true ↔ 1 ≤ j ∧ j ≤ (deliverable maxRows outcomes).length := by
  rw [hat.row]
  cases j with
  | zero => simp [rowAt]
  | succ i =>
    show (deliverable maxRows outcomes)[i]?.isSome = true ↔ _
    rw [Option.isSome_iff_ne_none, ne_eq, List.getElem?_eq_none_iff]
    omega

theorem At.exhausted_iff : c.exhausted = true ↔ (deliverable maxRows outcomes).length < j := by
  rw [hat.exhausted, decide_eq_true_iff]

theorem At.isBeforeFirst : c.isBeforeFirst = .ok (decide (j = 0)) := by
  unfold Cursor.isBeforeFirst
  rw [hat.whenOpen, decide_eq_decide.mpr]
  rw [hat.position, hat.exhausted_iff]
  omega

theorem At.isFirst :
    c.isFirst = .ok (decide (j = 1 ∧ 1 ≤ (deliverable maxRows outcomes).length)) := by
  unfold Cursor.isFirst
  rw [hat.whenOpen, decide_eq_decide.mpr]
  rw [hat.isSome_row, hat.position]
  omega

theorem At.isAfterLast :
    c.isAfterLast =
      .ok (decide (c.exhausted = true ∧ 1 ≤ (deliverable maxRows outcomes).length)) := by
  unfold Cursor.isAfterLast
  rw [hat.whenOpen, decide_eq_decide.mpr]
  rw [hat.position, hat.exhausted_iff]
  omega

theorem At.rowNumber :
    c.rowNumber = .ok (if j ≤ (deliverable maxRows outcomes).length then j else 0) := by
  unfold Cursor.rowNumber
  rw [hat.whenOpen]
  congr 1
  by_cases hrow : c.row.isSome = true
  · have hon := hat.isSome_row.mp hrow
    rw [if_pos hrow, if_pos hon.2, hat.position]
    exact Nat.min_eq_left hon.2
  · have hoff := mt hat.isSome_row.mpr hrow
    rw [if_neg hrow]
    split
    next => omega
    next => rfl

theorem At.stands :
    Stands columns (deliverable maxRows outcomes) (ending maxRows outcomes) j c where
  next := by
    rcases Nat.lt_trichotomy j (deliverable maxRows outcomes).length with h | h | h
    · rw [(hat.next_of_lt h).2.1, if_pos h]
    · rw [(hat.next_of_eq h).2.1, if_neg (by omega), if_pos h]
    · rw [(hat.next_of_gt h).2.1, if_neg (Nat.not_lt_of_gt h), if_neg (Nat.ne_of_gt h)]
  rowNumber := hat.rowNumber
  isFirst := hat.isFirst
  get := by
    intro target ref
    rw [get_of_open hat.closed, hat.signature, hat.row]
  exhausted := hat.exhausted_iff
  isAfterLast := hat.isAfterLast
  place := by
    rw [hat.isBeforeFirst, hat.exhausted, ← Option.not_isSome_iff_eq_none, hat.isSome_row]
    by_cases hzero : j = 0
    · left
      exact ⟨by rw [decide_eq_true hzero], by omega, decide_eq_false (by omega)⟩
    · right
      rw [decide_eq_false hzero]
      by_cases hend : (deliverable maxRows outcomes).length < j
      · right
        exact ⟨rfl, by omega, decide_eq_true hend⟩
      · left
        exact ⟨rfl, by omega, decide_eq_false hend⟩

end Stands

/-- Without a limit a cursor delivers all the rows that are at hand. -/
theorem stands_memory (columns : List Column) (rows : List Row) (uses : List Use) :
    Stands columns rows (.ok false) (uses.countP Use.isNext)
      ((create columns (.memory rows) 0).afterUses uses) := by
  have stands := (at_afterUses (at_create 0 (yields_memory columns rows)) uses).stands
  have all : deliverable 0 (rows.map .ok) = rows := leadingRows_map_ok rows
  have ends : ending 0 (rows.map .ok) = .ok false := by
    rw [ending, if_neg fun capped => Nat.lt_irrefl 0 capped.1, failure?_map_ok]
    rfl
  rwa [all, ends, Nat.zero_add] at stands

/-- **A cursor delivers the rows in front of the first failure, as many as its limit allows, and
then stands at the end**, whatever else it is asked meanwhile. It reads no row beyond its limit. -/
theorem delivery_after {columns : List Column} {source : RowSource}
    {outcomes : List (Result Row)} (h : Delivers columns source outcomes) (maxRows : Nat)
    (uses : List Use) :
    Stands columns (deliverable maxRows outcomes) (ending maxRows outcomes)
        (uses.countP Use.isNext) ((create columns source maxRows).afterUses uses) ∧
      (0 < maxRows → (create columns source maxRows).readsOf uses ≤ maxRows) := by
  have hat := at_create maxRows h.yields
  constructor
  · have hrun := at_afterUses hat uses
    rw [Nat.zero_add] at hrun
    exact hrun.stands
  · intro hpos
    have hreads := readsOf_eq hat uses
    have hbound := readable_le outcomes hpos
    omega

/-! ### Three rows, of which the second one cannot be read -/

def amount : Column := { name := "amount", datatype := .bigInt, nullable := false }

/-- The elements, of which the second one is a text without a tag. -/
def amountTexts : List (List UInt8) :=
  ["1", "\"x\"", "2"].map fun text => Text.Utf8.encode text.toList

def amounts : ElementStream where
  input := .ofRefills [.bytes (Text.Utf8.encode "1, \"x\",2]".toList)]
  policy := .never
  position := .first

theorem holds_amounts : amounts.Holds amountTexts := by
  have hnumber : ∀ b, Ascii.isDigit b = true → Json.ValueText [b] := by
    intro b hb
    have hdigits : Json.Digits [b] := by
      refine ⟨List.cons_ne_nil b [], ?_⟩
      intro d hd
      rw [List.mem_singleton.mp hd]
      exact hb
    exact .scalar (.number (.inl rfl) ⟨hdigits, fun _ => rfl⟩ .none .none)
  have htail : Json.Enclosed Ascii.closeBracket amountTexts
      (Text.Utf8.encode "1, \"x\",2]".toList) :=
    .items (.more Json.blanks_nil Json.blanks_nil
      (.more ElementStream.blanks_space Json.blanks_nil
        (.last Json.blanks_nil Json.blanks_nil)))
  have hbrings : amounts.input.Brings (Text.Utf8.encode "1, \"x\",2]".toList ++ []) :=
    Input.brings_ofRefills rfl
  refine .first rfl ?_ htail hbrings
  intro e he
  unfold amountTexts at he
  simp only [List.map_cons, List.map_nil, List.mem_cons, List.not_mem_nil, or_false] at he
  rcases he with rfl | rfl | rfl
  · exact hnumber 0x31 rfl
  · exact .string (.plain (by decide) (by decide) (by decide) .nil)
  · exact hnumber 0x32 rfl

theorem delivery_amounts :
    let c := create [amount] (.stream amounts) 3
    Delivers [amount] (.stream amounts) (amountTexts.map (outcome [amount])) ∧ 0 < 3 ∧
      ((c.afterUses [.next]).get .int64 (.name "amount")).1 = .ok (some (.number 1)) ∧
      (c.afterUses [.next, .lastWasNull]).next.1 =
        .error (.protocol "malformed tagged value 'x'") ∧
      (c.afterUses [.next, .next]).next.1 = .ok false ∧
      (c.afterUses [.next, .next]).isAfterLast = .ok true ∧
      c.readsOf [.next, .rowNumber, .next, .next] ≤ 3 := by
  intro c
  have h : Delivers [amount] (.stream amounts) (amountTexts.map (outcome [amount])) :=
    .stream holds_amounts
  obtain ⟨hfirst, -⟩ := delivery_after h 3 [.next]
  obtain ⟨hsecond, -⟩ := delivery_after h 3 [.next, .lastWasNull]
  obtain ⟨hend, -⟩ := delivery_after h 3 [.next, .next]
  obtain ⟨-, hreads⟩ := delivery_after h 3 [.next, .rowNumber, .next, .next]
  refine ⟨h, by decide, ?_, ?_, ?_, ?_, hreads (by decide)⟩
  · rw [hfirst.get]
    cbv
  · rw [hsecond.next]
    cbv
  · rw [hend.next]
    cbv
  · have hone : (deliverable 3 (amountTexts.map (outcome [amount]))).length = 1 := by cbv
    have hdone : ((c.afterUses [.next, .next]).exhausted = true) := by
      rw [hend.exhausted, hone]
      decide
    rw [hend.isAfterLast, decide_eq_true ⟨hdone, Nat.le_of_eq hone.symm⟩]

end Cursor

end QueryClient
