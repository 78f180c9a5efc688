import QueryClient.Proofs.Connection.InFlight
import QueryClient.Proofs.Connection.Lineage
import QueryClient.Proofs.Cursor.Delivery

/-!
# The row limit

A cursor over rows that the service sends takes the row limit of its statement when it is created,
and keeps it. It counts the rows that it has taken over, so it answers no more often that there is a
further row (`within_run`). A plan has no limit: all its lines are delivered, whatever the limit of
the statement. Main statement: `row_limit`.
-/

namespace QueryClient

/-! ## Counting rows -/

namespace Cursor

/-- A cursor with a limit is not beyond it, and reads only in front of it. -/
structure Within (m : Nat) (k : Cursor) : Prop where
  limit : k.maxRows = m
  position : 0 < m → k.position ≤ m
  reading : 0 < m → k.reading = true → k.position < m

variable {m : Nat} {k k' : Cursor}

theorem within_create (columns : List Column) (source : RowSource) (maxRows : Nat) :
    Within maxRows (create columns source maxRows) where
  limit := rfl
  position := fun _ => Nat.zero_le _
  reading := nofun

theorem Within.close (h : Within m k) : Within m k.close ∧ k.close.position = k.position := by
  unfold Cursor.close
  split
  · exact ⟨h, rfl⟩
  · split <;> exact ⟨⟨h.limit, h.position, h.reading⟩, rfl⟩

theorem Within.startNext (h : Within m k) :
    Within m k.startNext.2 ∧ k.startNext.2.position = k.position := by
  simp only [Cursor.startNext]
  split
  · exact ⟨h, rfl⟩
  · split
    · exact ⟨⟨h.limit, h.position, h.reading⟩, rfl⟩
    · split
      · exact ⟨⟨h.limit, h.position, h.reading⟩, rfl⟩
      · next below =>
        -- a row is read only where the limit leaves room for it
        have room : ¬(0 < k.maxRows ∧ k.maxRows ≤ k.position) := fun h => below (decide_eq_true h)
        rw [h.limit] at room
        exact ⟨⟨h.limit, h.position, fun pos _ => Nat.lt_of_not_le fun full => room ⟨pos, full⟩⟩,
          rfl⟩

theorem Within.change (h : Within m k) (change : Change k k') :
    Within m k' ∧ k'.position = k.position := by
  cases change with
  | close => exact h.close
  | drop => exact ⟨⟨h.limit, h.position, h.reading⟩, rfl⟩
  | startNext => exact h.startNext
  | get target ref =>
    obtain ⟨b, same⟩ := get_keeps k target ref
    rw [same]
    exact ⟨⟨h.limit, h.position, h.reading⟩, rfl⟩

theorem Within.changes (h : Within m k) (changes : Changes k k') :
    Within m k' ∧ k'.position = k.position := by
  induction changes with
  | refl => exact ⟨h, rfl⟩
  | tail _ change ih =>
    obtain ⟨within, same⟩ := ih.1.change change
    exact ⟨within, same.trans ih.2⟩

/-- Whether there is a further row, given what going to it has come to. -/
def isRow : Option (Result Bool) → Bool
  | some (.ok found) => found
  | _ => false

/-- Nothing is said of further rows without reading. -/
theorem isRow_startNext (k : Cursor) : isRow k.startNext.1 = false := by
  simp only [Cursor.startNext]
  split
  · rfl
  · split
    · rfl
    · split <;> rfl

theorem pull_snd (k : Cursor) : ∃ source, k.pull.2 = { k with source := source } := by
  unfold Cursor.pull
  split
  · exact ⟨k.source, rfl⟩
  · exact ⟨_, rfl⟩

theorem Within.notReading (h : Within m k) : Within m { k with reading := false } where
  limit := h.limit
  position := h.position
  reading := fun _ still => (Bool.false_ne_true still).elim

/-- A row that is taken idle is counted, and nothing else is. -/
theorem Within.finishNext (h : Within m k) (reading : k.reading = true) :
    let finished := k.pull.2.finishNext k.pull.1
    Within m finished.2 ∧
      finished.2.position = k.position + (isRow (some finished.1)).toNat := by
  obtain ⟨source, pulled⟩ := pull_snd k
  have idle := h.notReading
  simp only [Cursor.finishNext, pulled]
  split
  · exact ⟨⟨idle.limit, idle.position, idle.reading⟩, rfl⟩
  · split
    · exact ⟨⟨idle.limit, fun pos => h.reading pos reading,
        fun _ still => (Bool.false_ne_true still).elim⟩, rfl⟩
    · exact ⟨⟨idle.limit, idle.position, idle.reading⟩, rfl⟩
    · exact ⟨⟨idle.limit, idle.position, idle.reading⟩, rfl⟩

end Cursor

/-! ## What is made of a response -/

namespace Connection

/-- A cursor has been made of a response: over the rows that the service sends, with the limit of
its statement, or over the lines of a plan, with none. -/
inductive Opened (r : QueryResponse) (c : Connection) (id : CursorId) : Prop where
  | rows (columns : List Column) (elements : ElementStream) (noPlan : r.isExplainOnly = false)
      (cursor : c.cursor id =
        .create columns (.stream elements) (c.statement id.statement).maxRows)
  | plan (columns : List Column) (lines : List String) (isPlan : r.isExplainOnly = true)
      (explains : r.explainLines = .ok lines)
      (cursor : c.cursor id =
        .create columns (.memory (lines.map fun line => [.string line])) 0)

variable {c d : Connection} {r : QueryResponse} {id : CursorId} {i : Nat}

/-- What changes neither cursors nor limits changes nothing about it. -/
theorem Opened.trans (h : Opened r c id)
    (cursors : ∀ j, (d.statement j).cursors = (c.statement j).cursors)
    (maxRows : ∀ j, (d.statement j).maxRows = (c.statement j).maxRows) : Opened r d id := by
  have same := cursor_eq cursors id
  cases h with
  | rows columns elements noPlan cursor =>
    refine .rows columns elements noPlan ?_
    rw [maxRows]
    exact same.trans cursor
  | plan columns lines isPlan explains cursor =>
    exact .plan columns lines isPlan explains (same.trans cursor)

theorem Opened.endExecution (h : Opened r c id) (i : Nat) : Opened r (c.endExecution i) id :=
  h.trans (cursors_endExecution c i) <|
    apply_modifyStatement Statement.maxRows c.drawToken.2 i
      (fun s => { s with token := c.nextToken }) fun _ => rfl

theorem Opened.setCurrent (h : Opened r c id) (other : CursorId) :
    Opened r (c.setCurrent other) id :=
  h.trans (cursors_setCurrent c other) <|
    apply_modifyStatement Statement.maxRows c other.statement
      (fun s => { s with current := some other.cursor }) fun _ => rfl

theorem opened_memoryCursor (hi : i < c.statements.length) {columns : List Column}
    {rows : List Row} (h : r.opening = .ok (.memory columns rows)) :
    Opened r (c.memoryCursor i columns rows).2 (c.memoryCursor i columns rows).1 := by
  obtain ⟨plan, lines, explains, rfl⟩ := QueryResponse.lines_of_opening h
  rw [fst_memoryCursor]
  exact .plan columns lines plan explains (cursor_register hi columns (.memory _) 0)

theorem opened_openNetworkCursor (hi : i < c.statements.length) {columns : List Column}
    (h : r.opening = .ok (.fetch columns)) {fetched : Result ElementStream}
    (result : (c.openNetworkCursor i columns fetched).1.toOption = some id) :
    Opened r (c.openNetworkCursor i columns fetched).2 id := by
  cases fetched with
  | error e => cases result
  | ok elements =>
    obtain ⟨number, gains⟩ := gains_openNetworkCursor hi columns elements
    rw [number] at result
    cases result
    refine .rows columns elements (QueryResponse.opening_eq_fetch_iff.mp h).1 ?_
    rw [gains.cursor]
    -- getting a cursor does not change the limit
    have kept : ((c.openNetworkCursor i columns (.ok elements)).2.statement i).maxRows =
        (c.statement i).maxRows :=
      apply_putStatement Statement.maxRows
        (s := ((c.statement i).register columns (.stream elements) (c.statement i).maxRows).2) rfl i
    exact congrArg (Cursor.create columns _) kept.symm

theorem opened_finishQuery (hi : i < c.statements.length) {columns : List Column}
    (h : r.opening = .ok (.fetch columns)) {fetched : Result ElementStream}
    (result : (c.finishQuery i columns fetched).1.toOption = some id) :
    Opened r (c.finishQuery i columns fetched).2 id :=
  (opened_openNetworkCursor hi h result).endExecution i

theorem opened_finishResult (hi : i < c.statements.length) {columns : List Column}
    (h : r.opening = .ok (.fetch columns)) {fetched : Result ElementStream}
    (result : (c.finishResult i columns fetched).1.toOption.join = some id) :
    Opened r (c.finishResult i columns fetched).2 id := by
  rw [(finishResult_eq c i columns fetched).2.2] at result
  have opened := opened_openNetworkCursor hi h result
  cases fetched with
  | error e => exact opened
  | ok elements => exact opened.setCurrent _

/-- A part of an operation makes a cursor of a response: its result is the cursor, if it is over and
there is one; else the rows are still to be fetched for a statement that is there. -/
def Makes {α : Type} (cursor : α → Option CursorId) (response : Option QueryResponse) (i : Nat) :
    Progress α × Connection → Prop
  | (.done result, c) => ∀ id, result.toOption.bind cursor = some id →
      ∃ r, response = some r ∧ Opened r c id
  | (.fetch r columns, c) =>
      response = some r ∧ r.opening = .ok (.fetch columns) ∧ i < c.statements.length

theorem makes_of_none {α : Type} {cursor : α → Option CursorId} {response : Option QueryResponse}
    {result : Result α} (none : result.toOption.bind cursor = none) :
    Makes cursor response i (.done result, c) := by
  intro id found
  rw [none] at found
  cases found

theorem makes_answerQuery (hi : i < c.statements.length) (answer : Result QueryResponse) :
    Makes some answer.toOption i (c.answerQuery i answer) := by
  unfold answerQuery
  cases answer with
  | error e => exact makes_of_none rfl
  | ok r =>
    simp only
    split
    · have created : i < (c.modifyStatement i fun s =>
          s.recordOutcome r none none).statements.length := by
        rwa [modifyStatement, length_putStatement]
      split
      · exact makes_of_none rfl
      · next columns rows hopening =>
        rintro _ ⟨⟩
        exact ⟨r, rfl, (opened_memoryCursor created hopening).endExecution i⟩
      · next columns hopening => exact ⟨rfl, hopening, created⟩
    · exact makes_of_none rfl

theorem makes_takeResult (c : Connection) (i : Nat) :
    Makes (fun given => given) (c.statement i).pending i (c.takeResult i) := by
  unfold takeResult
  simp only
  split
  · exact makes_of_none rfl
  · next hs =>
    split
    · exact makes_of_none rfl
    · next r hpending =>
      have created : i < (c.modifyStatement i fun s =>
          { s with pending := none }).statements.length := by
        rw [modifyStatement, length_putStatement]
        exact lt_of_open (Bool.eq_false_iff.mpr hs)
      split
      · exact makes_of_none rfl
      · next columns rows hopening =>
        rintro _ ⟨⟩
        exact ⟨r, hpending, (opened_memoryCursor created hopening).setCurrent _⟩
      · next columns hopening => exact ⟨hpending, hopening, created⟩

/-! ### Cursors that go on -/

theorem cursor?_of_open (h : (c.cursor id).closed = false) : c.cursor? id = some (c.cursor id) := by
  unfold cursor at h ⊢
  unfold cursor?
  cases hk : (c.statement id.statement).cursors[id.cursor]? with
  | none =>
    rw [hk] at h
    cases h
  | some k => rfl

/-- Where a row is taken over, its cursor counts it. -/
theorem within_finishNext {m : Nat} {k : Cursor} (hk : c.cursor? id = some k)
    (within : k.Within m) (other : CursorId) :
    ∃ k', (c.finishNext other).2.cursor? id = some k' ∧ k'.Within m ∧ k'.position = k.position +
      (Cursor.isRow (if other = id then (c.finishNext id).1 else none)).toNat := by
  unfold finishNext
  by_cases same : other = id
  · subst same
    rw [if_pos rfl, cursor_of_cursor? hk]
    by_cases reading : k.reading = true
    · rw [if_pos reading]
      obtain ⟨within', counted⟩ := within.finishNext reading
      refine ⟨_, ?_, within', ?_⟩
      · show (c.withCursor other fun k => k.pull.2.finishNext k.pull.1).2.cursor? other = _
        rw [cursor?_withCursor, if_pos rfl, hk]
        rfl
      · rw [counted, ← cursor_of_cursor? hk]
        rfl
    · rw [if_neg reading]
      exact ⟨k, hk, within, rfl⟩
  · rw [if_neg same]
    by_cases reading : (c.cursor other).reading = true
    · rw [if_pos reading]
      refine ⟨k, ?_, within, rfl⟩
      show (c.withCursor other fun k => k.pull.2.finishNext k.pull.1).2.cursor? id = _
      rw [cursor?_withCursor, if_neg same, hk]
    · rw [if_neg reading]
      exact ⟨k, hk, within, rfl⟩

end Connection

/-! ## Asking for a cursor beside others -/

/-- What comes of a dialogue beside threads that wait, given the turns that are taken during each
call of the dialogue, in order. -/
def Dialogue.settleBeside {α : Type} (answers : Answers) :
    Dialogue α → Shared → List (List Turn) → Result α × Shared
  | .done result c, s, _ => (result, { s with connection := c })
  | .submit _ c next, s, amid =>
    let t := Shared.run { s with connection := c } (amid.headD [])
    settleBeside answers (next t.connection answers.submitted) t amid.tail
  | .fetch _ c next, s, amid =>
    let t := Shared.run { s with connection := c } (amid.headD [])
    settleBeside answers (next t.connection answers.fetched) t amid.tail
  | .cancel _ c next, s, amid =>
    let t := Shared.run { s with connection := c } (amid.headD [])
    settleBeside answers (next t.connection answers.cancelled) t amid.tail
  | .ping _ c next, s, amid =>
    let t := Shared.run { s with connection := c } (amid.headD [])
    settleBeside answers (next t.connection answers.ping) t amid.tail
  | .close c next, s, amid =>
    let t := Shared.run { s with connection := c } (amid.headD [])
    settleBeside answers (next t.connection answers.closed) t amid.tail

/-- What asks for a cursor over the rows of a response. -/
inductive CursorRequest where
  | query (what : Executable)
  /-- The rows that an execution has left behind. -/
  | rows (i : Nat)

namespace CursorRequest

/-- The response that the cursor is made of. -/
def response? (c : Connection) (answers : Answers) : CursorRequest → Option QueryResponse
  | .query _ => answers.submitted.toOption
  | .rows i => (c.statement i).pending

/-- What comes of asking for a cursor beside others, who get their turns during the calls: the
cursor, unless there is none, and what is found then. -/
def settle (answers : Answers) (s : Shared) (amid : List (List Turn)) :
    CursorRequest → Option CursorId × Shared
  | .query what =>
    let (result, t) :=
      (what.run s.connection s.connection.executeQuery).settleBeside answers s amid
    (result.toOption, t)
  | .rows i =>
    let (result, t) := (s.connection.resultCursor i).settleBeside answers s amid
    (result.toOption.join, t)

end CursorRequest

namespace Shared

open Connection (Opened)
open Cursor (Within isRow)

variable {s : Shared} {i : Nat} {id : CursorId} (answers : Answers) (amid : List (List Turn))

theorem Regular.settleBeside {α : Type} (h : s.Regular) (d : Dialogue α) :
    (d.settleBeside answers s amid).2.Regular := by
  induction d generalizing s amid with
  | done result c => exact ⟨h.proper, h.evolving⟩
  | submit submission c next ih =>
    exact ih _ _ _ (Regular.run (s := { s with connection := c }) ⟨h.proper, h.evolving⟩ _)
  | fetch response c next ih =>
    exact ih _ _ _ (Regular.run (s := { s with connection := c }) ⟨h.proper, h.evolving⟩ _)
  | cancel token c next ih =>
    exact ih _ _ _ (Regular.run (s := { s with connection := c }) ⟨h.proper, h.evolving⟩ _)
  | ping timeout c next ih =>
    exact ih _ _ _ (Regular.run (s := { s with connection := c }) ⟨h.proper, h.evolving⟩ _)
  | close c next ih =>
    exact ih _ _ _ (Regular.run (s := { s with connection := c }) ⟨h.proper, h.evolving⟩ _)

/-- Others have got a turn, and the statement is still there. -/
theorem Regular.go (h : s.Regular) {c : Connection} (hi : i < c.statements.length)
    (turns : List Turn) : (Shared.run { s with connection := c } turns).Regular ∧
      i < (Shared.run { s with connection := c } turns).connection.statements.length := by
  have regular : Regular { s with connection := c } := ⟨h.proper, h.evolving⟩
  exact ⟨regular.run turns, Nat.lt_of_lt_of_le hi (regular.length_run turns)⟩

theorem opened_executeQuery (h : s.Regular) (sql : String) (params : List Param) :
    let o := (s.connection.executeQuery i sql params).settleBeside answers s amid
    o.1.toOption = some id →
      ∃ r, answers.submitted.toOption = some r ∧ Opened r o.2.connection id := by
  unfold Connection.executeQuery
  split
  · exact nofun
  · next hsub =>
    have there := Connection.lt_of_open (Connection.open_of_submission hsub)
    obtain ⟨regular, created⟩ := h.go there (amid.headD [])
    have makes := Connection.makes_answerQuery created answers.submitted
    simp only [Dialogue.settleBeside]
    split
    · next result d heq =>
      rw [heq] at makes
      exact fun found => makes id (Option.bind_eq_some_iff.mpr ⟨id, found, rfl⟩)
    · next r columns d heq =>
      rw [heq] at makes
      obtain ⟨answered, hopening, created⟩ := makes
      obtain ⟨-, created⟩ := regular.go created (amid.tail.headD [])
      exact fun result => ⟨r, answered, Connection.opened_finishQuery created hopening result⟩

theorem opened_resultCursor (h : s.Regular) :
    let o := (s.connection.resultCursor i).settleBeside answers s amid
    o.1.toOption.join = some id →
      ∃ r, (s.connection.statement i).pending = some r ∧ Opened r o.2.connection id := by
  have makes := s.connection.makes_takeResult i
  unfold Connection.resultCursor
  split
  · next result d heq =>
    rw [heq] at makes
    exact fun found => makes id found
  · next r columns d heq =>
    rw [heq] at makes
    obtain ⟨answered, hopening, created⟩ := makes
    obtain ⟨-, created⟩ := h.go created (amid.headD [])
    exact fun result => ⟨r, answered, Connection.opened_finishResult created hopening result⟩

/-- The cursor that is returned has been made of the response. -/
theorem opened_settle (h : s.Regular) (request : CursorRequest) :
    let o := request.settle answers s amid
    o.1 = some id → o.2.Regular ∧
      ∃ r, request.response? s.connection answers = some r ∧ Opened r o.2.connection id := by
  intro o result
  cases request with
  | query what =>
    refine ⟨h.settleBeside answers amid _, ?_⟩
    cases what <;> exact opened_executeQuery answers amid h _ _ result
  | rows i => exact ⟨h.settleBeside answers amid _, opened_resultCursor answers amid h result⟩

/-! ## The rows of a run -/

/-- What going to the next row of a cursor comes to in a turn, if that is what the turn does. -/
def answer? (s : Shared) (id : CursorId) : Turn → Option (Result Bool)
  | .start (.startNext other) => if other = id then (s.connection.startNext id).1 else none
  | .start (.finishNext other) => if other = id then (s.connection.finishNext id).1 else none
  | _ => none

/-- How often a cursor answers during a run that there is a further row. -/
def brings (s : Shared) (id : CursorId) : List Turn → Nat
  | [] => 0
  | turn :: turns => (isRow (s.answer? id turn)).toNat + (s.take turn).brings id turns

/-- Only at the end of reading a row is there one. -/
theorem isRow_answer? (s : Shared) (id : CursorId) {turn : Turn}
    (h : ∀ other, turn ≠ .start (.finishNext other)) : isRow (s.answer? id turn) = false := by
  cases turn with
  | answer k answers => rfl
  | start op =>
    cases op with
    | startNext other =>
      simp only [answer?, Connection.startNext]
      split
      · split
        · rfl
        · exact Cursor.isRow_startNext _
      · rfl
    | finishNext other => exact absurd rfl (h other)
    | _ => rfl

/-- **A cursor keeps its limit and counts its rows**, whatever the turn is. -/
theorem within_take (h : s.Regular) {m : Nat} {k : Cursor} (hk : s.connection.cursor? id = some k)
    (within : Within m k) (turn : Turn) :
    ∃ k', (s.take turn).connection.cursor? id = some k' ∧ Within m k' ∧
      k'.position = k.position + (isRow (s.answer? id turn)).toNat := by
  by_cases finishing : ∃ other, turn = .start (.finishNext other)
  · obtain ⟨other, rfl⟩ := finishing
    exact Connection.within_finishNext hk within other
  · rcases (evolves_take h.evolving turn).2 with ⟨other, rfl⟩ | evolves
    · exact absurd ⟨other, rfl⟩ finishing
    · obtain ⟨k', hk', changes⟩ := evolves.kept hk
      obtain ⟨within', same⟩ := within.changes changes
      rw [s.isRow_answer? id fun other h => finishing ⟨other, h⟩]
      exact ⟨k', hk', within', same⟩

theorem within_run (h : s.Regular) {m : Nat} {k : Cursor} (hk : s.connection.cursor? id = some k)
    (within : Within m k) (turns : List Turn) :
    ∃ k', (s.run turns).connection.cursor? id = some k' ∧ Within m k' ∧
      k'.position = k.position + s.brings id turns := by
  induction turns generalizing s k with
  | nil => exact ⟨k, hk, within, rfl⟩
  | cons turn turns ih =>
    obtain ⟨k', hk', within', taken⟩ := within_take h hk within turn
    obtain ⟨k'', hk'', within'', rest⟩ := ih (h.take turn) hk' within'
    refine ⟨k'', hk'', within'', ?_⟩
    rw [rest, taken, Nat.add_assoc]
    rfl

/-- **A cursor over the rows of a result keeps to the limit that its statement has had, a plan to
none.** Whatever has been done before, whatever others do while the rows are asked for and whatever
is done later, the limit be changed or not: a cursor over rows that the service sends takes the
limit of its statement at that moment, keeps it, and answers no more often that there is a further
row. A cursor over a plan does so for every line of the plan, whatever limit the statement has. -/
theorem row_limit (config : ClientConfig) (server : Option String) (before : List Turn)
    (request : CursorRequest) (answers : Answers) (amid : List (List Turn)) (id : CursorId) :
    let s := (create config server).run before
    let o := request.settle answers s amid
    let m := (o.2.connection.statement id.statement).maxRows
    o.1 = some id →
      ∃ r, request.response? s.connection answers = some r ∧
        (r.isExplainOnly = false → ∀ later,
          ((o.2.run later).connection.cursor id).maxRows = m ∧
            (0 < m → o.2.brings id later ≤ m)) ∧
        (r.isExplainOnly = true → ∃ lines, r.explainLines = .ok lines ∧ ∀ uses,
          ((o.2.connection.cursor id).afterUses uses).next.1 =
            .ok (decide (uses.countP Cursor.Use.isNext < lines.length))) := by
  intro s o m result
  have regular : s.Regular := (regular_create config server).run before
  obtain ⟨asked, r, answered, opened⟩ := opened_settle answers amid regular request result
  refine ⟨r, answered, ?_⟩
  cases opened with
  | rows columns elements noPlan cursor =>
    refine ⟨fun _ later => ?_, fun plan => Bool.noConfusion (noPlan.symm.trans plan)⟩
    have isOpen : (o.2.connection.cursor id).closed = false := cursor ▸ rfl
    have there := Connection.cursor?_of_open isOpen
    rw [cursor] at there
    obtain ⟨k, hk, within, counted⟩ := within_run asked there (Cursor.within_create _ _ _) later
    refine ⟨Connection.cursor_of_cursor? hk ▸ within.limit, fun pos => ?_⟩
    have below := within.position pos
    rw [counted] at below
    exact Nat.le_trans (Nat.le_add_left _ _) below
  | plan columns lines isPlan explains cursor =>
    refine ⟨fun noPlan => Bool.noConfusion (noPlan.symm.trans isPlan), fun _ => ?_⟩
    refine ⟨lines, explains, fun uses => ?_⟩
    rw [cursor, (Cursor.stands_memory columns _ uses).next, List.length_map]
    split
    · next more => rw [decide_eq_true more]
    · next done => rw [decide_eq_false done, ite_self]

/-- A statement with a limit of one row. -/
def limited : List Turn := [.start .createStatement, .start (.set 0 (.maxRows 1))]

/-- Going to the next row of its first cursor twice. -/
def twoRows : List Turn :=
  [.start (.startNext ⟨0, 0⟩), .start (.finishNext ⟨0, 0⟩), .start (.startNext ⟨0, 0⟩),
    .start (.finishNext ⟨0, 0⟩)]

/-- A service that answers every query with two rows. -/
def twoRowService : Answers :=
  let rows := Text.Utf8.encode "\x7b\"n\":1\x7d,\x7b\"n\":2\x7d]".toList
  { Connection.rowService with fetched := .ok ⟨.ofRefills [.bytes rows], .never, .first⟩ }

/-- A service that answers every query with a plan of two lines. -/
def planService : Answers :=
  let plan : Plans := ⟨some .query, [], true⟩
  { Connection.rowService with
    submitted := .ok ⟨some .success, some plan, none, none, [.string "scan\nlimit"], [], []⟩ }

def limitedQuery : CursorRequest := .query (.text 0 "SELECT n FROM t")

theorem limited_row_limit :
    let s := (create .standard none).run limited
    let rows := limitedQuery.settle twoRowService s []
    let plan := limitedQuery.settle planService s []
    rows.1 = some ⟨0, 0⟩ ∧
      rows.2.brings ⟨0, 0⟩ (.start (.set 0 (.maxRows 0)) :: twoRows) ≤ 1 ∧ plan.1 = some ⟨0, 0⟩ ∧
      ((plan.2.connection.cursor ⟨0, 0⟩).afterUses [.next]).next.1 = .ok true ∧
      ((plan.2.connection.cursor ⟨0, 0⟩).afterUses [.next, .next]).next.1 = .ok false := by
  intro s rows plan
  have result : rows.1 = some ⟨0, 0⟩ := by decide +kernel
  obtain ⟨r, answered, keeps, -⟩ :=
    row_limit .standard none limited limitedQuery twoRowService [] ⟨0, 0⟩ result
  cases answered
  have limit : (rows.2.connection.statement 0).maxRows = 1 := by decide +kernel
  obtain ⟨-, below⟩ := keeps rfl (.start (.set 0 (.maxRows 0)) :: twoRows)
  have planned : plan.1 = some ⟨0, 0⟩ := by decide +kernel
  obtain ⟨r, answered, -, delivers⟩ :=
    row_limit .standard none limited limitedQuery planService [] ⟨0, 0⟩ planned
  cases answered
  obtain ⟨lines, explains, next⟩ := delivers rfl
  have two : lines.length = 2 := by
    cases explains
    decide +kernel
  refine ⟨result, ?_, planned, ?_, ?_⟩
  · exact limit ▸ below (by rw [limit]; exact Nat.one_pos)
  · rw [next, two]
    rfl
  · rw [next, two]
    rfl

/-- A statement with a limit of one row has a cursor that goes to a second one. -/
theorem plan_exceeds_limit :
    let s := (create .standard none).run limited
    let o := limitedQuery.settle planService s []
    o.1 = some ⟨0, 0⟩ ∧ (o.2.connection.statement 0).maxRows = 1 ∧
      o.2.brings ⟨0, 0⟩ twoRows = 2 := by
  decide +kernel

end Shared

end QueryClient
