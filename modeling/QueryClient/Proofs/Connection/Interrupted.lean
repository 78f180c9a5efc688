import QueryClient.Proofs.Connection.Lasting

/-!
# Closing a cursor while it is being read

Going to the next row holds a cursor for as long as its bytes take to come, and meanwhile the
cursor, its statement or its connection may be closed. `Connection.nextAmid` is going to the next
row with others at work at any places of the read. Main statement: whatever has been read, it fails
once the cursor has been closed, and what is left is a cursor that refuses everything for good
(`nextAmid_refuses`).
-/

namespace QueryClient

/-! ## What a cursor is closed with -/

namespace Connection

/-- A cursor has been closed, by whatever it was: itself, with its statement, or with its
connection, unless the teardown of that has been put off. -/
inductive Shut (c : Connection) (id : CursorId) : Prop where
  | cursor : (c.cursor id).closed = true → Shut c id
  | statement : (c.statement id.statement).closed = true → Shut c id
  | connection : c.closed = true → c.deferred = false → Shut c id

variable {p : Cursor → Prop} {c : Connection} {id : CursorId}

/-- A cursor of a statement that has closed has closed with it. -/
theorem Exact.has_closed (h : c.Exact) (has : c.Has id p)
    (closed : (c.statement id.statement).closed = true) : c.Has id fun k => k.closed = true := by
  obtain ⟨s, hs, k, hk, -⟩ := has
  rw [statement_of_getElem? hs] at closed
  have exact := h.statements s (List.mem_of_getElem? hs)
  exact ⟨s, hs, k, hk, exact.closed closed k (List.mem_of_getElem? hk)⟩

/-- Whatever a cursor has been closed with, it is closed. -/
theorem Exact.has_closed_of_shut (h : c.Exact) (has : c.Has id p) (shut : c.Shut id) :
    c.Has id fun k => k.closed = true := by
  cases shut with
  | cursor closed =>
    obtain ⟨s, hs, k, hk, -⟩ := has
    rw [Connection.cursor, statement_of_getElem? hs, hk] at closed
    exact ⟨s, hs, k, hk, closed⟩
  | statement closed => exact h.has_closed has closed
  | connection closed due => exact h.has_closed has (h.closed_of_isDown ⟨closed, due⟩ _)

end Connection

/-! ## What a closed cursor answers -/

namespace Cursor

variable {k : Cursor} (closed : k.closed = true)

include closed

theorem startNext_of_closed : k.startNext = (some (.error closedError), k) := by
  simp [startNext, closed]

/-- A reader who finds his cursor closed fails. -/
theorem finishNext_of_closed (pulled : Option (Result Row)) :
    (k.finishNext pulled).1 = .error closedError := by
  simp [finishNext, closed]

/-- A reader who finds his cursor closed lets go of its rows. -/
theorem lapsed_finishNext (pulled : Option (Result Row)) : (k.finishNext pulled).2.Lapsed := by
  unfold finishNext
  simp only [closed, if_true]
  exact ⟨rfl, rfl, rfl, rfl⟩

end Cursor

/-! ## Reading with others at work -/

/-- An input of which some bytes have been taken. -/
def Input.advance : Nat → Input → Input
  | 0, i => i
  | n + 1, i => advance n i.peek.2.consume

/-- Rows of whose bytes some have been taken. -/
def RowSource.advance (n : Nat) : RowSource → RowSource
  | .stream elements => .stream { elements with input := elements.input.advance n }
  | .memory rows => .memory rows

namespace Cursor

/-- A cursor that has taken some more bytes of the row that it is reading. -/
def advance (n : Nat) (k : Cursor) : Cursor :=
  { k with source := k.source.map (RowSource.advance n) }

/-- Take over the row that a reader has come to, and the rows that are left to it. -/
def conclude (k : Cursor) (come : Option (Result Row) × Cursor) : Result Bool × Cursor :=
  { k with source := come.2.source }.finishNext come.1

theorem moved_advance (n : Nat) (k : Cursor) : Moved k (k.advance n) := by
  refine ⟨rfl, rfl, fun lapsed => ⟨lapsed.closed, lapsed.idle, ?_, lapsed.row⟩⟩
  simp [advance, lapsed.source]

variable (k : Cursor) (come : Option (Result Row) × Cursor)

theorem conclude_of_closed (closed : k.closed = true) :
    (k.conclude come).1 = .error closedError ∧ (k.conclude come).2.Lapsed := by
  have closed' : { k with source := come.2.source }.closed = true := closed
  exact ⟨finishNext_of_closed closed' _, lapsed_finishNext closed' _⟩

theorem moved_conclude : Moved k (k.conclude come).2 := by
  have moved := moved_finishNext { k with source := come.2.source } come.1
  exact ⟨moved.closed, moved.ownsNetwork, fun lapsed => (conclude_of_closed k come lapsed.closed).2⟩

end Cursor

namespace Connection

/-- The reader of a cursor takes some more bytes. -/
def readOn (c : Connection) (id : CursorId) (n : Nat) : Connection :=
  (c.withCursor id fun k => ((), k.advance n)).2

/-- What others do while a cursor is being read, each of them when so many more bytes have been
taken. -/
def whileReading (c : Connection) (id : CursorId) : List (Nat × Operation × Answers) → Connection
  | [] => c
  | (n, step) :: during => ((c.readOn id n).after step).whileReading id during

/-- Go to the next row with others at work while it is being read. The reader goes on with the rows
that it has started on, whatever becomes of its cursor. -/
def nextAmid (c : Connection) (id : CursorId) (during : List (Nat × Operation × Answers)) :
    Result Bool × Connection :=
  match c.startNext id with
  | (some answer, c) => (answer, c)
  | (none, c) => (c.whileReading id during).withCursor id fun k => k.conclude (c.cursor id).pull

variable {p : Cursor → Prop} {c : Connection} {id : CursorId}

theorem steps_readOn (c : Connection) (id : CursorId) (n : Nat) : Steps c (c.readOn id n) :=
  steps_withCursor c id fun k => k.moved_advance n

theorem steps_whileReading (c : Connection) (id : CursorId)
    (during : List (Nat × Operation × Answers)) : Steps c (c.whileReading id during) := by
  induction during generalizing c with
  | nil => exact .refl
  | cons event during ih =>
    obtain ⟨n, op, answers⟩ := event
    exact ((steps_readOn c id n).trans (steps_after _ op answers)).trans (ih _)

theorem whileReading_append (c : Connection) (id : CursorId)
    (early late : List (Nat × Operation × Answers)) :
    c.whileReading id (early ++ late) = (c.whileReading id early).whileReading id late := by
  induction early generalizing c with
  | nil => rfl
  | cons event early ih => exact ih _

/-- A cursor that is read has been created. -/
theorem has_of_startNext (h : (c.startNext id).1 = none) : c.Has id fun _ => True := by
  refine has_of_ne fun never => ?_
  unfold startNext at h
  rw [never] at h
  split at h
  · next reading => exact absurd reading (by decide)
  · have answered : (noCursor.startNext).1 = none := by
      rw [← never]
      exact h
    have closed : noCursor.closed = true := Cursor.closed_close _
    rw [Cursor.startNext_of_closed closed] at answered
    exact absurd answered (by simp)

end Connection

/-! ## Reading undisturbed -/

namespace Cursor

/-- Reading takes rows and nothing else. -/
theorem conclude_pull (k : Cursor) : k.conclude k.pull = k.pull.2.finishNext k.pull.1 := by
  unfold conclude pull
  split <;> rfl

end Cursor

namespace Connection

variable {c : Connection} {id : CursorId}

theorem putStatement_putStatement (c : Connection) (i : Nat) {s t : Statement}
    (closed : t.closed = s.closed) : (c.putStatement i s).putStatement i t = c.putStatement i t := by
  unfold putStatement
  simp only [List.set_set, closed]
  split
  · simp only [List.filter_filter, Bool.and_self]
  · rfl

theorem withCursor_eq {α : Type} (c : Connection) (id : CursorId) (f : Cursor → α × Cursor) :
    c.withCursor id f = ((f (c.cursor id)).1, c.putStatement id.statement
      ((c.statement id.statement).modifyCursor id.cursor fun _ => (f (c.cursor id)).2)) := rfl

/-- Of two changes of a cursor, one after the other, the first is seen by the second only. -/
theorem withCursor_withCursor {α β : Type} {p : Cursor → Prop} (has : c.Has id p)
    (f : Cursor → α × Cursor) (g : Cursor → β × Cursor) :
    (c.withCursor id f).2.withCursor id g = c.withCursor id fun k => g (f k).2 := by
  have seen := (has.withCursor f).cursor
  obtain ⟨s, hs, -⟩ := has
  have found := statement_putStatement (List.getElem?_eq_some_iff.mp hs).1
    ((c.statement id.statement).modifyCursor id.cursor fun _ => (f (c.cursor id)).2)
  have twice (a b : Cursor) (s : Statement) : (s.modifyCursor id.cursor fun _ => a).modifyCursor
      id.cursor (fun _ => b) = s.modifyCursor id.cursor fun _ => b := by
    unfold Statement.modifyCursor
    simp only [List.modify_modify_eq]
    rfl
  rw [withCursor_eq _ id g, seen, withCursor_eq c id f]
  simp only [found]
  rw [putStatement_putStatement c _ (by rfl), twice]
  rfl

/-- If no one else is at work, going to the next row of the connection's cursor is going to the next
row of that cursor. -/
theorem nextAmid_nil (idle : (c.cursor id).reading = false) :
    c.nextAmid id [] = c.withCursor id Cursor.next := by
  have start : c.startNext id = c.withCursor id Cursor.startNext := by
    rw [startNext, idle]
    rfl
  have reads : (c.startNext id).1 = none → c.Has id fun _ => True := has_of_startNext
  unfold nextAmid
  rw [start] at reads ⊢
  cases hk : (c.cursor id).startNext with
  | mk answer k =>
    cases answer with
    | some answer => simp [withCursor_eq, Cursor.next, hk]
    | none =>
      have has := reads (by rw [withCursor_eq, hk])
      have seen : (c.withCursor id Cursor.startNext).2.cursor id = k := by
        rw [(has.withCursor Cursor.startNext).cursor, hk]
      have pair : c.withCursor id Cursor.startNext =
          (none, (c.withCursor id Cursor.startNext).2) := by
        rw [withCursor_eq, hk]
      have next : (c.cursor id).next = k.conclude k.pull := by
        rw [Cursor.next, hk, Cursor.conclude_pull]
      rw [pair]
      show (c.withCursor id Cursor.startNext).2.withCursor id _ = _
      rw [seen, withCursor_withCursor has, withCursor_eq, withCursor_eq, hk, next]

end Connection

/-! ## What is left of a closed cursor -/

namespace Connection

/-- A cursor has closed for good and is registered no more: it refuses to move and to be read, and
closing it once more does nothing. -/
structure Refuses (c : Connection) (id : CursorId) : Prop where
  lapsed : (c.cursor id).Lapsed
  network : id.cursor ∉ (c.statement id.statement).networkCursors
  memory : id.cursor ∉ (c.statement id.statement).memoryCursors
  next : (c.startNext id).1 = some (.error Cursor.closedError)
  rowNumber : (c.cursor id).rowNumber = .error Cursor.closedError
  isBeforeFirst : (c.cursor id).isBeforeFirst = .error Cursor.closedError
  isFirst : (c.cursor id).isFirst = .error Cursor.closedError
  isAfterLast : (c.cursor id).isAfterLast = .error Cursor.closedError
  findColumn : ∀ name, (c.cursor id).findColumn name = .error Cursor.closedError
  lastWasNull : (c.cursor id).lastWasNull = .error Cursor.closedError
  get : ∀ target ref, (c.get id target ref).1 = some (.error Cursor.closedError)
  close : c.closeCursor id = c

variable {c : Connection} {id : CursorId}

/-- Putting back a statement changes nothing. -/
theorem Exact.putStatement_self (h : c.Exact) {i : Nat} {s : Statement}
    (hs : c.statements[i]? = some s) : c.putStatement i s = c := by
  have statements : c.statements.set i s = c.statements := by
    refine List.ext_getElem? fun j => ?_
    rw [List.getElem?_set']
    split
    · next hij =>
      subst hij
      rw [hs]
      rfl
    · rfl
  have registry : (if s.closed then c.registry.filter (· ≠ i) else c.registry) = c.registry := by
    split
    · next closed =>
      -- a closed statement has left the registry
      refine List.filter_eq_self.mpr fun j hj => ?_
      rw [decide_eq_true_iff]
      rintro rfl
      obtain ⟨t, ht, isOpen⟩ := (h.mem_registry j).mp hj
      rw [hs, Option.some.injEq] at ht
      rw [← ht, closed] at isOpen
      exact absurd isOpen.symm Bool.false_ne_true
    · rfl
  unfold Connection.putStatement
  rw [statements, registry]

theorem Exact.refuses (h : c.Exact) (has : c.Has id Cursor.Lapsed) : c.Refuses id := by
  have lapsed := has.cursor
  have closed := lapsed.closed
  have idle : ¬(c.cursor id).reading = true := by
    rw [lapsed.idle]
    exact Bool.false_ne_true
  have unregistered (o : Bool) : id.cursor ∉ (c.statement id.statement).registry o := by
    intro hmem
    obtain ⟨s, hs, k, hk, hl⟩ := has
    obtain ⟨k', hk', -, isOpen⟩ := ((h.statement id.statement).mem_registry o id.cursor).mp hmem
    rw [statement_of_getElem? hs, hk, Option.some.injEq] at hk'
    rw [← hk', hl.closed] at isOpen
    exact absurd isOpen.symm Bool.false_ne_true
  exact {
    lapsed := lapsed
    network := unregistered true
    memory := unregistered false
    next := by
      unfold startNext
      rw [if_neg idle]
      simp [withCursor, Cursor.startNext_of_closed closed]
    rowNumber := by simp [Cursor.rowNumber, Cursor.whenOpen, closed]
    isBeforeFirst := by simp [Cursor.isBeforeFirst, Cursor.whenOpen, closed]
    isFirst := by simp [Cursor.isFirst, Cursor.whenOpen, closed]
    isAfterLast := by simp [Cursor.isAfterLast, Cursor.whenOpen, closed]
    findColumn := by simp [Cursor.findColumn, closed]
    lastWasNull := by simp [Cursor.lastWasNull, Cursor.whenOpen, closed]
    get := by
      intro target ref
      unfold get
      rw [if_neg idle]
      simp [withCursor, Cursor.get, closed]
    close := by
      obtain ⟨s, hs, k, hk, hl⟩ := has
      have same : s.closeCursor id.cursor = s := by
        unfold Statement.closeCursor Statement.isClosedCursor
        rw [hk]
        exact if_pos hl.closed
      have put : c.closeCursor id =
          c.putStatement id.statement ((c.statement id.statement).closeCursor id.cursor) := rfl
      rw [put, statement_of_getElem? hs, same]
      exact h.putStatement_self hs }

/-- Going to the next row of a cursor that is closed while its rows are read: it fails, and the
cursor is left without rows. -/
theorem nextAmid_of_closed {during : List (Nat × Operation × Answers)}
    (reads : (c.startNext id).1 = none)
    (has : ((c.startNext id).2.whileReading id during).Has id fun k => k.closed = true) :
    (c.nextAmid id during).1 = .error Cursor.closedError ∧
      (c.nextAmid id during).2.Has id Cursor.Lapsed ∧ Steps c (c.nextAmid id during).2 := by
  have started := steps_startNext c id
  unfold nextAmid
  split
  · next answer d heq =>
    rw [heq] at reads
    exact absurd reads (by simp)
  · next d heq =>
    rw [heq] at has started
    have read := started.trans (steps_whileReading d id during)
    have closed := has.cursor
    have concluded := Cursor.conclude_of_closed _ (d.cursor id).pull closed
    refine ⟨concluded.1, (has.withCursor _).imp fun k hk => ?_,
      read.trans (steps_withCursor _ id fun k => k.moved_conclude _)⟩
    rw [hk]
    exact concluded.2

/-- **A cursor that is closed while it is being read refuses from then on**, wherever in the read it
is closed, with whatever it is closed and whatever has been read: going to the next row fails, and
the cursor is left closed for good, without rows and registered nowhere. -/
theorem nextAmid_refuses (config : ClientConfig) (server : Option String)
    (before : List (Operation × Answers)) (id : CursorId)
    (early late : List (Nat × Operation × Answers))
    (reads : (((create config server).run before).startNext id).1 = none)
    (shut : ((((create config server).run before).startNext id).2.whileReading id early).Shut id) :
    let c := (create config server).run before
    let next := c.nextAmid id (early ++ late)
    next.1 = .error Cursor.closedError ∧ ∀ later, (next.2.run later).Refuses id := by
  intro c next
  have exact : c.Exact := exact_run config server before
  have early_steps : Steps c ((c.startNext id).2.whileReading id early) :=
    (steps_startNext c id).trans (steps_whileReading _ id early)
  have created := (has_of_startNext reads).steps Cursor.lasts_true early_steps
  have closed : ((c.startNext id).2.whileReading id early).Has id fun k => k.closed = true :=
    (exact.steps early_steps).has_closed_of_shut created shut
  -- the cursor stays closed for the rest of the read
  have has : ((c.startNext id).2.whileReading id (early ++ late)).Has id
      fun k => k.closed = true := by
    rw [whileReading_append]
    exact closed.steps Cursor.lasts_closed (steps_whileReading _ id late)
  obtain ⟨failed, lapsed, steps⟩ := nextAmid_of_closed reads has
  refine ⟨failed, fun later => ?_⟩
  have later_steps := steps_run next.2 later
  exact (exact.steps (steps.trans later_steps)).refuses
    (lapsed.steps Cursor.lasts_lapsed later_steps)

/-- A service that answers every query with a row of one column. -/
def oneRowService : Answers :=
  let row := Text.Utf8.encode "\x7b\"n\":1\x7d]".toList
  { rowService with fetched := .ok ⟨.ofRefills [.bytes row], .never, .first⟩ }

/-- A session with a cursor before its first row, the current one of its statement. -/
def openCursor : List (Operation × Answers) :=
  [.createStatement, .execute (.text 0 "SELECT n FROM t"), .resultCursor 0].map (·, oneRowService)

theorem closedInTheRow_refuses :
    let c := (create .standard none).run openCursor
    let withConnection := c.nextAmid ⟨0, 0⟩
      [(2, .set 0 .closeOnCompletion, oneRowService), (3, .close, oneRowService)]
    let withResult := c.nextAmid ⟨0, 0⟩
      [(3, .moreResults 0, oneRowService), (2, .execute (.text 0 "SELECT n FROM t"), oneRowService)]
    (c.startNext ⟨0, 0⟩).1 = none ∧
    (withConnection.1 = .error Cursor.closedError ∧ withConnection.2.Refuses ⟨0, 0⟩) ∧
    withResult.1 = .error Cursor.closedError ∧ withResult.2.Refuses ⟨0, 0⟩ := by
  intro c withConnection withResult
  have reads : (c.startNext ⟨0, 0⟩).1 = none := by decide +kernel
  obtain ⟨failed, refuses⟩ := nextAmid_refuses .standard none openCursor ⟨0, 0⟩
    [(2, .set 0 .closeOnCompletion, oneRowService), (3, .close, oneRowService)] [] reads
    (.connection (by decide +kernel) (by decide +kernel))
  obtain ⟨failed', refuses'⟩ := nextAmid_refuses .standard none openCursor ⟨0, 0⟩
    [(3, .moreResults 0, oneRowService)]
    [(2, .execute (.text 0 "SELECT n FROM t"), oneRowService)] reads (.cursor (by decide +kernel))
  exact ⟨reads, ⟨failed, refuses []⟩, failed', refuses' []⟩

end Connection

end QueryClient
