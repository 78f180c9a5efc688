import QueryClient.Proofs.Connection.Token
import QueryClient.Proofs.Statement.Completion

/-!
# What an operation leaves alone

An operation on a statement, on a prepared one or on a cursor is about one statement
(`Connection.subject?`). Whatever comes of it, all other statements stay as they are, with their
cursors and parameters (`Confined`), and of the statement itself it changes no cursor but the one
that it is about, unless it closes some (`Local`). Most operations close nothing: their statement is
as open as it was and may have got another cursor (`Extends`). All this is so from one call of the
service to the next (`Dialogue.Legs`), whatever others do while it is at work; of an execution it is
enough to see it part by part (`Covers`, `legs_of_covers`). Main statement: `operation_confined`.
-/

namespace QueryClient

/-! ## From call to call -/

namespace Dialogue

variable {α : Type} {R R' : Connection → Connection → Prop} {c : Connection} {d : Dialogue α}

/-- Between two calls a dialogue leads from the connection that it finds to one that `R` relates to
it, whatever has been done to the connection meanwhile. -/
def Legs (R : Connection → Connection → Prop) (c : Connection) : Dialogue α → Prop
  | .done _ d => R c d
  | .submit _ d next => R c d ∧ ∀ e answer, Legs R e (next e answer)
  | .fetch _ d next => R c d ∧ ∀ e fetched, Legs R e (next e fetched)
  | .cancel _ d next => R c d ∧ ∀ e answer, Legs R e (next e answer)
  | .ping _ d next => R c d ∧ ∀ e answer, Legs R e (next e answer)
  | .close d next => R c d ∧ ∀ e answer, Legs R e (next e answer)

theorem Goes.legs (h : d.Goes R R c) : d.Legs R c := by
  induction d generalizing c with
  | done result e => exact h
  | submit submission e next ih => exact h.elim
  | fetch response e next ih => exact ⟨h.1, fun a b => ih a b (h.2 a b)⟩
  | cancel token e next ih => exact ⟨h.1, fun a b => ih a b (h.2 a b)⟩
  | ping timeout e next ih => exact ⟨h.1, fun a b => ih a b (h.2 a b)⟩
  | close e next ih => exact ⟨h.1, fun a b => ih a b (h.2 a b)⟩

theorem Legs.mono (h : d.Legs R c) (imp : ∀ a b, R a b → R' a b) : d.Legs R' c := by
  induction d generalizing c with
  | done result e => exact imp _ _ h
  | submit submission e next ih => exact ⟨imp _ _ h.1, fun a b => ih a b (h.2 a b)⟩
  | fetch response e next ih => exact ⟨imp _ _ h.1, fun a b => ih a b (h.2 a b)⟩
  | cancel token e next ih => exact ⟨imp _ _ h.1, fun a b => ih a b (h.2 a b)⟩
  | ping timeout e next ih => exact ⟨imp _ _ h.1, fun a b => ih a b (h.2 a b)⟩
  | close e next ih => exact ⟨imp _ _ h.1, fun a b => ih a b (h.2 a b)⟩

theorem Legs.forget (h : d.Legs R c) : d.forget.Legs R c := by
  induction d generalizing c with
  | done result e => exact h
  | submit submission e next ih => exact ⟨h.1, fun a b => ih a b (h.2 a b)⟩
  | fetch response e next ih => exact ⟨h.1, fun a b => ih a b (h.2 a b)⟩
  | cancel token e next ih => exact ⟨h.1, fun a b => ih a b (h.2 a b)⟩
  | ping timeout e next ih => exact ⟨h.1, fun a b => ih a b (h.2 a b)⟩
  | close e next ih => exact ⟨h.1, fun a b => ih a b (h.2 a b)⟩

/-- The first leg. -/
theorem Legs.connection (h : d.Legs R c) : R c d.connection := by
  cases d with
  | done result e => exact h
  | _ => exact h.1

/-- The legs after an answer. -/
theorem Legs.resume (h : d.Legs R c) (waits : d.call? ≠ none) (answers : Answers) (e : Connection) :
    (d.resume answers e).Legs R e := by
  cases d with
  | done result e => exact absurd rfl waits
  | _ => exact h.2 _ _

/-- A dialogue that is left alone goes one leg after the other. -/
theorem Legs.settle (h : d.Legs R c) (trans : ∀ {a b e}, R a b → R b e → R a e)
    (answers : Answers) : R c (d.settle answers).connection := by
  induction d generalizing c with
  | done result e => exact h
  | submit submission e next ih => exact trans h.1 (ih e _ (h.2 e _))
  | fetch response e next ih => exact trans h.1 (ih e _ (h.2 e _))
  | cancel token e next ih => exact trans h.1 (ih e _ (h.2 e _))
  | ping timeout e next ih => exact trans h.1 (ih e _ (h.2 e _))
  | close e next ih => exact trans h.1 (ih e _ (h.2 e _))

end Dialogue

/-! ## From part to part -/

/-- Whether an operation executes a statement or goes on with what an execution has left behind. -/
def Operation.executing : Operation → Bool
  | .executeQuery _ | .executeUpdate _ | .execute _ | .resultCursor _ => true
  | _ => false

namespace Connection

/-- Each part of an execution of statement `i`, and of going on with what it has left behind, leads
to a connection that `R` relates to the one before. -/
structure Covers (R : Connection → Connection → Prop) (i : Nat) : Prop where
  refl : ∀ c, R c c
  trans : ∀ {c d e}, R c d → R d e → R c e
  ended : ∀ c, R c (c.endExecution i)
  recorded : ∀ c r updateCount pending,
    R c (c.modifyStatement i fun s => s.recordOutcome r updateCount pending)
  taken : ∀ c, R c (c.modifyStatement i fun s => { s with pending := none })
  noted : ∀ c k, R c (c.setCurrent ⟨i, k⟩)
  made : ∀ c (r : QueryResponse) columns rows, r.opening = .ok (.memory columns rows) →
    R c (c.memoryCursor i columns rows).2
  opened : ∀ c columns fetched, R c (c.openNetworkCursor i columns fetched).2

variable {R : Connection → Connection → Prop} {i : Nat}

theorem Covers.answerUpdate (h : Covers R i) (c : Connection) (answer : Result QueryResponse) :
    R c (c.answerUpdate i answer).2 := by
  unfold Connection.answerUpdate
  split
  · exact h.ended c
  · split
    · exact h.ended c
    · exact h.trans (h.recorded c _ _ _) (h.ended _)

theorem Covers.answerAny (h : Covers R i) (c : Connection) (answer : Result QueryResponse) :
    R c (c.answerAny i answer).2 := by
  unfold Connection.answerAny
  split
  · exact h.ended c
  · split <;> exact h.trans (h.recorded c _ _ _) (h.ended _)

theorem Covers.queryAnswered (h : Covers R i) (c : Connection) (answer : Result QueryResponse) :
    (c.queryAnswered i answer).Goes R R c := by
  unfold Connection.queryAnswered answerQuery
  cases answer with
  | error e => exact h.ended c
  | ok r =>
    by_cases hq : r.isQuery = true
    · have recorded := h.recorded c r none none
      simp only [hq, if_true]
      cases hopening : r.opening with
      | error e => exact h.trans recorded (h.ended _)
      | ok opening =>
        cases opening with
        | memory columns rows =>
          exact h.trans (h.trans recorded (h.made _ r columns rows hopening)) (h.ended _)
        | fetch columns =>
          exact ⟨recorded, fun d fetched => h.trans (h.opened d columns fetched) (h.ended _)⟩
    · simp only [hq]
      exact h.ended c

theorem Covers.finishResult (h : Covers R i) (c : Connection) (columns : List Column)
    (fetched : Result ElementStream) : R c (c.finishResult i columns fetched).2 := by
  have opened := h.opened c columns fetched
  cases fetched with
  | error e => exact opened
  | ok elements => exact h.trans opened (h.noted _ _)

theorem Covers.takeResult (h : Covers R i) (c : Connection) : R c (c.takeResult i).2 := by
  have taken := h.taken c
  unfold Connection.takeResult
  simp only
  split
  · exact h.refl c
  · split
    · exact h.refl c
    · split
      · exact taken
      · next columns rows hopening =>
        exact h.trans (h.trans taken (h.made _ _ columns rows hopening)) (h.noted _ _)
      · exact taken

theorem Covers.resultCursor (h : Covers R i) (c : Connection) :
    (c.resultCursor i).Goes R R c := by
  have taken := h.takeResult c
  unfold Connection.resultCursor
  split
  · next heq => rwa [heq] at taken
  · next response columns d heq =>
    rw [heq] at taken
    exact ⟨taken, fun e fetched => h.finishResult e columns fetched⟩

variable {c : Connection} {op : Operation}

/-- What is executed goes on with the answer to its submission, if it is not refused. -/
theorem Runs.legs {α : Type} {D : Dialogue α}
    {next : Nat → Connection → Result QueryResponse → Dialogue α} (runs : Runs c op D next)
    (stays : ∀ e, R e e)
    (goes : ∀ i, c.executes op = some i → ∀ e answer, (next i e answer).Goes R R e) :
    D.forget.Legs R c := by
  refine Dialogue.Legs.forget ?_
  cases runs with
  | refused e submits dialogue =>
    rw [dialogue]
    exact stays c
  | submitted submission i submits executes there token dialogue =>
    rw [dialogue]
    exact ⟨stays c, fun e answer => (goes i executes e answer).legs⟩

/-- **What covers the parts of an execution covers the execution**, from call to call. -/
theorem legs_of_covers (executing : op.executing = true) (stays : ∀ e, R e e)
    (covers : ∀ i, c.executes op = some i ∨ op = .resultCursor i → Covers R i) :
    (c.dialogue op).Legs R c := by
  cases op with
  | executeQuery what =>
    exact (c.runs_executeQuery what).legs stays fun i executes e answer =>
      (covers i (Or.inl executes)).queryAnswered e answer
  | executeUpdate what =>
    exact (c.runs_executeUpdate what).legs stays fun i executes e answer =>
      (covers i (Or.inl executes)).answerUpdate e answer
  | execute what =>
    exact (c.runs_execute what).legs stays fun i executes e answer =>
      (covers i (Or.inl executes)).answerAny e answer
  | resultCursor i => exact ((covers i (Or.inr rfl)).resultCursor c).legs.forget
  | _ => cases executing

/-! What only asks something of the service changes nothing. -/

theorem legs_cancel (stays : ∀ e, R e e) (c : Connection) (i : Nat) :
    (c.dialogue (.cancel i)).Legs R c := by
  show (c.cancelRunning i).Legs R c
  unfold cancelRunning
  split
  · exact stays c
  · exact ⟨stays c, fun e _ => stays e⟩

theorem legs_cancelIfCurrent (stays : ∀ e, R e e) (c : Connection) (i : Nat) (token : Token) :
    (c.dialogue (.cancelIfCurrent i token)).Legs R c := by
  show (c.cancelIfCurrent i token).Legs R c
  unfold cancelIfCurrent
  split
  · exact stays c
  · exact stays c
  · exact ⟨stays c, fun e _ => stays e⟩

theorem legs_isValid (stays : ∀ e, R e e) (c : Connection) (timeout : Nat) :
    (c.dialogue (.isValid timeout)).Legs R c := by
  show (c.isValid timeout).forget.Legs R c
  unfold isValid
  split
  · exact stays c
  · exact ⟨stays c, fun e _ => stays e⟩

/-- Closing the registered statements is closing one after the other. -/
theorem closeStatements_of (stays : ∀ e, R e e) (trans : ∀ {c d e}, R c d → R d e → R c e)
    (closes : ∀ d i, R d (d.closeStatement i)) (c : Connection) :
    R { c with registry := [] } c.closeStatements := by
  have closing (places : List Nat) (d : Connection) : R d (places.foldl closeStatement d) := by
    induction places generalizing d with
    | nil => exact stays d
    | cons i places ih => exact trans (closes d i) (ih _)
  exact closing c.registry { c with registry := [] }

/-- What follows when the service is closed changes nothing. -/
theorem legs_teardown (stays : ∀ e, R e e) {closing : Bool × Connection} (h : R c closing.2) :
    (teardown closing).Legs R c := by
  obtain ⟨due, d⟩ := closing
  cases due with
  | true => exact ⟨h, fun e _ => stays e⟩
  | false => exact h

end Connection

/-! ## Statements -/

namespace Statement

/-- A statement is as open as it was, and it has the same cursors and maybe more. Its registries are
exact as long as they were and it is open. -/
structure Extends (s t : Statement) : Prop where
  closed : t.closed = s.closed
  cursors : s.cursors <+: t.cursors
  exact : s.closed = false → s.Exact → t.Exact

theorem extends_of_eq {s t : Statement} (closed : t.closed = s.closed)
    (cursors : t.cursors = s.cursors) (network : t.networkCursors = s.networkCursors)
    (memory : t.memoryCursors = s.memoryCursors) : Extends s t :=
  ⟨closed, cursors ▸ List.prefix_rfl, fun _ h => h.other closed cursors network memory⟩

theorem Extends.refl (s : Statement) : Extends s s := extends_of_eq rfl rfl rfl rfl

theorem Extends.trans {s t u : Statement} (h : Extends s t) (h' : Extends t u) : Extends s u where
  closed := h'.closed.trans h.closed
  cursors := h.cursors.trans h'.cursors
  exact := fun isOpen exact => h'.exact (h.closed.trans isOpen) (h.exact isOpen exact)

theorem extends_register (s : Statement) (columns : List Column) (source : RowSource)
    (maxRows : Nat) : Extends s (s.register columns source maxRows).2 where
  closed := s.closed_register columns source maxRows
  cursors := ⟨_, (s.cursors_register columns source maxRows).symm⟩
  exact := fun isOpen exact => exact.register columns source maxRows isOpen

theorem extends_recordOutcome (s : Statement) (r : QueryResponse) (updateCount : Option Int)
    (pending : Option QueryResponse) : Extends s (s.recordOutcome r updateCount pending) :=
  extends_of_eq rfl rfl rfl rfl

theorem extends_set (s : Statement) (setting : Setting) : Extends s (s.set setting).2 := by
  cases setting <;>
    simp only [set, setTimeout, setMaxRows, clearWarnings, setCloseOnCompletion, change] <;>
    split <;> exact extends_of_eq rfl rfl rfl rfl

theorem Extends.getElem?_cursors {s t : Statement} (h : Extends s t) {k : Nat} {cursor : Cursor}
    (hk : s.cursors[k]? = some cursor) : t.cursors[k]? = some cursor := by
  obtain ⟨more, same⟩ := h.cursors
  rw [← same, List.getElem?_append_left (List.getElem?_eq_some_iff.mp hk).1]
  exact hk

/-- Closing a statement does nothing to a cursor but close it. -/
theorem getElem?_close {s : Statement} {k : Nat} {cursor : Cursor}
    (hk : s.cursors[k]? = some cursor) :
    s.close.cursors[k]? = some cursor ∨ s.close.cursors[k]? = some cursor.close := by
  cases hs : s.closed with
  | true =>
    rw [close, if_pos hs]
    exact Or.inl hk
  | false =>
    rw [cursors_close hs]
    have kept (a : Cursor) : a = cursor ∨ a = cursor.close →
        a.close = cursor ∨ a.close = cursor.close := by
      rintro (rfl | rfl)
      · exact Or.inr rfl
      · exact Or.inr (Cursor.close_of_closed (Cursor.closed_close cursor))
    obtain ⟨a, ha, rfl | rfl⟩ := exists_getElem?_modifyAll kept
      (s.networkCursors ++ s.memoryCursors) ⟨cursor, hk, Or.inl rfl⟩
    · exact Or.inl ha
    · exact Or.inr ha

end Statement

/-! ## Connections -/

namespace Connection

/-- Nothing has changed beyond statement `i` and the parameters of what is prepared on it. -/
structure Confined (i : Nat) (c d : Connection) : Prop where
  statements : ∀ j, j ≠ i → d.statements[j]? = c.statements[j]?
  prepared : ∀ (p : Nat) (own : PreparedStatement), c.prepared[p]? = some own →
    own.statement ≠ i → d.prepared[p]? = some own
  registry : ∀ j, j ≠ i → (j ∈ d.registry ↔ j ∈ c.registry)

/-- Statement `i` has been extended, and nothing else has changed. -/
structure Extends (i : Nat) (c d : Connection) : Prop extends Confined i c d where
  own : Statement.Extends (c.statement i) (d.statement i)
  listed : (c.statement i).closed = false → (i ∈ d.registry ↔ i ∈ c.registry)
  unlisted : i ∈ d.registry → i ∈ c.registry

theorem confined_of_eq {c d : Connection} (statements : d.statements = c.statements)
    (prepared : d.prepared = c.prepared) (registry : d.registry = c.registry) (i : Nat) :
    Confined i c d :=
  ⟨fun _ _ => by rw [statements], fun _ _ h _ => by rwa [prepared], fun _ _ => by rw [registry]⟩

theorem Confined.trans {i : Nat} {c d e : Connection} (h : Confined i c d) (h' : Confined i d e) :
    Confined i c e where
  statements := fun j hj => (h'.statements j hj).trans (h.statements j hj)
  prepared := fun p own hp ho => h'.prepared p own (h.prepared p own hp ho) ho
  registry := fun j hj => (h'.registry j hj).trans (h.registry j hj)

theorem Confined.statement {i j : Nat} {c d : Connection} (h : Confined i c d) (hj : j ≠ i) :
    d.statement j = c.statement j := by
  rw [Connection.statement, Connection.statement, h.statements j hj]

theorem confined_putStatement (c : Connection) (i : Nat) (s : Statement) :
    Confined i c (c.putStatement i s) where
  statements := by
    intro j hj
    rw [getElem?_putStatement, if_neg hj.symm]
  prepared := fun _ _ h _ => h
  registry := by
    intro j hj
    rw [mem_registry_putStatement]
    exact and_iff_left fun h => hj h.2

theorem extends_of_eq {c d : Connection} (statements : d.statements = c.statements)
    (prepared : d.prepared = c.prepared) (registry : d.registry = c.registry) (i : Nat) :
    Extends i c d where
  toConfined := confined_of_eq statements prepared registry i
  own := by
    rw [statement, statement, statements]
    exact .refl _
  listed := fun _ => by rw [registry]
  unlisted := fun h => registry ▸ h

theorem Extends.refl (i : Nat) (c : Connection) : Extends i c c := extends_of_eq rfl rfl rfl i

theorem Extends.trans {i : Nat} {c d e : Connection} (h : Extends i c d) (h' : Extends i d e) :
    Extends i c e where
  toConfined := h.toConfined.trans h'.toConfined
  own := h.own.trans h'.own
  listed := fun isOpen => (h'.listed (h.own.closed.trans isOpen)).trans (h.listed isOpen)
  unlisted := fun hmem => h.unlisted (h'.unlisted hmem)

theorem extends_putStatement {c : Connection} {i : Nat} {s : Statement}
    (h : Statement.Extends (c.statement i) s) : Extends i c (c.putStatement i s) where
  toConfined := confined_putStatement c i s
  own := by
    rcases Nat.lt_or_ge i c.statements.length with hi | hi
    · rw [statement_putStatement hi]
      exact h
    · -- there is no such statement, neither before nor after
      have same : (c.putStatement i s).statements = c.statements := List.set_eq_of_length_le hi
      rw [statement, statement, same]
      exact .refl _
  listed := by
    intro isOpen
    rw [mem_registry_putStatement, h.closed, isOpen]
    exact and_iff_left fun hne => Bool.false_ne_true hne.1
  unlisted := by
    rw [mem_registry_putStatement]
    exact And.left

/-! ### Executions -/

theorem extends_endExecution (c : Connection) (i : Nat) : Extends i c (c.endExecution i) := by
  have drawn : Extends i c c.drawToken.2 :=
    extends_of_eq (c := c) (d := c.drawToken.2) rfl rfl rfl i
  exact drawn.trans (extends_putStatement (Statement.extends_of_eq rfl rfl rfl rfl))

theorem extends_recordOutcome (c : Connection) (i : Nat) (r : QueryResponse)
    (updateCount : Option Int) (pending : Option QueryResponse) :
    Extends i c (c.modifyStatement i fun s => s.recordOutcome r updateCount pending) :=
  extends_putStatement (Statement.extends_recordOutcome _ r updateCount pending)

theorem extends_memoryCursor (c : Connection) (i : Nat) (columns : List Column) (rows : List Row) :
    Extends i c (c.memoryCursor i columns rows).2 :=
  extends_putStatement (Statement.extends_register _ columns (.memory rows) 0)

theorem extends_openNetworkCursor (c : Connection) (i : Nat) (columns : List Column)
    (fetched : Result ElementStream) : Extends i c (c.openNetworkCursor i columns fetched).2 := by
  cases fetched with
  | error e => exact .refl i c
  | ok elements =>
    exact extends_putStatement (Statement.extends_register _ columns (.stream elements) _)

theorem extends_setCurrent (c : Connection) (i k : Nat) : Extends i c (c.setCurrent ⟨i, k⟩) :=
  extends_putStatement (Statement.extends_of_eq rfl rfl rfl rfl)

theorem covers_extends (i : Nat) : Covers (Extends i) i where
  refl := .refl i
  trans := .trans
  ended c := extends_endExecution c i
  recorded c := extends_recordOutcome c i
  taken _ := extends_putStatement (Statement.extends_of_eq rfl rfl rfl rfl)
  noted c := extends_setCurrent c i
  made c _ columns rows _ := extends_memoryCursor c i columns rows
  opened c := extends_openNetworkCursor c i

/-! ## What an operation is about -/

end Connection

/-- The statement that is executed. -/
def Executable.statement (what : Executable) (c : Connection) : Nat :=
  match what with
  | .text i _ => i
  | .prepared p => (c.preparedStatement p).statement

theorem Executable.statement_request (what : Executable) (c : Connection) (purpose : Purpose) :
    (what.request c purpose).statement = what.statement c := by
  cases what <;> rfl

/-- The cursor that an operation is about, if it is one on a cursor. -/
def Operation.cursor? : Operation → Option CursorId
  | .startNext id | .finishNext id | .get id _ _ | .closeCursor id | .dropCursor id => some id
  | _ => none

namespace Connection

/-- The statement that an operation is about: that on which it is called itself, or that of the
prepared statement or of the cursor on which it is. -/
def subject? (c : Connection) : Operation → Option Nat
  | .executeQuery what | .executeUpdate what | .execute what => some (what.statement c)
  | .resultCursor i | .moreResults i | .generatedKeys i | .set i _ | .cancel i
  | .cancelIfCurrent i _ | .closeStatement i => some i
  | .bindParam p _ _ | .clearParams p => some (c.preparedStatement p).statement
  | .startNext id | .finishNext id | .get id _ _ | .closeCursor id | .dropCursor id =>
    some id.statement
  | _ => none

/-- What is executed is what an operation is about. -/
theorem statement_of_executes {c : Connection} {op : Operation} {i j : Nat}
    (subject : c.subject? op = some i) (executes : c.executes op = some j) : j = i := by
  obtain ⟨submission, -, request⟩ := Option.bind_eq_some_iff.mp executes
  obtain ⟨q, hq, rfl⟩ := Option.map_eq_some_iff.mp request
  cases op with
  | executeQuery what | executeUpdate what | execute what =>
    cases hq
    cases subject
    exact what.statement_request c _
  | prepare sql => cases subject
  | _ => cases hq

/-- Whether an operation on a statement may close something or change the parameters or a cursor
that are there already. -/
def alters : Operation → Bool
  | .moreResults _ | .closeStatement _ | .bindParam _ _ _ | .clearParams _ => true
  | op => op.cursor?.isSome

/-- What alters nothing extends its statement. -/
theorem legs_extends {c : Connection} {op : Operation} {i : Nat} (subject : c.subject? op = some i)
    (extending : alters op = false) : (c.dialogue op).Legs (Extends i) c := by
  cases op with
  | executeQuery | executeUpdate | execute =>
    refine legs_of_covers rfl (.refl i) fun j executed => ?_
    obtain rfl := statement_of_executes subject (executed.resolve_right nofun)
    exact covers_extends j
  | resultCursor j =>
    cases subject
    refine legs_of_covers rfl (.refl i) fun j executed => ?_
    rcases executed with executes | same
    · cases executes
    · cases same
      exact covers_extends i
  | generatedKeys j =>
    cases subject
    show Extends i c (c.generatedKeys i).2
    unfold generatedKeys
    split
    · exact .refl i c
    · exact extends_memoryCursor c i [] []
  | set j setting =>
    cases subject
    exact extends_putStatement (Statement.extends_set _ setting)
  | cancel j => exact legs_cancel (.refl i) c j
  | cancelIfCurrent j token => exact legs_cancelIfCurrent (.refl i) c j token
  | moreResults | closeStatement | bindParam | clearParams | startNext | finishNext | get
    | closeCursor | dropCursor => cases extending
  | _ => cases subject

/-- What operation `op` on statement `i` changes at most: nothing beyond the statement, and of its
cursors only the one that it is about. Closing the statement closes its cursors, and being done with
a result closes the current one. -/
structure Local (op : Operation) (i : Nat) (c d : Connection) : Prop extends Confined i c d where
  cursors : ∀ (k : Nat) (cursor : Cursor), (c.statement i).cursors[k]? = some cursor →
    op.cursor? ≠ some ⟨i, k⟩ →
      (d.statement i).cursors[k]? = some cursor ∨
        (op = .closeStatement i ∨ op = .moreResults i ∧ (c.statement i).current = some k) ∧
          (d.statement i).cursors[k]? = some cursor.close

theorem Extends.local {op : Operation} {i : Nat} {c d : Connection} (h : Extends i c d) :
    Local op i c d :=
  ⟨h.toConfined, fun _ _ hk _ => Or.inl (h.own.getElem?_cursors hk)⟩

theorem local_setParams {op : Operation} {c : Connection} {p : Nat} {params : List Param} :
    Local op (c.preparedStatement p).statement c (c.setParams p params) where
  statements := fun _ _ => rfl
  prepared := by
    intro q own hq ho
    rw [setParams, List.getElem?_modify, hq]
    split
    · next hpq =>
      subst hpq
      rw [preparedStatement, hq] at ho
      exact absurd rfl ho
    · rfl
  registry := fun _ _ => Iff.rfl
  cursors := fun _ _ hk _ => Or.inl hk

theorem lt_of_getElem?_cursors {c : Connection} {i k : Nat} {cursor : Cursor}
    (hk : (c.statement i).cursors[k]? = some cursor) : i < c.statements.length := by
  rcases Nat.lt_or_ge i c.statements.length with hi | hi
  · exact hi
  · rw [statement_of_length_le hi] at hk
    cases hk

/-- A statement may be replaced by one whose cursors have changed no further. -/
theorem local_putStatement {op : Operation} {c : Connection} {i : Nat} {s : Statement}
    (cursors : ∀ (k : Nat) (cursor : Cursor), (c.statement i).cursors[k]? = some cursor →
      op.cursor? ≠ some ⟨i, k⟩ →
        s.cursors[k]? = some cursor ∨
          (op = .closeStatement i ∨ op = .moreResults i ∧ (c.statement i).current = some k) ∧
            s.cursors[k]? = some cursor.close) :
    Local op i c (c.putStatement i s) := by
  refine ⟨confined_putStatement c i s, fun k cursor hk hne => ?_⟩
  rw [statement_putStatement (lt_of_getElem?_cursors hk)]
  exact cursors k cursor hk hne

/-- What changes one cursor changes no other one. -/
theorem local_modifyCursor {op : Operation} {c : Connection} {id : CursorId} {s : Statement}
    {f : Cursor → Cursor} (about : op.cursor? = some id)
    (cursors : s.cursors = ((c.statement id.statement).modifyCursor id.cursor f).cursors) :
    Local op id.statement c (c.putStatement id.statement s) := by
  refine local_putStatement fun k cursor hk hne => Or.inl ?_
  rw [cursors, Statement.getElem?_modifyCursor, if_neg, hk]
  rintro rfl
  exact hne about

theorem local_moreResults (c : Connection) (i : Nat) :
    Local (.moreResults i) i c (c.moreResults i).2 := by
  refine local_putStatement fun k cursor hk _ => ?_
  refine (Statement.getElem?_moreResults _ hk).imp_right ?_
  rintro ⟨current, closed⟩
  exact ⟨Or.inr ⟨rfl, current⟩, closed⟩

theorem local_closeStatement (c : Connection) (i : Nat) :
    Local (.closeStatement i) i c (c.closeStatement i) := by
  refine local_putStatement fun k cursor hk _ => ?_
  exact (Statement.getElem?_close hk).imp_right fun closed => ⟨Or.inl rfl, closed⟩

/-- What alters its statement does so at once, and locally. -/
theorem dialogue_of_alters {c : Connection} {op : Operation} {i : Nat}
    (subject : c.subject? op = some i) (altering : alters op = true) :
    ∃ result d, c.dialogue op = .done result d ∧ Local op i c d := by
  have same : Local op i c c := (Extends.refl i c).local
  cases op with
  | bindParam p position value =>
    cases subject
    refine ⟨_, _, rfl, ?_⟩
    unfold bindParam
    simp only
    split
    · exact same
    · split
      · exact same
      · exact local_setParams
  | clearParams p =>
    cases subject
    refine ⟨_, _, rfl, ?_⟩
    unfold clearParams
    simp only
    split
    · exact same
    · exact local_setParams
  | startNext id =>
    cases subject
    refine ⟨_, _, rfl, ?_⟩
    unfold startNext
    split
    · exact same
    · exact local_modifyCursor rfl rfl
  | finishNext id =>
    cases subject
    refine ⟨_, _, rfl, ?_⟩
    unfold finishNext
    split
    · exact local_modifyCursor rfl rfl
    · exact same
  | get id target column =>
    cases subject
    refine ⟨_, _, rfl, ?_⟩
    unfold get
    split
    · exact same
    · exact local_modifyCursor rfl rfl
  | moreResults j =>
    cases subject
    exact ⟨_, _, rfl, local_moreResults c i⟩
  | closeStatement j =>
    cases subject
    exact ⟨_, _, rfl, local_closeStatement c i⟩
  | closeCursor id =>
    cases subject
    exact ⟨_, _, rfl, local_modifyCursor rfl (Statement.cursors_closeCursor _ _)⟩
  | dropCursor id =>
    cases subject
    exact ⟨_, _, rfl, local_modifyCursor rfl (Statement.cursors_dropCursor _ _)⟩
  | _ => cases altering

/-- From call to call an operation on a statement is local. -/
theorem legs_local {c : Connection} {op : Operation} {i : Nat} (subject : c.subject? op = some i) :
    (c.dialogue op).Legs (Local op i) c := by
  cases altering : alters op with
  | false => exact (legs_extends subject altering).mono fun _ _ h => h.local
  | true =>
    obtain ⟨result, d, done, changes⟩ := dialogue_of_alters subject altering
    rw [done]
    exact changes

theorem local_after {c : Connection} {op : Operation} {i : Nat} (answers : Answers)
    (subject : c.subject? op = some i) : Local op i c (c.after (op, answers)) := by
  rw [after, perform_eq_effect]
  cases altering : alters op with
  | false => exact ((legs_extends subject altering).settle Extends.trans answers).local
  | true =>
    obtain ⟨result, d, done, changes⟩ := dialogue_of_alters subject altering
    rw [done]
    exact changes

/-- Closing a cursor changes no other one, and so does taking back the client's handle. -/
theorem cursor_of_ne {c : Connection} {op : Operation} {id other : CursorId} (answers : Answers)
    (closing : op = .closeCursor id ∨ op = .dropCursor id) (hne : other ≠ id) :
    (c.after (op, answers)).cursor other = c.cursor other := by
  have untouched {f : Cursor → Cursor} {s : Statement}
      (cursors : s.cursors = ((c.statement id.statement).modifyCursor id.cursor f).cursors) :
      (c.putStatement id.statement s).cursor other = c.cursor other := by
    obtain ⟨i, k⟩ := other
    unfold cursor
    by_cases hi : id.statement = i
    · subst hi
      have hk : id.cursor ≠ k := fun h => hne (congrArg _ h.symm)
      have same := apply_putStatement (fun s => s.cursors[k]?) (c := c) (i := id.statement)
        (s := s) (by rw [cursors, Statement.getElem?_modifyCursor, if_neg hk]) id.statement
      exact congrArg (fun k => k.getD noCursor) same
    · rw [statement_putStatement_of_ne hi]
  rcases closing with rfl | rfl
  · exact untouched (Statement.cursors_closeCursor _ _)
  · exact untouched (Statement.cursors_dropCursor _ _)

/-- **An operation on a statement, on a prepared one or on a cursor stays with its statement.**
Whatever the service answers and whatever others do while it is at work, every other statement keeps
all that it is and has, and so do what is prepared on it and its cursors. Of the cursors of the
statement only the one changes that the operation is about, unless the operation closes the
statement or is done with its current cursor. Closing one cursor changes no other one at all. -/
theorem operation_confined {c : Connection} {op : Operation} {i : Nat} (answers : Answers)
    (subject : c.subject? op = some i) :
    let d := c.after (op, answers)
    (∀ j, j ≠ i → d.statements[j]? = c.statements[j]? ∧ (j ∈ d.registry ↔ j ∈ c.registry)) ∧
    (∀ (p : Nat) (own : PreparedStatement), c.prepared[p]? = some own → own.statement ≠ i →
      d.prepared[p]? = some own) ∧
    (∀ (k : Nat) (cursor : Cursor), (c.statement i).cursors[k]? = some cursor →
      op.cursor? ≠ some ⟨i, k⟩ →
        (d.statement i).cursors[k]? = some cursor ∨
          (op = .closeStatement i ∨ op = .moreResults i ∧ (c.statement i).current = some k) ∧
            (d.statement i).cursors[k]? = some cursor.close) ∧
    (∀ id other, op = .closeCursor id ∨ op = .dropCursor id → other ≠ id →
      d.cursor other = c.cursor other) ∧
    (c.dialogue op).Legs (Local op i) c := by
  intro d
  have changes : Local op i c d := local_after answers subject
  refine ⟨?_, changes.prepared, changes.cursors, ?_, legs_local subject⟩
  · exact fun j hj => ⟨changes.statements j hj, changes.registry j hj⟩
  · exact fun id other closing hne => cursor_of_ne answers closing hne

/-- Two statements. The first one closes on completion; of its two cursors one is fed by the service
and one has its rows at hand. -/
def twoCursors : List (Operation × Answers) :=
  [.createStatement, .executeQuery (.text 0 "SELECT n FROM t"), .generatedKeys 0,
    .set 0 .closeOnCompletion, .createStatement].map (·, rowService)

/-- Closing one of the cursors leaves the other one open, and the other statement as it is. -/
theorem twoCursors_confined :
    let c := (create .standard none).run twoCursors
    let d := c.after (.closeCursor ⟨0, 0⟩, rowService)
    c.subject? (.closeCursor ⟨0, 0⟩) = some 0 ∧ (d.cursor ⟨0, 0⟩).closed = true ∧
      (d.cursor ⟨0, 1⟩).closed = false ∧ d.statements[1]? = c.statements[1]? := by
  intro c d
  have subject : c.subject? (.closeCursor ⟨0, 0⟩) = some 0 := rfl
  obtain ⟨statements, -, -, cursors, -⟩ := operation_confined rowService subject
  have kept : d.cursor ⟨0, 1⟩ = c.cursor ⟨0, 1⟩ :=
    cursors ⟨0, 0⟩ ⟨0, 1⟩ (Or.inl rfl) (by decide)
  refine ⟨subject, by decide +kernel, ?_, (statements 1 (by decide)).1⟩
  rw [kept]
  decide +kernel

end Connection

end QueryClient
