import QueryClient.Proofs.Connection.Locality
import QueryClient.Proofs.Connection.Shared

/-!
# What closes a statement

While operations overlap, a closed statement may get another cursor, so not all registries stay
exact. Those of the open statements do, and so does the registry of their connection (`Tracks`). So
a statement that closes on completion closes with its last cursor (`closed_iff_last_cursor`).

Most of what a client does closes no statement (`Spares`), and neither does going on with an answer
of the service, unless a statement could not be compiled. What can close a statement at all is
listed in `closed_by`. All but one of its cases close something: being done with a current result
that has been closed before completes a statement, too.
-/

namespace QueryClient

/-- Whether an operation may close a statement. -/
def Operation.closes : Operation → Bool
  | .close | .runDeferred | .drop | .moreResults _ | .closeStatement _ | .closeCursor _
  | .dropCursor _ => true
  | _ => false

namespace Connection

/-! ## Registries while operations overlap -/

/-- The registry holds precisely the open statements, whose own registries are exact. -/
structure Tracks (c : Connection) : Prop where
  registered : c.Registered
  exact : ∀ i, (c.statement i).closed = false → (c.statement i).Exact

variable {c d : Connection}

theorem tracks_create (config : ClientConfig) (server : Option String) :
    (create config server).Tracks := by
  have h := exact_create config server
  exact ⟨h.registered, fun i _ => h.statement i⟩

theorem Tracks.other (h : c.Tracks) (statements : d.statements = c.statements)
    (registry : d.registry = c.registry) : d.Tracks := by
  have same : d.statement = c.statement := by
    funext i
    rw [statement, statement, statements]
  refine ⟨?_, ?_⟩
  · intro i
    rw [registry, same]
    exact h.registered i
  · rw [same]
    exact h.exact

theorem Tracks.addStatement (h : c.Tracks) : c.addStatement.2.Tracks := by
  refine ⟨h.registered.addStatement, fun j => ?_⟩
  rw [statement_addStatement]
  split
  · exact fun _ => Statement.exact_create _
  · exact h.exact j

theorem Tracks.putStatement (h : c.Tracks) {i : Nat} {s : Statement}
    (steps : Statement.Steps (c.statement i) s) : (c.putStatement i s).Tracks := by
  have kept (hc : (c.statement i).closed = true) : s.closed = true :=
    Statement.closed_of_steps hc steps
  refine ⟨h.registered.putStatement kept, fun j isOpen => ?_⟩
  by_cases hij : i = j
  · subst hij
    have hi : i < c.statements.length := c.length_putStatement i s ▸ lt_of_open isOpen
    rw [statement_putStatement hi] at isOpen ⊢
    refine (h.exact i (Bool.eq_false_iff.mpr fun hc => ?_)).steps steps
    rw [kept hc] at isOpen
    cases isOpen
  · rw [statement_putStatement_of_ne hij] at isOpen ⊢
    exact h.exact j isOpen

theorem Tracks.closeStatements (h : c.Tracks) : c.closeStatements.Tracks := by
  have closed (i : Nat) : (c.closeStatements.statement i).closed = true := by
    have all := closed_of_mem_closeStatements
      fun i => (h.registered i).trans (exists_open_iff c i).symm
    rw [statement]
    cases hs : c.closeStatements.statements[i]? with
    | none => rfl
    | some s => exact all s (List.mem_of_getElem? hs)
  refine ⟨fun i => ?_, fun i isOpen => ?_⟩
  · rw [(rest_closeStatements c).1, closed i]
    exact iff_of_false List.not_mem_nil Bool.false_ne_true.symm
  · rw [closed i] at isOpen
    cases isOpen

theorem Tracks.step (h : c.Tracks) (step : Step c d) : d.Tracks := by
  cases step with
  | other _ _ statements registry => exact h.other statements registry
  | addStatement => exact h.addStatement
  | statement i s steps => exact h.putStatement steps
  | close => exact (h.other (d := { c with closed := true }) rfl rfl).closeStatements
  | closeDeferred => exact h.other rfl rfl
  | runDeferred => exact (h.other (d := { c with deferred := false }) rfl rfl).closeStatements

theorem Tracks.steps (h : c.Tracks) (steps : Steps c d) : d.Tracks := by
  induction steps with
  | refl => exact h
  | tail _ step ih => exact ih.step step

theorem Tracks.extends {i : Nat} (h : c.Tracks) (extended : Extends i c d) : d.Tracks := by
  refine ⟨fun j => ?_, fun j isOpen => ?_⟩
  · by_cases hj : j = i
    · subst hj
      rw [extended.own.closed, ← h.registered j]
      cases hc : (c.statement j).closed with
      | false => exact extended.listed hc
      | true =>
        have gone : j ∉ c.registry := by
          rw [h.registered j, hc]
          exact nofun
        exact iff_of_false (fun hd => gone (extended.unlisted hd)) gone
    · rw [extended.registry j hj, extended.statement hj]
      exact h.registered j
  · by_cases hj : j = i
    · subst hj
      have before := extended.own.closed.symm.trans isOpen
      exact extended.own.exact before (h.exact j before)
    · rw [extended.statement hj] at isOpen ⊢
      exact h.exact j isOpen

/-! ## What closes no statement -/

/-- No statement has been closed. -/
def Spares (c d : Connection) : Prop :=
  ∀ i, (c.statement i).closed = false → (d.statement i).closed = false

theorem Spares.refl (c : Connection) : Spares c c := fun _ => id

theorem Spares.trans {e : Connection} (h : Spares c d) (h' : Spares d e) : Spares c e :=
  fun i isOpen => h' i (h i isOpen)

theorem spares_of_statements_eq (statements : d.statements = c.statements) : Spares c d := by
  intro i isOpen
  rwa [statement, statements]

theorem spares_putStatement {i : Nat} {s : Statement} (closed : s.closed = (c.statement i).closed) :
    Spares c (c.putStatement i s) := by
  intro j isOpen
  rw [apply_putStatement Statement.closed closed]
  exact isOpen

theorem spares_addStatement (c : Connection) : Spares c c.addStatement.2 := by
  intro j isOpen
  rw [statement_addStatement]
  split
  · rfl
  · exact isOpen

theorem Extends.spares {i : Nat} (h : Extends i c d) : Spares c d := by
  intro j isOpen
  by_cases hj : j = i
  · subst hj
    exact h.own.closed.trans isOpen
  · rw [h.statement hj]
    exact isOpen

theorem spares_createStatement (c : Connection) : Spares c c.createStatement.2 := by
  unfold createStatement
  split
  · exact .refl c
  · exact spares_addStatement c

theorem spares_openCatalog (c : Connection) : Spares c c.openCatalog.2 := by
  unfold openCatalog
  split
  · exact .refl c
  · split
    · exact .refl c
    · exact (spares_addStatement c).trans (spares_of_statements_eq rfl)

theorem spares_catalogCursor (c : Connection) (columns : List Column) (rows : List Row) :
    Spares c (c.catalogCursor columns rows).2 := by
  have opened := spares_openCatalog c
  unfold catalogCursor
  split
  · next heq => rwa [heq] at opened
  · next i d heq =>
    rw [heq] at opened
    split
    · exact opened
    · exact opened.trans (extends_memoryCursor d i columns rows).spares

/-- A cursor that moves closes nothing. -/
theorem spares_withCursor {α : Type} (c : Connection) (id : CursorId) (f : Cursor → α × Cursor) :
    Spares c (c.withCursor id f).2 :=
  spares_putStatement rfl

/-- Preparing creates a statement if the connection is open, and waits then for what the service
says to it. -/
theorem spares_prepare (c : Connection) (sql : String) :
    Spares c (c.prepare sql).connection := by
  cases hc : c.closed with
  | true =>
    rw [prepare_of_closed hc]
    exact .refl c
  | false =>
    obtain ⟨submission, -, -, prepared⟩ := prepare_of_open hc sql
    rw [prepared]
    exact spares_addStatement c

/-- Going on with what has been compiled is a failure that closes the statement, or it changes no
statement. -/
theorem finishPrepare_closes_or_keeps (c : Connection) (i : Nat) (sql : String)
    (compiled : Result QueryResponse) :
    (∃ e, c.finishPrepare i sql compiled = (.error e, c.closeStatement i)) ∨
      ∃ p d, c.finishPrepare i sql compiled = (.ok p, d) ∧ d.statements = c.statements := by
  unfold finishPrepare
  split
  · exact Or.inl ⟨_, rfl⟩
  · exact Or.inr ⟨_, _, rfl, rfl⟩

theorem spares_dialogue (c : Connection) {op : Operation} (h : op.closes = false) :
    Spares c (c.dialogue op).connection := by
  cases op with
  | createStatement => exact spares_createStatement c
  | prepare sql =>
    show Spares c (c.prepare sql).forget.connection
    rw [Dialogue.connection_forget]
    exact spares_prepare c sql
  | openCatalog => exact spares_openCatalog c
  | typeInfo => exact spares_catalogCursor c _ _
  | emptyResult columns => exact spares_catalogCursor c columns []
  | setDataverse dataverse => exact spares_of_statements_eq (c.statements_setDataverse dataverse).1
  | clearWarnings =>
    show Spares c c.clearWarnings.2
    unfold clearWarnings
    split <;> exact spares_of_statements_eq rfl
  | isValid timeout =>
    show Spares c (c.isValid timeout).forget.connection
    unfold isValid
    split <;> exact .refl c
  | closeDeferred =>
    show Spares c c.closeDeferred.2
    unfold closeDeferred
    split <;> exact spares_of_statements_eq rfl
  | executeQuery | executeUpdate | execute | resultCursor | generatedKeys | set | cancel
    | cancelIfCurrent => exact (legs_extends rfl rfl).connection.spares
  | bindParam p position value =>
    exact spares_of_statements_eq (c.statements_bindParam p position value).1
  | clearParams p => exact spares_of_statements_eq (c.statements_clearParams p).1
  | startNext id =>
    show Spares c (c.startNext id).2
    unfold startNext
    split
    · exact .refl c
    · exact spares_withCursor c id _
  | finishNext id =>
    show Spares c (c.finishNext id).2
    unfold finishNext
    split
    · exact spares_withCursor c id fun k => k.pull.2.finishNext k.pull.1
    · exact .refl c
  | get id target column =>
    show Spares c (c.get id target column).2
    unfold get
    split
    · exact .refl c
    · exact spares_withCursor c id fun k => k.get target column
  | _ => cases h

/-! ## What calls the service -/

/-- What an operation does that calls the service. -/
inductive Calls (c : Connection) (op : Operation) : Prop where
  /-- It extends a statement, if it does anything. -/
  | extending (i : Nat) (legs : (c.dialogue op).Legs (Extends i) c)
  /-- It closes the connection, and does nothing more when the service is closed. -/
  | teardown (steps : Steps c (c.dialogue op).connection)
      (rest : ∀ answers e, ((c.dialogue op).resume answers e).Legs (Extends 0) e)
  /-- It compiles a new statement. -/
  | prepare (sql : String) (prepares : op = .prepare sql) (isOpen : c.closed = false)

/-- What has been compiled is gone on with at once. -/
theorem resume_prepare (isOpen : c.closed = false) (sql : String) (answers : Answers) :
    (c.dialogue (.prepare sql)).resume answers d = (Dialogue.ended
      ((d.endExecution c.statements.length).finishPrepare c.statements.length sql
        answers.submitted)).forget := by
  obtain ⟨submission, -, -, prepared⟩ := prepare_of_open isOpen sql
  rw [dialogue, prepared]
  rfl

theorem calls_teardown {op : Operation} {closing : Bool × Connection}
    (dialogue : c.dialogue op = teardown closing) (waits : (c.dialogue op).call? ≠ none)
    (steps : Steps c closing.2) : Calls c op := by
  obtain ⟨due, d⟩ := closing
  rw [dialogue] at waits
  cases due with
  | false => exact absurd rfl waits
  | true =>
    refine .teardown ?_ fun answers e => ?_
    · rw [dialogue]
      exact steps
    · rw [dialogue]
      exact Extends.refl 0 e

theorem calls_of_waits {op : Operation} (waits : (c.dialogue op).call? ≠ none) : Calls c op := by
  cases op with
  | prepare sql =>
    cases hc : c.closed with
    | true =>
      refine absurd ?_ waits
      show (c.prepare sql).forget.call? = none
      rw [prepare_of_closed hc]
      rfl
    | false => exact .prepare sql rfl hc
  | isValid timeout =>
    refine .extending 0 ?_
    show (c.isValid timeout).forget.Legs (Extends 0) c
    unfold isValid
    split
    · exact Extends.refl 0 c
    · exact ⟨.refl 0 c, fun e _ => Extends.refl 0 e⟩
  | close => exact calls_teardown rfl waits (steps_close c)
  | runDeferred => exact calls_teardown rfl waits (steps_runDeferred c)
  | drop => exact calls_teardown rfl waits (steps_drop c)
  | executeQuery | executeUpdate | execute | resultCursor | cancel | cancelIfCurrent =>
    exact .extending _ (legs_extends rfl rfl)
  | _ => exact absurd rfl waits

/-- What waits for no answer is over at once. -/
theorem steps_of_done {op : Operation} (done : (c.dialogue op).call? = none) :
    Steps c (c.dialogue op).connection := by
  -- no answer is asked for, so any will do
  have steps := steps_after c op
    ⟨.error closedError, .error closedError, .error closedError, false, .error closedError⟩
  rw [after, perform_eq_effect, effect] at steps
  cases hd : c.dialogue op with
  | done result d =>
    rw [hd] at steps
    exact steps
  | _ =>
    rw [hd] at done
    cases done

theorem Tracks.dialogue (h : c.Tracks) (op : Operation) : (c.dialogue op).connection.Tracks := by
  cases hcall : (c.dialogue op).call? with
  | none => exact h.steps (steps_of_done hcall)
  | some call =>
    have waits : (c.dialogue op).call? ≠ none := hcall ▸ nofun
    cases calls_of_waits waits with
    | extending i legs => exact h.extends legs.connection
    | teardown steps => exact h.steps steps
    | prepare sql prepares isOpen =>
      obtain ⟨submission, -, -, prepared⟩ := prepare_of_open isOpen sql
      rw [prepares]
      show (c.prepare sql).forget.connection.Tracks
      rw [prepared]
      exact h.addStatement

/-! ## What ends a cursor -/

theorem closed_cursor (c : Connection) (id : CursorId) :
    (c.cursor id).closed = (c.statement id.statement).isClosedCursor id.cursor := by
  rw [cursor, Statement.isClosedCursor_eq]
  cases (c.statement id.statement).cursors[id.cursor]? <;> rfl

/-- Closing a cursor, taking it back or being done with the current one ends cursors of one open
statement. -/
theorem Tracks.ends (h : c.Tracks) {op : Operation} {id : CursorId}
    (ending : op = .closeCursor id ∨ op = .dropCursor id ∨ op = .moreResults id.statement)
    (isOpen : (c.statement id.statement).closed = false) :
    Statement.Ends (fun k => (c.statement id.statement).isClosedCursor k = false ∨
        op = .moreResults id.statement ∧ (c.statement id.statement).Holds k)
      (c.statement id.statement) ((c.dialogue op).connection.statement id.statement) := by
  have exact := h.exact id.statement isOpen
  have there := lt_of_open isOpen
  rcases ending with rfl | rfl | rfl
  · have ends := exact.ends_closeCursor isOpen id.cursor
    show Statement.Ends _ _ ((c.closeCursor id).statement id.statement)
    rw [closeCursor, statement_modifyStatement there]
    exact ends.imp_right fun ⟨k, hk, completes⟩ => ⟨k, Or.inl hk, completes⟩
  · have ends := exact.ends_dropCursor isOpen id.cursor
    show Statement.Ends _ _ ((c.dropCursor id).statement id.statement)
    rw [dropCursor, statement_modifyStatement there]
    exact ends.imp_right fun ⟨k, hk, completes⟩ => ⟨k, Or.inl hk, completes⟩
  · have ends := exact.ends_moreResults isOpen
    show Statement.Ends _ _ ((c.moreResults id.statement).2.statement id.statement)
    rw [moreResults, withStatement, statement_putStatement there]
    exact ends.imp_right fun ⟨k, hk, completes⟩ => ⟨k, Or.inr ⟨rfl, hk⟩, completes⟩

/-- What would take the connection down closes nothing when the connection is down already. -/
theorem spares_of_isDown {op : Operation} (down : op = .close ∨ op = .drop ∨ op = .runDeferred)
    (h : op.takesDown c = false) : Spares c (c.dialogue op).connection := by
  rcases down with rfl | rfl | rfl
  · have same : c.close = (false, c) := if_pos (by simpa [Operation.takesDown] using h)
    rw [Connection.dialogue, same]
    exact .refl c
  · have hc : c.closed = true := by simpa [Operation.takesDown] using h
    have same : c.drop = (false, { c with dropped := true }) := by rw [drop, close, if_pos hc]
    rw [Connection.dialogue, same]
    exact spares_of_statements_eq rfl
  · have same : c.runDeferred = (false, c) := if_neg (Bool.eq_false_iff.mp h)
    rw [Connection.dialogue, same]
    exact .refl c

/-- A statement that closes with one of its cursors closes on completion. Either the cursor has been
open before, or the statement was spent. -/
theorem Tracks.completes_or_spent (h : c.Tracks) {op : Operation} (id : CursorId)
    (ending : op = .closeCursor id ∨ op = .dropCursor id ∨ op = .moreResults id.statement)
    (isOpen : (c.statement id.statement).closed = false)
    (closed : ((c.dialogue op).connection.statement id.statement).closed = true) :
    ((c.statement id.statement).closeOnCompletion = true ∧
      ∃ k, (c.cursor ⟨id.statement, k⟩).closed = false ∧
        ((c.dialogue op).connection.cursor ⟨id.statement, k⟩).closed = true) ∨
    (op = .moreResults id.statement ∧ (c.statement id.statement).Spent) := by
  rcases h.ends ending isOpen with ⟨still, -⟩ | ⟨k, hk, completes⟩
  · rw [still] at closed
    cases closed
  · obtain ⟨marked, others⟩ := completes.closed.mp closed
    cases hc : (c.statement id.statement).isClosedCursor k with
    | false =>
      refine Or.inl ⟨marked, k, ?_, ?_⟩
      · rw [closed_cursor]
        exact hc
      · rw [closed_cursor]
        exact (completes.cursors k).mpr (Or.inl rfl)
    | true =>
      rw [hc] at hk
      obtain ⟨done, held⟩ := hk.resolve_left nofun
      refine Or.inr ⟨done, marked, ⟨k, held⟩, fun j => ?_⟩
      by_cases hj : j = k
      · rw [hj]
        exact hc
      · exact others j hj

/-- **Why an operation closes a statement**: it is the statement's own close, it takes the
connection down, it closes an open cursor of a statement that closes on completion, or it is done
with the current cursor of a spent one. -/
theorem Tracks.closes (h : c.Tracks) {op : Operation} {i : Nat}
    (isOpen : (c.statement i).closed = false)
    (closed : ((c.dialogue op).connection.statement i).closed = true) :
    op = .closeStatement i ∨ op.takesDown c = true ∨
    ((c.statement i).closeOnCompletion = true ∧ ∃ k, (c.cursor ⟨i, k⟩).closed = false ∧
      ((c.dialogue op).connection.cursor ⟨i, k⟩).closed = true) ∨
    (op = .moreResults i ∧ (c.statement i).Spent) := by
  have unspared (spares : Spares c (c.dialogue op).connection) : False := by
    rw [spares i isOpen] at closed
    cases closed
  -- what is about another statement does not reach this one
  have about {j : Nat} (subject : c.subject? op = some j) : j = i := by
    by_contra hne
    rw [(legs_local subject).connection.statement (Ne.symm hne), isOpen] at closed
    cases closed
  cases down : op.takesDown c with
  | true => exact Or.inr (Or.inl rfl)
  | false =>
    refine Or.imp_right Or.inr ?_
    cases hcloses : op.closes with
    | false => exact (unspared (spares_dialogue c hcloses)).elim
    | true =>
      cases op with
      | close => exact (unspared (spares_of_isDown (Or.inl rfl) down)).elim
      | drop => exact (unspared (spares_of_isDown (Or.inr (Or.inl rfl)) down)).elim
      | runDeferred => exact (unspared (spares_of_isDown (Or.inr (Or.inr rfl)) down)).elim
      | closeStatement j => exact Or.inl (congrArg _ (about rfl))
      | moreResults j =>
        obtain rfl : j = i := about rfl
        exact Or.inr (h.completes_or_spent ⟨j, 0⟩ (Or.inr (Or.inr rfl)) isOpen closed)
      | closeCursor id =>
        obtain rfl : id.statement = i := about rfl
        exact Or.inr (h.completes_or_spent id (Or.inl rfl) isOpen closed)
      | dropCursor id =>
        obtain rfl : id.statement = i := about rfl
        exact Or.inr (h.completes_or_spent id (Or.inr (Or.inl rfl)) isOpen closed)
      | _ => cases hcloses

/-- Being done with the current cursor of a spent statement closes the statement and changes no
cursor. -/
theorem Tracks.moreResults_of_spent (h : c.Tracks) {i : Nat}
    (isOpen : (c.statement i).closed = false) (spent : (c.statement i).Spent) :
    ((c.moreResults i).2.statement i).closed = true ∧
      ∀ id, (c.moreResults i).2.cursor id = c.cursor id := by
  obtain ⟨closed, cursors⟩ := (h.exact i isOpen).moreResults_of_spent isOpen spent
  refine ⟨?_, fun id => ?_⟩
  · rw [moreResults, withStatement, statement_putStatement (lt_of_open isOpen)]
    exact closed
  · have same := apply_putStatement Statement.cursors cursors id.statement
    exact congrArg (fun cursors => cursors[id.cursor]?.getD noCursor) same

end Connection

/-! ## Runs -/

namespace Shared

/-- A thread that waits goes on with every answer by extending a statement. -/
def Harmless (w : Thread) : Prop :=
  ∃ i, ∀ answers e, (w.dialogue.resume answers e).Legs (Connection.Extends i) e

/-- A thread that has been started in the run `turns` by preparing something, which has created
statement `i`. -/
def Compiles (start : Shared) (turns : List Turn) (i : Nat) (w : Thread) : Prop :=
  ∃ before sql rest, turns = before ++ .start (.prepare sql) :: rest ∧
    let c := (start.run before).connection
    c.closed = false ∧ i = c.statements.length ∧
      w = ⟨c.executes (.prepare sql), c.dialogue (.prepare sql)⟩

/-- Whether a thread fails with the next answer. -/
def Fails (w : Thread) (answers : Answers) (c : Connection) : Prop :=
  ∃ e d, w.dialogue.resume answers c = .done (.error e) d

theorem Compiles.append {start : Shared} {turns : List Turn} {i : Nat} {w : Thread}
    (h : start.Compiles turns i w) (turn : Turn) : start.Compiles (turns ++ [turn]) i w := by
  obtain ⟨before, sql, rest, rfl, compiles⟩ := h
  exact ⟨before, sql, rest ++ [turn], by rw [List.append_assoc]; rfl, compiles⟩

/-- What compiles is over with the answer. It closes nothing then, unless it fails, and with it what
it compiles. -/
theorem Compiles.resume {start : Shared} {turns : List Turn} {i : Nat} {w : Thread}
    (h : start.Compiles turns i w) (answers : Answers) (c : Connection) :
    (w.dialogue.resume answers c).call? = none ∧
    Connection.Steps c (w.dialogue.resume answers c).connection ∧
    (c.Spares (w.dialogue.resume answers c).connection ∨ Fails w answers c ∧
      ∀ j, j ≠ i → (w.dialogue.resume answers c).connection.statement j = c.statement j) := by
  obtain ⟨before, sql, rest, -, isOpen, rfl, rfl⟩ := h
  rw [Fails, Connection.resume_prepare isOpen]
  generalize (start.run before).connection.statements.length = n
  have ended := Connection.extends_endExecution c n
  refine ⟨rfl, (Connection.steps_endExecution c n).trans
    (Connection.steps_finishPrepare _ n sql _), ?_⟩
  rcases Connection.finishPrepare_closes_or_keeps (c.endExecution n) n sql answers.submitted with
    ⟨e, failed⟩ | ⟨p, d, prepared, same⟩
  · refine Or.inr ⟨⟨e, _, by rw [failed]; rfl⟩, fun j hj => ?_⟩
    rw [failed, ← ended.statement hj]
    exact Connection.statement_putStatement_of_ne hj.symm _
  · rw [prepared]
    exact Or.inl (ended.spares.trans (Connection.spares_of_statements_eq same))

/-! ### Every run -/

/-- The connection tracks what is open, and every thread that waits is harmless or compiles. -/
structure Watched (start : Shared) (turns : List Turn) : Prop where
  tracks : (start.run turns).connection.Tracks
  waits : ∀ w ∈ (start.run turns).waiting, Harmless w ∨ ∃ i, start.Compiles turns i w

theorem mem_waiting_enter {s : Shared} {v w : Thread} (h : v ∈ (s.enter w).waiting) :
    v ∈ s.waiting ∨ v = w ∧ w.dialogue.call? ≠ none := by
  unfold enter at h
  simp only at h
  split at h
  · next waits =>
    rcases List.mem_append.mp h with h | h
    · exact Or.inl h
    · exact Or.inr ⟨List.mem_singleton.mp h, Option.isSome_iff_ne_none.mp waits⟩
  · exact Or.inl h

/-- An answer that nobody waits for changes nothing. -/
theorem take_answer_of_none {s : Shared} {k : Nat} (answers : Answers)
    (hw : s.waiting[k]? = none) : s.take (.answer k answers) = s := by
  rw [take, hw]

theorem take_answer_of_some {s : Shared} {k : Nat} {w : Thread} (answers : Answers)
    (hw : s.waiting[k]? = some w) : s.take (.answer k answers) =
      { s with waiting := s.waiting.eraseIdx k }.enter
        ⟨w.executes, w.dialogue.resume answers s.connection⟩ := by
  rw [take, hw]

theorem Watched.start {start : Shared} {turns : List Turn} (h : start.Watched turns)
    (op : Operation) : start.Watched (turns ++ [.start op]) := by
  have taken : start.run (turns ++ [.start op]) = (start.run turns).take (.start op) :=
    start.run_append turns [.start op]
  refine ⟨?_, fun v hv => ?_⟩
  · rw [taken]
    exact h.tracks.dialogue op
  · rw [taken] at hv
    rcases mem_waiting_enter hv with hv | ⟨rfl, waits⟩
    · exact (h.waits v hv).imp_right fun ⟨i, compiles⟩ => ⟨i, compiles.append _⟩
    · cases Connection.calls_of_waits waits with
      | extending i legs => exact Or.inl ⟨i, fun answers e => legs.resume waits answers e⟩
      | teardown _ rest => exact Or.inl ⟨0, rest⟩
      | prepare sql prepares isOpen =>
        rw [prepares]
        exact Or.inr ⟨_, turns, sql, [], rfl, isOpen, rfl, rfl⟩

theorem Watched.answer {start : Shared} {turns : List Turn} (h : start.Watched turns) (k : Nat)
    (answers : Answers) : start.Watched (turns ++ [.answer k answers]) := by
  have taken : start.run (turns ++ [.answer k answers]) =
      (start.run turns).take (.answer k answers) := start.run_append turns [.answer k answers]
  have old {v : Thread} (hv : v ∈ (start.run turns).waiting) :
      Harmless v ∨ ∃ i, start.Compiles (turns ++ [.answer k answers]) i v :=
    (h.waits v hv).imp_right fun ⟨i, compiles⟩ => ⟨i, compiles.append _⟩
  cases hw : (start.run turns).waiting[k]? with
  | none =>
    rw [take_answer_of_none answers hw] at taken
    exact ⟨taken ▸ h.tracks, fun v hv => old (taken ▸ hv)⟩
  | some w =>
    rw [take_answer_of_some answers hw] at taken
    rcases h.waits w (List.mem_of_getElem? hw) with ⟨i, legs⟩ | ⟨i, compiles⟩
    · have leg := legs answers (start.run turns).connection
      refine ⟨taken ▸ h.tracks.extends leg.connection, fun v hv => ?_⟩
      rw [taken] at hv
      rcases mem_waiting_enter hv with hv | ⟨rfl, waits⟩
      · exact old (List.mem_of_mem_eraseIdx hv)
      · exact Or.inl ⟨i, fun answers e => leg.resume waits answers e⟩
    · obtain ⟨ended, steps, -⟩ := compiles.resume answers (start.run turns).connection
      refine ⟨taken ▸ h.tracks.steps steps, fun v hv => ?_⟩
      rw [taken] at hv
      rcases mem_waiting_enter hv with hv | ⟨-, waits⟩
      · exact old (List.mem_of_mem_eraseIdx hv)
      · exact absurd ended waits

theorem Watched.append {start : Shared} {turns : List Turn} (h : start.Watched turns)
    (rest : List Turn) : start.Watched (turns ++ rest) := by
  induction rest generalizing turns with
  | nil => rwa [List.append_nil]
  | cons turn rest ih =>
    rw [List.append_cons]
    cases turn with
    | start op => exact ih (h.start op)
    | answer k answers => exact ih (h.answer k answers)

theorem watched_run (config : ClientConfig) (server : Option String) (turns : List Turn) :
    (create config server).Watched turns := by
  have started : (create config server).Watched [] :=
    ⟨Connection.tracks_create config server, fun _ none => absurd none List.not_mem_nil⟩
  exact started.append turns

/-! ## The last cursor -/

/-- **A statement that closes on completion closes with its last cursor, and only then.** Whatever
has been done before and whatever is still under way: when one of its cursors is closed, taken back
or done with, the statement is closed and gone from the registry precisely if none of its other
cursors is open, be they fed by the service or not; and these other cursors stay as open as they
were. -/
theorem closed_iff_last_cursor (config : ClientConfig) (server : Option String)
    (turns : List Turn) (id : CursorId) {op : Operation} :
    let s := (create config server).run turns
    let t := s.take (.start op)
    let others := ∀ k, k ≠ id.cursor → (t.connection.cursor ⟨id.statement, k⟩).closed = true
    op = .closeCursor id ∨ op = .dropCursor id ∨ op = .moreResults id.statement →
    (s.connection.statement id.statement).closed = false →
    (s.connection.statement id.statement).closeOnCompletion = true →
    (s.connection.cursor id).closed = false → (t.connection.cursor id).closed = true →
      ((t.connection.statement id.statement).closed = true ↔ others) ∧
      (id.statement ∉ t.connection.registry ↔ others) ∧
      ∀ k, k ≠ id.cursor → (t.connection.cursor ⟨id.statement, k⟩).closed =
        (s.connection.cursor ⟨id.statement, k⟩).closed := by
  intro s t others ending isOpen marked before after
  have tracks : s.connection.Tracks := (watched_run config server turns).tracks
  have registered : id.statement ∈ t.connection.registry ↔
      (t.connection.statement id.statement).closed = false := (tracks.dialogue op).registered _
  rw [Connection.closed_cursor] at before after
  rcases tracks.ends ending isOpen with ⟨-, same⟩ | ⟨k, -, completes⟩
  · -- no cursor would have been closed
    rw [show (t.connection.statement id.statement).isClosedCursor = _ from same, before] at after
    cases after
  · obtain rfl : id.cursor = k := by
      refine ((completes.cursors id.cursor).mp after).resolve_right ?_
      rw [before]
      exact nofun
    have kept (k : Nat) (hk : k ≠ id.cursor) :
        (t.connection.cursor ⟨id.statement, k⟩).closed =
          (s.connection.cursor ⟨id.statement, k⟩).closed := by
      rw [Connection.closed_cursor, Connection.closed_cursor]
      exact Bool.eq_iff_iff.mpr ((completes.cursors k).trans (or_iff_right hk))
    have closed : (t.connection.statement id.statement).closed = true ↔ others := by
      refine (completes.closed.trans (and_iff_right marked)).trans ?_
      refine forall_congr' fun k => forall_congr' fun hk => ?_
      rw [kept k hk, Connection.closed_cursor]
    refine ⟨closed, ?_, kept⟩
    rw [registered, Bool.not_eq_false]
    exact closed

/-- A statement with a cursor that is fed by the service and one that is not, which closes on
completion. -/
def marked : List Turn :=
  [.start .createStatement, .start (.executeQuery (.text 0 "SELECT n FROM t")),
    .answer 0 Connection.rowService, .answer 0 Connection.rowService, .start (.generatedKeys 0),
    .start (.set 0 .closeOnCompletion)]

/-- The statement outlives the first of its cursors, but not the second. -/
theorem marked_closes :
    let s := (create .standard none).run marked
    let t := s.take (.start (.closeCursor ⟨0, 0⟩))
    let u := t.take (.start (.dropCursor ⟨0, 1⟩))
    0 ∈ t.connection.registry ∧ (u.connection.statement 0).closed = true ∧
      0 ∉ u.connection.registry := by
  intro s t u
  obtain ⟨-, first, -⟩ := closed_iff_last_cursor .standard none marked ⟨0, 0⟩ (Or.inl rfl)
    (by decide +kernel) (by decide +kernel) (by decide +kernel) (by decide +kernel)
  obtain ⟨closed, second, -⟩ := closed_iff_last_cursor .standard none
    (marked ++ [.start (.closeCursor ⟨0, 0⟩)]) ⟨0, 1⟩ (Or.inr (Or.inl rfl))
    (by decide +kernel) (by decide +kernel) (by decide +kernel) (by decide +kernel)
  have others (k : Nat) (hk : k ≠ 1) : (u.connection.cursor ⟨0, k⟩).closed = true := by
    match k with
    | 0 => decide +kernel
    | 1 => exact absurd rfl hk
    | k + 2 =>
      have two : (u.connection.statement 0).cursors.length = 2 := by decide +kernel
      rw [Connection.closed_cursor]
      exact Statement.isClosedCursor_of_length_le (two ▸ Nat.le_add_left 2 k)
  refine ⟨?_, closed.mpr others, second.mpr others⟩
  by_contra gone
  exact absurd (first.mp gone 1 (by decide)) (by decide +kernel)

/-! ## All that closes a statement -/

/-- An answer of the service closes a statement only if what compiles on it fails with the answer. -/
theorem Watched.fails_of_answer {start : Shared} {turns : List Turn} (h : start.Watched turns)
    {k : Nat} {answers : Answers} {i : Nat}
    (isOpen : ((start.run turns).connection.statement i).closed = false)
    (closed : (((start.run turns).take (.answer k answers)).connection.statement i).closed = true) :
    ∃ w, (start.run turns).waiting[k]? = some w ∧ start.Compiles turns i w ∧
      Fails w answers (start.run turns).connection := by
  cases hw : (start.run turns).waiting[k]? with
  | none =>
    rw [take_answer_of_none answers hw, isOpen] at closed
    cases closed
  | some w =>
    rw [take_answer_of_some answers hw, enter] at closed
    have unspared (spares : (start.run turns).connection.Spares
        (w.dialogue.resume answers (start.run turns).connection).connection) : False := by
      rw [spares i isOpen] at closed
      cases closed
    rcases h.waits w (List.mem_of_getElem? hw) with ⟨j, legs⟩ | ⟨j, compiles⟩
    · exact (unspared (legs answers (start.run turns).connection).connection.spares).elim
    · obtain ⟨-, -, spares | ⟨fails, others⟩⟩ :=
        compiles.resume answers (start.run turns).connection
      · exact (unspared spares).elim
      · obtain rfl : j = i := by
          by_contra hne
          rw [others i (Ne.symm hne), isOpen] at closed
          cases closed
        exact ⟨w, rfl, compiles, fails⟩

/-- **What closes a statement**, whatever has been done before and whatever is still under way: its
own close, what takes the connection down, the failure of what it has been created to compile, and,
if it closes on completion, the end of one of its open cursors. Apart from that there is only this:
being done with the current cursor closes a spent statement, although no cursor changes then. -/
theorem closed_by (config : ClientConfig) (server : Option String) (turns : List Turn)
    (turn : Turn) (i : Nat) :
    let start := create config server
    let s := start.run turns
    let t := s.take turn
    (s.connection.statement i).closed = false →
      ((t.connection.statement i).closed = true →
        turn = .start (.closeStatement i) ∨
        (∃ op, turn = .start op ∧ op.takesDown s.connection = true) ∨
        (∃ k answers w, turn = .answer k answers ∧ s.waiting[k]? = some w ∧
          start.Compiles turns i w ∧ Fails w answers s.connection) ∨
        ((s.connection.statement i).closeOnCompletion = true ∧
          ∃ k, (s.connection.cursor ⟨i, k⟩).closed = false ∧
            (t.connection.cursor ⟨i, k⟩).closed = true) ∨
        (turn = .start (.moreResults i) ∧ (s.connection.statement i).Spent)) ∧
      (turn = .start (.moreResults i) → (s.connection.statement i).Spent →
        (t.connection.statement i).closed = true ∧
          ∀ id, t.connection.cursor id = s.connection.cursor id) := by
  intro start s t isOpen
  have watched : start.Watched turns := watched_run config server turns
  refine ⟨fun closed => ?_, ?_⟩
  · cases turn with
    | start op =>
      rcases watched.tracks.closes isOpen closed with rfl | down | ended | ⟨rfl, spent⟩
      · exact Or.inl rfl
      · exact Or.inr (Or.inl ⟨op, rfl, down⟩)
      · exact Or.inr (Or.inr (Or.inr (Or.inl ended)))
      · exact Or.inr (Or.inr (Or.inr (Or.inr ⟨rfl, spent⟩)))
    | answer k answers =>
      obtain ⟨w, waits, compiles, fails⟩ := watched.fails_of_answer isOpen closed
      exact Or.inr (Or.inr (Or.inl ⟨k, answers, w, rfl, waits, compiles, fails⟩))
  · rintro rfl spent
    exact watched.tracks.moreResults_of_spent isOpen spent

/-- A result whose cursor is closed before its statement is to close on completion. -/
def exhausted : List Turn :=
  [.start .createStatement, .start (.execute (.text 0 "SELECT n FROM t")),
    .answer 0 Connection.rowService, .start (.resultCursor 0), .answer 0 Connection.rowService,
    .start (.closeCursor ⟨0, 0⟩), .start (.set 0 .closeOnCompletion)]

/-- No cursor is open any more, and still the statement closes. -/
theorem exhausted_closes :
    let s := (create .standard none).run exhausted
    let t := s.take (.start (.moreResults 0))
    (s.connection.statement 0).closed = false ∧
      (∀ k ∈ (s.connection.statement 0).cursors, k.closed = true) ∧
        (t.connection.statement 0).closed = true := by
  decide +kernel

theorem exhausted_spent :
    let s := (create .standard none).run exhausted
    let t := s.take (.start (.moreResults 0))
    (s.connection.statement 0).Spent ∧ (t.connection.statement 0).closed = true ∧
      ∀ id, t.connection.cursor id = s.connection.cursor id := by
  intro s t
  have spent : (s.connection.statement 0).Spent := by
    refine ⟨by decide +kernel, ⟨0, by decide +kernel, _, rfl, by decide +kernel⟩, fun k => ?_⟩
    match k with
    | 0 => decide +kernel
    | k + 1 =>
      have one : (s.connection.statement 0).cursors.length = 1 := by decide +kernel
      exact Statement.isClosedCursor_of_length_le (one ▸ Nat.le_add_left 1 k)
  obtain ⟨-, closes⟩ := closed_by .standard none exhausted (.start (.moreResults 0)) 0
    (by decide +kernel)
  exact ⟨spent, closes rfl spent⟩

end Shared

end QueryClient
