import QueryClient.Proofs.Connection.Registry
import QueryClient.Proofs.Connection.Request

/-!
# What closing and reading leave alone

Most operations close something, go through rows or ask for something. None of them touches what
submissions are made of: the settings, the parameters and the tokens (`Steady`). Nor do they bring a
cursor that is fed by the service, and a pending response they drop only if they close the statement
(`Still`). `Frame` says both, and `goes_of_isIdle` is for all such operations at once.
-/

namespace QueryClient

/-! ## Statements -/

namespace Statement

/-- Whether a cursor is fed by the service. -/
def isFed (s : Statement) (k : Nat) : Bool := (s.cursors[k]?.map Cursor.ownsNetwork).getD false

/-- What is closed stays closed, and a pending response is lost only by closing. -/
structure Keeps (s t : Statement) : Prop where
  closed : s.closed = true → t.closed = true
  pending : t.pending = s.pending ∨ t.pending = none ∧ t.closed = true

theorem keeps_of_eq {s t : Statement} (closed : t.closed = s.closed)
    (pending : t.pending = s.pending) : Keeps s t :=
  ⟨closed.trans, Or.inl pending⟩

theorem Keeps.refl (s : Statement) : Keeps s s := keeps_of_eq rfl rfl

theorem Keeps.trans {s t u : Statement} (h : Keeps s t) (h' : Keeps t u) : Keeps s u where
  closed := fun hs => h'.closed (h.closed hs)
  pending := by
    rcases h'.pending with same | gone
    · rw [same]
      exact h.pending.imp_right fun gone => ⟨gone.1, h'.closed gone.2⟩
    · exact Or.inr gone

/-- All is as it was, but that cursors may have moved or closed, that some may have come whose rows
are at hand, and that the statement may be closed. -/
structure Frame (s t : Statement) : Prop where
  token : t.token = s.token
  timeout : t.timeout = s.timeout
  isFed : t.isFed = s.isFed
  keeps : Keeps s t

theorem Frame.refl (s : Statement) : Frame s s := ⟨rfl, rfl, rfl, .refl s⟩

theorem Frame.trans {s t u : Statement} (h : Frame s t) (h' : Frame t u) : Frame s u where
  token := h'.token.trans h.token
  timeout := h'.timeout.trans h.timeout
  isFed := h'.isFed.trans h.isFed
  keeps := h.keeps.trans h'.keeps

theorem frame_modifyCursor (s : Statement) (i : Nat) {f : Cursor → Cursor}
    (h : ∀ k, s.cursors[i]? = some k → (f k).ownsNetwork = k.ownsNetwork) :
    Frame s (s.modifyCursor i f) where
  token := rfl
  timeout := rfl
  isFed := by
    funext j
    unfold isFed
    rw [getElem?_modifyCursor]
    split
    · next hij =>
      subst hij
      cases hk : s.cursors[i]? with
      | none => rfl
      | some k => exact h k hk
    · rfl
  keeps := keeps_of_eq rfl rfl

theorem isFed_register (s : Statement) (columns : List Column) (source : RowSource)
    (maxRows k : Nat) : (s.register columns source maxRows).2.isFed k =
      (s.isFed k || (source.ownsNetwork && k == s.cursors.length)) := by
  unfold isFed
  rw [cursors_register]
  rcases Nat.lt_trichotomy k s.cursors.length with hk | rfl | hk
  · rw [List.getElem?_append_left hk, beq_false_of_ne (Nat.ne_of_lt hk), Bool.and_false,
      Bool.or_false]
  · rw [List.getElem?_concat_length, List.getElem?_eq_none (Nat.le_refl _), beq_self_eq_true,
      Bool.and_true]
    rfl
  · have beyond : (s.cursors ++ [Cursor.create columns source maxRows]).length ≤ k := by
      rw [List.length_append]
      exact hk
    rw [List.getElem?_eq_none beyond, List.getElem?_eq_none (Nat.le_of_lt hk),
      beq_false_of_ne (Nat.ne_of_gt hk), Bool.and_false, Bool.or_false]

theorem register_eq (s : Statement) (columns : List Column) (source : RowSource) (maxRows : Nat) :
    (s.register columns source maxRows).2.token = s.token ∧
      (s.register columns source maxRows).2.timeout = s.timeout ∧
        (s.register columns source maxRows).2.pending = s.pending := by
  unfold register
  simp only
  split <;> exact ⟨rfl, rfl, rfl⟩

theorem frame_memoryCursor (s : Statement) (columns : List Column) (rows : List Row) :
    Frame s (s.memoryCursor columns rows).2 := by
  obtain ⟨token, timeout, pending⟩ := register_eq s columns (.memory rows) 0
  refine ⟨token, timeout, ?_, keeps_of_eq (s.closed_register columns (.memory rows) 0) pending⟩
  funext k
  show (s.register columns (.memory rows) 0).2.isFed k = s.isFed k
  rw [isFed_register]
  exact Bool.or_false _

theorem frame_strike (s : Statement) (i : Nat) : Frame s (s.strike i) := by
  unfold strike
  simp only
  split <;> exact ⟨rfl, rfl, rfl, keeps_of_eq rfl rfl⟩

theorem frame_close (s : Statement) : Frame s s.close := by
  have closing (places : List Nat) (t : Statement) : Frame t
      (places.foldl (fun (u : Statement) i => u.modifyCursor i Cursor.close) t) := by
    induction places generalizing t with
    | nil => exact .refl t
    | cons i places ih =>
      exact (t.frame_modifyCursor i fun k _ => k.ownsNetwork_close).trans (ih _)
  unfold close
  split
  · exact .refl s
  · have shut := closing (s.networkCursors ++ s.memoryCursors) s
    exact ⟨shut.token, shut.timeout, shut.isFed, fun _ => rfl, Or.inr ⟨rfl, rfl⟩⟩

theorem frame_complete (s : Statement) : Frame s s.complete := by
  unfold complete
  split
  · exact frame_close s
  · exact .refl s

theorem frame_shutCursor (s : Statement) (i : Nat) :
    Frame s ((s.modifyCursor i Cursor.close).cursorClosed i) :=
  ((s.frame_modifyCursor i fun k _ => k.ownsNetwork_close).trans (frame_strike _ i)).trans
    (frame_complete _)

theorem frame_closeCursor (s : Statement) (i : Nat) : Frame s (s.closeCursor i) := by
  unfold closeCursor
  split
  · exact .refl s
  · exact frame_shutCursor s i

theorem frame_dropCursor (s : Statement) (i : Nat) : Frame s (s.dropCursor i) :=
  (frame_closeCursor s i).trans (frame_modifyCursor _ i fun _ _ => rfl)

theorem frame_moreResults (s : Statement) : Frame s s.moreResults.2 := by
  have forget : Frame s { s with current := none } := ⟨rfl, rfl, rfl, keeps_of_eq rfl rfl⟩
  unfold moreResults closeCurrent
  simp only
  split
  · exact .refl s
  · split
    · exact forget
    · split
      · exact forget
      · split
        · exact forget
        · exact forget.trans (frame_shutCursor _ _)

/-- Whether a setting is of importance for submissions. -/
def isSent : Setting → Bool
  | .timeout _ => true
  | _ => false

theorem frame_set (s : Statement) {setting : Setting} (h : isSent setting = false) :
    Frame s (s.set setting).2 := by
  cases setting with
  | timeout seconds => exact absurd h (by simp [isSent])
  | _ =>
    simp only [set, setMaxRows, clearWarnings, setCloseOnCompletion, change]
    split <;> exact ⟨rfl, rfl, rfl, keeps_of_eq rfl rfl⟩

end Statement

/-! ## Connections -/

namespace Connection

/-- The tokens of the statements, in order. -/
def tokens (c : Connection) : List Token := c.statements.map Statement.token

/-- What the options of a submission are made of: the dataverse, whether texts are those of the SQL
standard, and the timeout of each statement. -/
def settings (c : Connection) : String × Bool × (Nat → Nat) :=
  (c.dataverse, c.sqlCompat, fun i => (c.statement i).timeout)

/-- Whether a cursor is fed by the service. -/
def isFed (c : Connection) (id : CursorId) : Bool := (c.statement id.statement).isFed id.cursor

/-- Nothing has changed that submissions are made of. -/
structure Steady (c d : Connection) : Prop where
  settings : d.settings = c.settings
  prepared : d.prepared = c.prepared
  tokens : d.tokens = c.tokens
  nextToken : d.nextToken = c.nextToken

/-- No cursor has come that is fed by the service, and no response that is pending; those that were
are lost only by closing. -/
structure Still (c d : Connection) : Prop where
  isFed : d.isFed = c.isFed
  length : c.statements.length ≤ d.statements.length
  keeps : ∀ i < c.statements.length, Statement.Keeps (c.statement i) (d.statement i)
  come : ∀ i, c.statements.length ≤ i → (d.statement i).pending = none

/-- Nothing has changed but that something may have moved, closed or been forgotten. -/
structure Frame (c d : Connection) : Prop extends Steady c d, Still c d

theorem Steady.refl (c : Connection) : Steady c c := ⟨rfl, rfl, rfl, rfl⟩

theorem Steady.trans {c d e : Connection} (h : Steady c d) (h' : Steady d e) : Steady c e where
  settings := h'.settings.trans h.settings
  prepared := h'.prepared.trans h.prepared
  tokens := h'.tokens.trans h.tokens
  nextToken := h'.nextToken.trans h.nextToken

theorem pending_of_length_le {c : Connection} {i : Nat} (h : c.statements.length ≤ i) :
    (c.statement i).pending = none := by
  rw [statement_of_length_le h]
  rfl

theorem still_of_statements_eq {c d : Connection} (h : d.statements = c.statements) :
    Still c d where
  isFed := by
    funext id
    rw [isFed, isFed, statement, statement, h]
  length := Nat.le_of_eq (congrArg List.length h.symm)
  keeps := by
    intro i _
    rw [statement, statement, h]
    exact .refl _
  come := fun _ hi => pending_of_length_le (h ▸ hi)

theorem Still.refl (c : Connection) : Still c c := still_of_statements_eq rfl

theorem Still.trans {c d e : Connection} (h : Still c d) (h' : Still d e) : Still c e where
  isFed := h'.isFed.trans h.isFed
  length := Nat.le_trans h.length h'.length
  keeps := fun i hi => (h.keeps i hi).trans (h'.keeps i (Nat.lt_of_lt_of_le hi h.length))
  come := by
    intro i hi
    rcases Nat.lt_or_ge i d.statements.length with there | beyond
    · rcases (h'.keeps i there).pending with same | gone
      · rw [same, h.come i hi]
      · exact gone.1
    · exact h'.come i beyond

theorem Frame.refl (c : Connection) : Frame c c := ⟨.refl c, .refl c⟩

theorem Frame.trans {c d e : Connection} (h : Frame c d) (h' : Frame d e) : Frame c e :=
  ⟨h.toSteady.trans h'.toSteady, h.toStill.trans h'.toStill⟩

/-! ### Statements put in the place of others -/

theorem settings_putStatement {c : Connection} {i : Nat} {s : Statement}
    (h : s.timeout = (c.statement i).timeout) : (c.putStatement i s).settings = c.settings := by
  have timeouts := apply_putStatement Statement.timeout h
  exact congrArg (fun timeout => (c.dataverse, c.sqlCompat, timeout)) (funext timeouts)

theorem isFed_putStatement {c : Connection} {i : Nat} {s : Statement}
    (h : s.isFed = (c.statement i).isFed) : (c.putStatement i s).isFed = c.isFed := by
  have fed := apply_putStatement Statement.isFed h
  exact funext fun id => congrFun (fed id.statement) id.cursor

theorem tokens_putStatement (c : Connection) (i : Nat) (s : Statement) :
    (c.putStatement i s).tokens = c.tokens.set i s.token := List.map_set

theorem tokens_putStatement_self {c : Connection} {i : Nat} {s : Statement}
    (h : s.token = (c.statement i).token) : (c.putStatement i s).tokens = c.tokens := by
  rw [tokens_putStatement, h]
  refine List.ext_getElem? fun j => ?_
  rw [List.getElem?_set']
  split
  · next hij =>
    subst hij
    unfold tokens statement
    rw [List.getElem?_map]
    cases c.statements[i]? <;> rfl
  · rfl

theorem steady_putStatement {c : Connection} {i : Nat} {s : Statement}
    (token : s.token = (c.statement i).token) (timeout : s.timeout = (c.statement i).timeout) :
    Steady c (c.putStatement i s) :=
  ⟨settings_putStatement timeout, rfl, tokens_putStatement_self token, rfl⟩

theorem still_putStatement {c : Connection} {i : Nat} {s : Statement}
    (isFed : s.isFed = (c.statement i).isFed) (keeps : Statement.Keeps (c.statement i) s) :
    Still c (c.putStatement i s) where
  isFed := isFed_putStatement isFed
  length := Nat.le_of_eq (c.length_putStatement i s).symm
  keeps := by
    intro j hj
    by_cases hij : i = j
    · subst hij
      rw [statement_putStatement hj]
      exact keeps
    · rw [statement_putStatement_of_ne hij]
      exact .refl _
  come := fun j hj => pending_of_length_le ((c.length_putStatement i s).symm ▸ hj)

theorem frame_putStatement {c : Connection} {i : Nat} {s : Statement}
    (h : Statement.Frame (c.statement i) s) : Frame c (c.putStatement i s) :=
  ⟨steady_putStatement h.token h.timeout, still_putStatement h.isFed h.keeps⟩

theorem frame_modifyStatement (c : Connection) (i : Nat) {f : Statement → Statement}
    (h : ∀ s, Statement.Frame s (f s)) : Frame c (c.modifyStatement i f) :=
  frame_putStatement (h _)

theorem frame_withStatement {α : Type} (c : Connection) (i : Nat) {f : Statement → α × Statement}
    (h : ∀ s, Statement.Frame s (f s).2) : Frame c (c.withStatement i f).2 :=
  frame_putStatement (h _)

theorem frame_withCursor {α : Type} (c : Connection) (id : CursorId) {f : Cursor → α × Cursor}
    (h : ∀ k, Cursor.Moved k (f k).2) : Frame c (c.withCursor id f).2 := by
  refine frame_putStatement (Statement.frame_modifyCursor _ _ ?_)
  intro k hk
  rw [cursor, hk]
  exact (h k).ownsNetwork

theorem frame_memoryCursor (c : Connection) (i : Nat) (columns : List Column) (rows : List Row) :
    Frame c (c.memoryCursor i columns rows).2 :=
  frame_withStatement c i fun s => s.frame_memoryCursor columns rows

/-! ### Closing -/

theorem frame_closeStatement (c : Connection) (i : Nat) : Frame c (c.closeStatement i) :=
  frame_modifyStatement c i Statement.frame_close

theorem frame_closeStatements (c : Connection) : Frame c c.closeStatements := by
  have closing (places : List Nat) (d : Connection) :
      Frame d (places.foldl closeStatement d) := by
    induction places generalizing d with
    | nil => exact .refl d
    | cons i places ih => exact (frame_closeStatement d i).trans (ih _)
  have emptied : Frame c { c with registry := [] } :=
    ⟨⟨rfl, rfl, rfl, rfl⟩, still_of_statements_eq rfl⟩
  exact emptied.trans (closing c.registry _)

theorem frame_close (c : Connection) : Frame c c.close.2 := by
  have marked : Frame c { c with closed := true } :=
    ⟨⟨rfl, rfl, rfl, rfl⟩, still_of_statements_eq rfl⟩
  unfold close
  split
  · exact .refl c
  · exact marked.trans (frame_closeStatements _)

theorem frame_closeDeferred (c : Connection) : Frame c c.closeDeferred.2 := by
  unfold closeDeferred
  split
  · exact .refl c
  · exact ⟨⟨rfl, rfl, rfl, rfl⟩, still_of_statements_eq rfl⟩

theorem frame_runDeferred (c : Connection) : Frame c c.runDeferred.2 := by
  have marked : Frame c { c with deferred := false } :=
    ⟨⟨rfl, rfl, rfl, rfl⟩, still_of_statements_eq rfl⟩
  unfold runDeferred
  split
  · exact marked.trans (frame_closeStatements _)
  · exact .refl c

theorem frame_drop (c : Connection) : Frame c c.drop.2 :=
  (frame_close c).trans ⟨⟨rfl, rfl, rfl, rfl⟩, still_of_statements_eq rfl⟩

/-! ### Idle operations -/

end Connection

/-- Whether an operation has nothing executed, fetches nothing, makes no statement and changes no
setting that is sent. -/
def Operation.isIdle : Operation → Bool
  | .createStatement | .prepare _ | .openCatalog | .typeInfo | .emptyResult _ => false
  | .executeQuery _ | .executeUpdate _ | .execute _ | .resultCursor _ => false
  | .setDataverse _ | .bindParam _ _ _ | .clearParams _ => false
  | .set _ setting => !Statement.isSent setting
  | _ => true

namespace Connection

theorem goes_teardown {closing : Bool × Connection} {c : Connection} (h : Frame c closing.2) :
    (teardown closing).Goes Frame Frame c := by
  obtain ⟨due, d⟩ := closing
  cases due with
  | false => exact h
  | true => exact ⟨h, fun e _ => .refl e⟩

/-- **What is idle leaves alone what submissions are made of**, whatever others do while it waits
for the service. -/
theorem goes_of_isIdle (c : Connection) {op : Operation} (idle : op.isIdle = true) :
    (c.dialogue op).Goes Frame Frame c := by
  cases op with
  | clearWarnings =>
    show Frame c c.clearWarnings.2
    unfold clearWarnings
    split
    · exact .refl c
    · exact ⟨⟨rfl, rfl, rfl, rfl⟩, still_of_statements_eq rfl⟩
  | isValid timeout =>
    refine Dialogue.Goes.forget ?_
    unfold isValid
    split
    · exact Frame.refl c
    · exact ⟨.refl c, fun e _ => Frame.refl e⟩
  | close => exact goes_teardown (frame_close c)
  | closeDeferred => exact frame_closeDeferred c
  | runDeferred => exact goes_teardown (frame_runDeferred c)
  | drop => exact goes_teardown (frame_drop c)
  | moreResults i => exact frame_withStatement c i Statement.frame_moreResults
  | generatedKeys i =>
    show Frame c (c.generatedKeys i).2
    unfold generatedKeys
    split
    · exact .refl c
    · exact frame_memoryCursor c i [] []
  | set i setting =>
    have sent : Statement.isSent setting = false := by simpa [Operation.isIdle] using idle
    exact frame_withStatement c i fun s => s.frame_set sent
  | cancel i =>
    show (c.cancelRunning i).Goes Frame Frame c
    unfold cancelRunning
    split
    · exact Frame.refl c
    · exact ⟨.refl c, fun e _ => Frame.refl e⟩
  | cancelIfCurrent i token =>
    show (c.cancelIfCurrent i token).Goes Frame Frame c
    unfold cancelIfCurrent
    split
    · exact Frame.refl c
    · exact Frame.refl c
    · exact ⟨.refl c, fun e _ => Frame.refl e⟩
  | closeStatement i => exact frame_closeStatement c i
  | startNext id =>
    show Frame c (c.startNext id).2
    unfold startNext
    split
    · exact .refl c
    · exact frame_withCursor c id Cursor.moved_startNext
  | finishNext id =>
    show Frame c (c.finishNext id).2
    unfold finishNext
    split
    · exact frame_withCursor c id fun k => (Cursor.moved_pull k).trans (Cursor.moved_finishNext _ _)
    · exact .refl c
  | get id target column =>
    show Frame c (c.get id target column).2
    unfold get
    split
    · exact .refl c
    · exact frame_withCursor c id fun k => Cursor.moved_get k target column
  | closeCursor id => exact frame_modifyStatement c id.statement fun s => s.frame_closeCursor _
  | dropCursor id => exact frame_modifyStatement c id.statement fun s => s.frame_dropCursor _
  | _ => exact absurd idle (by simp [Operation.isIdle])

end Connection

end QueryClient
