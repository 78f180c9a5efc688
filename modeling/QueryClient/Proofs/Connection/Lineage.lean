import QueryClient.Proofs.Connection.Completion
import QueryClient.Proofs.Connection.Fetching
import QueryClient.Proofs.Tagged.RoundTrip

/-!
# What becomes of cursors

A connection forgets none of its cursors. As long as no row is taken over, a cursor changes in a few
ways only (`Cursor.Change`), and what comes new is a cursor over rows that fit its columns. Two
connections of which all this is so are related by `Connection.Evolves`, and every operation relates
them so from one call of the service to the next, but for the one that takes over a row
(`legs_evolves`). So does every turn of a run, whatever else is under way (`evolves_take`), because
what waits is as harmless as what starts (`leads_take`, `Regular`).
-/

namespace QueryClient

/-- The rows that the client makes itself have a value for each of the columns. -/
def RowSource.Fits (columns : List Column) : RowSource → Prop
  | .stream _ => True
  | .memory rows => ∀ row ∈ rows, row.length = columns.length

/-- The rows at hand are the lines of a plan. -/
theorem QueryResponse.lines_of_opening {r : QueryResponse} {columns : List Column}
    {rows : List Row} (h : r.opening = .ok (.memory columns rows)) : r.isExplainOnly = true ∧
      ∃ lines, r.explainLines = .ok lines ∧ rows = lines.map fun line => [.string line] := by
  obtain ⟨columns', hcolumns, rest⟩ := Tagged.bind_eq_ok h
  split at rest
  · next plan =>
    obtain ⟨lines, explains, made⟩ := Tagged.bind_eq_ok rest
    cases made
    exact ⟨plan, lines, explains, rfl⟩
  · cases rest

/-- They fit the one column of a plan. -/
theorem QueryResponse.fits_of_opening {r : QueryResponse} {columns : List Column} {rows : List Row}
    (h : r.opening = .ok (.memory columns rows)) : (RowSource.memory rows).Fits columns := by
  have hcolumns := columns_of_opening_eq_memory h
  obtain ⟨plan, lines, -, rfl⟩ := lines_of_opening h
  rw [QueryResponse.columns, if_pos plan] at hcolumns
  cases hcolumns
  intro row hrow
  obtain ⟨line, -, rfl⟩ := List.mem_map.mp hrow
  rfl

namespace Cursor

/-! ## Cursors -/

/-- A change of a cursor that takes over no row. -/
inductive Change (k : Cursor) : Cursor → Prop where
  | close : Change k k.close
  | drop : Change k { k with dropped := true }
  | startNext : Change k k.startNext.2
  | get (target : Getter.Target) (ref : ColumnRef) : Change k (k.get target ref).2

/-- A sequence of such changes. -/
abbrev Changes : Cursor → Cursor → Prop := Relation.ReflTransGen Change

open Relation.ReflTransGen (refl single)

/-- The cursors of a list have changed, and others have come behind them. -/
structure Continues (ks ks' : List Cursor) : Prop where
  kept : ∀ {i : Nat} {k : Cursor}, ks[i]? = some k → ∃ k', ks'[i]? = some k' ∧ Changes k k'
  new : ∀ {i : Nat} {k' : Cursor}, ks'[i]? = some k' → ks.length ≤ i →
    ∃ columns source maxRows, RowSource.Fits columns source ∧
      Changes (create columns source maxRows) k'

theorem Continues.refl (ks : List Cursor) : Continues ks ks where
  kept hk := ⟨_, hk, .refl⟩
  new hk hi := absurd (List.getElem?_eq_some_iff.mp hk).1 (Nat.not_lt_of_le hi)

theorem Continues.trans {ks ks' ks'' : List Cursor} (h : Continues ks ks')
    (h' : Continues ks' ks'') : Continues ks ks'' where
  kept hk := by
    obtain ⟨k', hk', changes⟩ := h.kept hk
    obtain ⟨k'', hk'', changes'⟩ := h'.kept hk'
    exact ⟨k'', hk'', changes.trans changes'⟩
  new {i k''} hk'' hi := by
    rcases Nat.lt_or_ge i ks'.length with old | new
    · -- it had come already with the first list
      have hk' := List.getElem?_eq_getElem old
      obtain ⟨columns, source, maxRows, fits, changes⟩ := h.new hk' hi
      obtain ⟨k, hk, changes'⟩ := h'.kept hk'
      cases hk.symm.trans hk''
      exact ⟨columns, source, maxRows, fits, changes.trans changes'⟩
    · exact h'.new hk'' new

theorem continues_modify (ks : List Cursor) (i : Nat) {f : Cursor → Cursor}
    (h : ∀ k, ks[i]? = some k → Changes k (f k)) : Continues ks (ks.modify i f) where
  kept {j k} hk := by
    rw [List.getElem?_modify, hk]
    split
    · next hij =>
      subst hij
      exact ⟨f k, rfl, h k hk⟩
    · exact ⟨k, rfl, .refl⟩
  new hk hi := by
    have := (List.getElem?_eq_some_iff.mp hk).1
    rw [List.length_modify] at this
    omega

theorem continues_modifyAll {f : Cursor → Cursor} (h : ∀ k, Changes k (f k)) (places : List Nat)
    (ks : List Cursor) : Continues ks (modifyAll f places ks) := by
  induction places generalizing ks with
  | nil => exact .refl ks
  | cons i places ih => exact (continues_modify ks i fun k _ => h k).trans (ih _)

theorem continues_concat (ks : List Cursor) {columns : List Column} {source : RowSource}
    (maxRows : Nat) (fits : source.Fits columns) :
    Continues ks (ks ++ [create columns source maxRows]) where
  kept {i k} hk := by
    rw [List.getElem?_append_left (List.getElem?_eq_some_iff.mp hk).1]
    exact ⟨k, hk, .refl⟩
  new {i k'} hk' hi := by
    rw [List.getElem?_append_right hi, List.getElem?_singleton] at hk'
    split at hk'
    · cases hk'
      exact ⟨columns, source, maxRows, fits, .refl⟩
    · cases hk'

end Cursor

/-! ## Statements -/

namespace Statement

open Cursor (Continues Changes)
open Relation.ReflTransGen (single)

theorem continues_register (s : Statement) {columns : List Column} {source : RowSource}
    (maxRows : Nat) (fits : source.Fits columns) :
    Continues s.cursors (s.register columns source maxRows).2.cursors := by
  rw [cursors_register]
  exact Cursor.continues_concat _ maxRows fits

theorem continues_close (s : Statement) : Continues s.cursors s.close.cursors := by
  cases hs : s.closed with
  | true =>
    rw [close, if_pos hs]
    exact .refl _
  | false =>
    rw [cursors_close hs]
    exact Cursor.continues_modifyAll (fun _ => single .close) _ _

theorem continues_closeCursor (s : Statement) (i : Nat) :
    Continues s.cursors (s.closeCursor i).cursors := by
  rw [cursors_closeCursor]
  exact Cursor.continues_modify _ i fun _ _ => single .close

theorem continues_dropCursor (s : Statement) (i : Nat) :
    Continues s.cursors (s.dropCursor i).cursors := by
  rw [cursors_dropCursor]
  exact Cursor.continues_modify _ i fun k _ => (single (.close (k := k))).tail .drop

theorem continues_moreResults (s : Statement) :
    Continues s.cursors s.moreResults.2.cursors := by
  unfold moreResults
  split
  · exact .refl _
  · rcases closeCurrent_cases s with ⟨-, same⟩ | ⟨i, -, closed⟩
    · rw [same]
      exact .refl _
    · rw [closed, cursors_cursorClosed]
      exact Cursor.continues_modify _ i fun _ _ => single .close

theorem continues_set (s : Statement) (setting : Setting) :
    Continues s.cursors (s.set setting).2.cursors := by
  cases setting <;>
    simp only [set, setTimeout, setMaxRows, clearWarnings, setCloseOnCompletion, change] <;>
    split <;> exact .refl _

end Statement

/-! ## Connections -/

namespace Connection

open Cursor (Continues Changes)
open Relation.ReflTransGen (single)

/-- A cursor by its number, if it has been created. -/
def cursor? (c : Connection) (id : CursorId) : Option Cursor :=
  (c.statement id.statement).cursors[id.cursor]?

theorem cursor_of_cursor? {c : Connection} {id : CursorId} {k : Cursor}
    (h : c.cursor? id = some k) : c.cursor id = k := by
  rw [cursor, show (c.statement id.statement).cursors[id.cursor]? = some k from h]
  rfl

theorem statement_putStatement_eq (c : Connection) (i : Nat) (s : Statement) (j : Nat) :
    (c.putStatement i s).statement j =
      if i = j ∧ i < c.statements.length then s else c.statement j := by
  by_cases hij : i = j
  · subst hij
    rcases Nat.lt_or_ge i c.statements.length with hi | hi
    · rw [statement_putStatement hi, if_pos ⟨rfl, hi⟩]
    · -- there is no such statement, neither before nor after
      have same : (c.putStatement i s).statements = c.statements := List.set_eq_of_length_le hi
      rw [statement, same, if_neg fun h => Nat.not_lt_of_le hi h.2]
      rfl
  · rw [statement_putStatement_of_ne hij, if_neg fun h => hij h.1]

/-- Doing something with a cursor changes this one only. -/
theorem cursor?_withCursor {α : Type} (c : Connection) (id : CursorId) (f : Cursor → α × Cursor)
    (other : CursorId) : (c.withCursor id f).2.cursor? other =
      if id = other then (c.cursor? id).map fun k => (f k).2 else c.cursor? other := by
  have seen : ((c.statement id.statement).cursors[id.cursor]?.map fun _ => (f (c.cursor id)).2) =
      (c.cursor? id).map fun k => (f k).2 :=
    Option.map_congr fun k hk => by rw [cursor_of_cursor? hk]
  obtain ⟨i, k⟩ := id
  obtain ⟨j, l⟩ := other
  show ((c.putStatement i _).statement j).cursors[l]? = _
  rw [statement_putStatement_eq]
  split
  · next h =>
    obtain ⟨rfl, -⟩ := h
    rw [Statement.getElem?_modifyCursor]
    by_cases hkl : k = l
    · subst hkl
      rw [if_pos rfl, if_pos rfl, seen]
    · rw [if_neg hkl, if_neg fun same => hkl (CursorId.mk.inj same).2]
      rfl
  · next h =>
    split
    · next same =>
      -- there is no such cursor, neither before nor after
      obtain ⟨rfl, rfl⟩ := CursorId.mk.inj same
      have none : c.cursor? ⟨i, k⟩ = none := by
        rw [cursor?, statement_of_length_le (Nat.le_of_not_lt fun hi => h ⟨rfl, hi⟩)]
        rfl
      rw [none]
      exact none
    · rfl

/-- The cursors of every statement have changed, and others have come behind them, but no cursor
has taken over a row. -/
def Evolves (c d : Connection) : Prop :=
  ∀ i, Continues (c.statement i).cursors (d.statement i).cursors

variable {c d : Connection}

theorem Evolves.refl (c : Connection) : Evolves c c := fun _ => .refl _

theorem Evolves.trans {e : Connection} (h : Evolves c d) (h' : Evolves d e) : Evolves c e :=
  fun i => (h i).trans (h' i)

theorem Evolves.kept {id : CursorId} {k : Cursor} (h : Evolves c d) (hk : c.cursor? id = some k) :
    ∃ k', d.cursor? id = some k' ∧ Changes k k' := (h id.statement).kept hk

theorem Evolves.new {id : CursorId} {k' : Cursor} (h : Evolves c d) (hk' : d.cursor? id = some k')
    (hk : c.cursor? id = none) : ∃ columns source maxRows, RowSource.Fits columns source ∧
      Changes (Cursor.create columns source maxRows) k' :=
  (h id.statement).new hk' (List.getElem?_eq_none_iff.mp hk)

theorem evolves_of_cursors_eq (h : ∀ i, (d.statement i).cursors = (c.statement i).cursors) :
    Evolves c d := by
  intro i
  rw [h i]
  exact .refl _

theorem evolves_of_statements_eq (h : d.statements = c.statements) : Evolves c d := by
  refine evolves_of_cursors_eq fun i => ?_
  rw [statement, statement, h]

theorem evolves_putStatement {i : Nat} {s : Statement}
    (h : Continues (c.statement i).cursors s.cursors) : Evolves c (c.putStatement i s) := by
  intro j
  rw [statement_putStatement_eq]
  split
  · next hij => exact hij.1 ▸ h
  · exact .refl _

theorem evolves_modifyStatement (c : Connection) (i : Nat) {f : Statement → Statement}
    (h : ∀ s, (f s).cursors = s.cursors) : Evolves c (c.modifyStatement i f) := by
  refine evolves_putStatement ?_
  rw [h]
  exact .refl _

theorem evolves_withCursor {α : Type} (c : Connection) (id : CursorId) {f : Cursor → α × Cursor}
    (h : ∀ k, Changes k (f k).2) : Evolves c (c.withCursor id f).2 := by
  refine evolves_putStatement (Cursor.continues_modify _ id.cursor ?_)
  intro k hk
  -- a cursor of another place is not asked for, so `f` runs on the one that is there
  rw [cursor, hk]
  exact h k

theorem evolves_addStatement (c : Connection) : Evolves c c.addStatement.2 :=
  evolves_of_cursors_eq (apply_addStatement Statement.cursors c rfl)

theorem evolves_endExecution (c : Connection) (i : Nat) : Evolves c (c.endExecution i) :=
  evolves_of_cursors_eq (cursors_endExecution c i)

theorem evolves_setCurrent (c : Connection) (id : CursorId) : Evolves c (c.setCurrent id) :=
  evolves_of_cursors_eq (cursors_setCurrent c id)

/-! ### New cursors -/

theorem evolves_memoryCursor (c : Connection) (i : Nat) {columns : List Column} {rows : List Row}
    (fits : (RowSource.memory rows).Fits columns) :
    Evolves c (c.memoryCursor i columns rows).2 :=
  evolves_putStatement (Statement.continues_register _ 0 fits)

theorem evolves_openNetworkCursor (c : Connection) (i : Nat) (columns : List Column)
    (fetched : Result ElementStream) : Evolves c (c.openNetworkCursor i columns fetched).2 := by
  cases fetched with
  | error e => exact .refl c
  | ok elements =>
    have fits : (RowSource.stream elements).Fits columns := trivial
    exact evolves_putStatement (Statement.continues_register _ _ fits)

theorem evolves_openCatalog (c : Connection) : Evolves c c.openCatalog.2 := by
  unfold openCatalog
  split
  · exact .refl c
  · split
    · exact .refl c
    · exact (evolves_addStatement c).trans (evolves_of_statements_eq rfl)

theorem evolves_catalogCursor (c : Connection) {columns : List Column} {rows : List Row}
    (fits : (RowSource.memory rows).Fits columns) :
    Evolves c (c.catalogCursor columns rows).2 := by
  have opened := evolves_openCatalog c
  unfold catalogCursor
  split
  · next heq => rwa [heq] at opened
  · next i d heq =>
    rw [heq] at opened
    split
    · exact opened
    · exact opened.trans (evolves_memoryCursor d i fits)

theorem evolves_generatedKeys (c : Connection) (i : Nat) : Evolves c (c.generatedKeys i).2 := by
  unfold generatedKeys
  split
  · exact .refl c
  · exact evolves_memoryCursor c i nofun

theorem covers_evolves (i : Nat) : Covers Evolves i where
  refl := .refl
  trans := .trans
  ended c := evolves_endExecution c i
  recorded c _ _ _ := evolves_modifyStatement c i fun _ => rfl
  taken c := evolves_modifyStatement c i fun _ => rfl
  noted c _ := evolves_setCurrent c _
  made c _ _ _ hopening := evolves_memoryCursor c i (QueryResponse.fits_of_opening hopening)
  opened c := evolves_openNetworkCursor c i

/-! ### Preparing and closing -/

theorem evolves_finishPrepare (c : Connection) (i : Nat) (sql : String)
    (compiled : Result QueryResponse) : Evolves c (c.finishPrepare i sql compiled).2 := by
  unfold finishPrepare
  split
  · exact evolves_putStatement (Statement.continues_close _)
  · exact evolves_of_statements_eq rfl

theorem legs_evolves_prepare (c : Connection) (sql : String) :
    (c.prepare sql).Legs Evolves c := by
  cases hc : c.closed with
  | true =>
    rw [prepare_of_closed hc]
    exact Evolves.refl c
  | false =>
    obtain ⟨submission, -, -, prepared⟩ := prepare_of_open hc sql
    rw [prepared]
    refine ⟨evolves_addStatement c, fun d answer => ?_⟩
    exact (evolves_endExecution d _).trans (evolves_finishPrepare _ _ sql answer)

theorem evolves_closeStatement (c : Connection) (i : Nat) : Evolves c (c.closeStatement i) :=
  evolves_putStatement (Statement.continues_close _)

theorem evolves_closeStatements (c : Connection) : Evolves c c.closeStatements :=
  closeStatements_of .refl .trans evolves_closeStatement c

theorem evolves_close (c : Connection) : Evolves c c.close.2 := by
  unfold close
  split
  · exact .refl c
  · exact evolves_closeStatements { c with closed := true }

theorem evolves_runDeferred (c : Connection) : Evolves c c.runDeferred.2 := by
  unfold runDeferred
  split
  · exact evolves_closeStatements { c with deferred := false }
  · exact .refl c

/-! ### Operations -/

/-- **From call to call no operation has a cursor take over a row but `finishNext`.** -/
theorem legs_evolves {op : Operation} (h : ∀ id, op ≠ .finishNext id) :
    (c.dialogue op).Legs Evolves c := by
  cases op with
  | createStatement =>
    show Evolves c c.createStatement.2
    unfold createStatement
    split
    · exact .refl c
    · exact evolves_addStatement c
  | prepare sql => exact (legs_evolves_prepare c sql).forget
  | openCatalog => exact evolves_openCatalog c
  | typeInfo =>
    refine evolves_catalogCursor c fun row hrow => ?_
    obtain ⟨t, -, rfl⟩ := List.mem_map.mp hrow
    rfl
  | emptyResult columns => exact evolves_catalogCursor c nofun
  | setDataverse dataverse =>
    exact evolves_of_statements_eq (c.statements_setDataverse dataverse).1
  | clearWarnings =>
    show Evolves c c.clearWarnings.2
    unfold clearWarnings
    split <;> exact evolves_of_statements_eq rfl
  | isValid timeout => exact legs_isValid .refl c timeout
  | close => exact legs_teardown .refl (evolves_close c)
  | closeDeferred =>
    show Evolves c c.closeDeferred.2
    unfold closeDeferred
    split <;> exact evolves_of_statements_eq rfl
  | runDeferred => exact legs_teardown .refl (evolves_runDeferred c)
  | drop =>
    have dropped : Evolves c c.drop.2 := evolves_close c
    exact legs_teardown .refl dropped
  | executeQuery | executeUpdate | execute | resultCursor =>
    exact legs_of_covers rfl .refl fun i _ => covers_evolves i
  | moreResults i => exact evolves_putStatement (Statement.continues_moreResults _)
  | generatedKeys i => exact evolves_generatedKeys c i
  | set i setting => exact evolves_putStatement (Statement.continues_set _ setting)
  | cancel i => exact legs_cancel .refl c i
  | cancelIfCurrent i token => exact legs_cancelIfCurrent .refl c i token
  | closeStatement i => exact evolves_closeStatement c i
  | bindParam p position value =>
    exact evolves_of_statements_eq (c.statements_bindParam p position value).1
  | clearParams p => exact evolves_of_statements_eq (c.statements_clearParams p).1
  | startNext id =>
    show Evolves c (c.startNext id).2
    unfold startNext
    split
    · exact .refl c
    · exact evolves_withCursor c id fun _ => single .startNext
  | finishNext id => exact absurd rfl (h id)
  | get id target column =>
    show Evolves c (c.get id target column).2
    unfold get
    split
    · exact .refl c
    · exact evolves_withCursor c id fun _ => single (.get target column)
  | closeCursor id => exact evolves_putStatement (Statement.continues_closeCursor _ _)
  | dropCursor id => exact evolves_putStatement (Statement.continues_dropCursor _ _)

end Connection

/-! ## Runs -/

namespace Shared

open Connection (Evolves)

/-- Whatever it is answered, a thread that waits leads from the connection that it finds to one that
`R` relates to it, leg by leg. -/
def Leads (R : Connection → Connection → Prop) (w : Thread) : Prop :=
  ∀ answers e, (w.dialogue.resume answers e).Legs R e

/-- A turn leads as far as the first leg of what it has going on, and what waits then leads as what
has waited before. -/
theorem leads_take {R : Connection → Connection → Prop} (stays : ∀ e, R e e) {s : Shared}
    (waiting : ∀ w ∈ s.waiting, Leads R w) (turn : Turn)
    (legs : ∀ op, turn = .start op → (s.connection.dialogue op).Legs R s.connection) :
    (∀ w ∈ (s.take turn).waiting, Leads R w) ∧ R s.connection (s.take turn).connection := by
  cases turn with
  | start op =>
    have legs := legs op rfl
    refine ⟨fun v hv => ?_, legs.connection⟩
    rcases mem_waiting_enter hv with hv | ⟨rfl, waits⟩
    · exact waiting v hv
    · exact fun answers e => legs.resume waits answers e
  | answer k answers =>
    cases hw : s.waiting[k]? with
    | none =>
      rw [take_answer_of_none answers hw]
      exact ⟨waiting, stays _⟩
    | some w =>
      rw [take_answer_of_some answers hw]
      have legs := waiting w (List.mem_of_getElem? hw) answers s.connection
      refine ⟨fun v hv => ?_, legs.connection⟩
      rcases mem_waiting_enter hv with hv | ⟨rfl, waits⟩
      · exact waiting v (List.mem_of_mem_eraseIdx hv)
      · exact fun answers e => legs.resume waits answers e

/-- A turn takes over a row, or it has the cursors evolve. -/
theorem evolves_take {s : Shared} (waiting : ∀ w ∈ s.waiting, Leads Evolves w) (turn : Turn) :
    (∀ w ∈ (s.take turn).waiting, Leads Evolves w) ∧
    ((∃ id, turn = .start (.finishNext id)) ∨
      Evolves s.connection (s.take turn).connection) := by
  by_cases finishing : ∃ id, turn = .start (.finishNext id)
  · obtain ⟨id, rfl⟩ := finishing
    -- it is over at once
    exact ⟨waiting, Or.inl ⟨id, rfl⟩⟩
  · have taken := leads_take Evolves.refl waiting turn fun op started =>
      s.connection.legs_evolves fun id same => finishing ⟨id, started.trans (congrArg _ same)⟩
    exact ⟨taken.1, Or.inr taken.2⟩

/-- A run may go on from here: the threads that wait submit nothing and have no cursor take over a
row. -/
structure Regular (s : Shared) : Prop where
  proper : ∀ w ∈ s.waiting, Proper w
  evolving : ∀ w ∈ s.waiting, Leads Evolves w

theorem regular_create (config : ClientConfig) (server : Option String) :
    (create config server).Regular := ⟨nofun, nofun⟩

variable {s : Shared}

theorem Regular.take (h : s.Regular) (turn : Turn) : (s.take turn).Regular :=
  ⟨(take_moves h.proper turn).2, (evolves_take h.evolving turn).1⟩

theorem Regular.run (h : s.Regular) (turns : List Turn) : (s.run turns).Regular := by
  induction turns generalizing s with
  | nil => exact h
  | cons turn turns ih => exact ih (h.take turn)

/-- A connection forgets no statement. -/
theorem Regular.length_take (h : s.Regular) (turn : Turn) :
    s.connection.statements.length ≤ (s.take turn).connection.statements.length := by
  -- there are as many tokens as statements
  have counted : s.connection.tokens.length ≤ (s.take turn).connection.tokens.length := by
    cases (take_moves h.proper turn).1 with
    | submits op started i submission ready =>
      rw [ready]
      exact (s.connection.grown_ready op).drawn.length_le
    | calls executes call silent drawn => exact drawn.length_le
    | rests drawn => exact drawn.length_le
    | ends i renewed => rw [renewed.tokens, List.length_set]
  rwa [Connection.tokens, Connection.tokens, List.length_map, List.length_map] at counted

theorem Regular.length_run (h : s.Regular) (turns : List Turn) :
    s.connection.statements.length ≤ (s.run turns).connection.statements.length := by
  induction turns generalizing s with
  | nil => exact Nat.le_refl _
  | cons turn turns ih => exact Nat.le_trans (h.length_take turn) (ih (h.take turn))

end Shared

end QueryClient
