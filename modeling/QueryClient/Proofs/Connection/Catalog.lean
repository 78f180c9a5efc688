import QueryClient.Proofs.Connection.Lineage
import QueryClient.Proofs.Cursor.Delivery

/-!
# The list of wire types

The statement of the catalog comes once and is never replaced (`KeepsCatalog`), and a statement that
has been closed stays closed (`Shuts`). So the list of wire types is at hand until something closes
the catalog's statement, which is as good as any other one to its own close and to closing on
completion, and no longer after that. Main statement: `typeInfo_lists`.
-/

namespace QueryClient

namespace Connection

/-! ## Statements that stay closed -/

/-- What has been closed is closed still. -/
def Shuts (c d : Connection) : Prop :=
  ∀ i, i < c.statements.length → (c.statement i).closed = true → (d.statement i).closed = true

variable {c d e : Connection}

theorem shuts_of_statements_eq (h : d.statements = c.statements) : Shuts c d := by
  intro i _ closed
  rwa [statement, h]

theorem shuts_putStatement {i : Nat} {s : Statement}
    (h : (c.statement i).closed = true → s.closed = true) : Shuts c (c.putStatement i s) := by
  intro j _ closed
  rw [statement_putStatement_eq]
  split
  · next here => exact h (here.1 ▸ closed)
  · exact closed

theorem shuts_closeStatements (c : Connection) : Shuts c c.closeStatements := by
  have kept (d : Connection) (i j : Nat) (closed : (d.statement j).closed = true) :
      ((d.closeStatement i).statement j).closed = true := by
    rw [closeStatement, modifyStatement, statement_putStatement_eq]
    split
    · exact Statement.closed_close _
    · exact closed
  have all := closeStatements_of
    (R := fun d e => ∀ i, (d.statement i).closed = true → (e.statement i).closed = true)
    (fun _ _ => id) (fun h h' i closed => h' i (h i closed)) kept c
  exact fun i _ => all i

theorem shuts_step (step : Step c d) : Shuts c d := by
  cases step with
  | other _ _ statements => exact shuts_of_statements_eq statements
  | addStatement =>
    intro i hi closed
    rwa [statement_addStatement, if_neg (Nat.ne_of_lt hi)]
  | statement i s steps =>
    exact shuts_putStatement fun closed => Statement.closed_of_steps closed steps
  | close => exact shuts_closeStatements { c with closed := true }
  | closeDeferred => exact shuts_of_statements_eq rfl
  | runDeferred => exact shuts_closeStatements { c with deferred := false }

theorem shuts_steps (steps : Steps c d) : Shuts c d := by
  induction steps with
  | refl => exact fun _ _ closed => closed
  | tail steps step ih =>
    intro i hi closed
    have still := Nat.lt_of_lt_of_le hi (kept_of_steps steps).statements
    exact shuts_step step i still (ih i hi closed)

theorem Extends.shuts {i : Nat} (h : Extends i c d) : Shuts c d := by
  intro j _ closed
  by_cases hj : j = i
  · subst hj
    exact h.own.closed.trans closed
  · rw [h.statement hj]
    exact closed

/-! ## What becomes of the catalog -/

/-- Neither the catalog nor the state of the connection has changed. -/
structure Same (c d : Connection) : Prop where
  closed : d.closed = c.closed
  deferred : d.deferred = c.deferred
  catalog : d.catalog = c.catalog

/-- A closed connection is closed still, and one whose teardown has been put off is closed. The
catalog's statement is the one that it was, or it has come as a new one, which is open. -/
structure KeepsCatalog (c d : Connection) : Prop where
  closed : c.closed = true → d.closed = true
  deferred : d.deferred = true → c.deferred = true ∨ d.closed = true
  catalog : d.catalog = c.catalog ∨ c.catalog = none ∧ d.catalog = some c.statements.length ∧
    (d.statement c.statements.length).closed = false

theorem Same.refl (c : Connection) : Same c c := ⟨rfl, rfl, rfl⟩

theorem Same.trans (h : Same c d) (h' : Same d e) : Same c e :=
  ⟨h'.closed.trans h.closed, h'.deferred.trans h.deferred, h'.catalog.trans h.catalog⟩

theorem Same.keeps (h : Same c d) : KeepsCatalog c d :=
  ⟨fun closed => h.closed.trans closed, fun due => Or.inl (h.deferred ▸ due), Or.inl h.catalog⟩

theorem KeepsCatalog.refl (c : Connection) : KeepsCatalog c c := (Same.refl c).keeps

/-- What closes no statement spares a new catalog, too. -/
theorem KeepsCatalog.spares (h : KeepsCatalog c d) (same : Same d e) (spares : Spares d e) :
    KeepsCatalog c e where
  closed closed := same.closed.trans (h.closed closed)
  deferred due := (h.deferred (same.deferred ▸ due)).imp_right same.closed.trans
  catalog := by
    rw [same.catalog]
    exact h.catalog.imp_right fun ⟨before, new, isOpen⟩ => ⟨before, new, spares _ isOpen⟩

theorem covers_same (i : Nat) : Covers Same i where
  refl := .refl
  trans := .trans
  ended _ := ⟨rfl, rfl, rfl⟩
  recorded _ _ _ _ := ⟨rfl, rfl, rfl⟩
  taken _ := ⟨rfl, rfl, rfl⟩
  noted _ _ := ⟨rfl, rfl, rfl⟩
  made _ _ _ _ _ := ⟨rfl, rfl, rfl⟩
  opened _ _ fetched := by cases fetched <;> exact ⟨rfl, rfl, rfl⟩

theorem same_finishPrepare (c : Connection) (i : Nat) (sql : String)
    (compiled : Result QueryResponse) : Same c (c.finishPrepare i sql compiled).2 := by
  unfold finishPrepare
  split <;> exact ⟨rfl, rfl, rfl⟩

theorem same_closeStatements (c : Connection) : Same c c.closeStatements := by
  have closed := closeStatements_of Same.refl Same.trans (fun _ _ => ⟨rfl, rfl, rfl⟩) c
  exact ⟨closed.closed, closed.deferred, closed.catalog⟩

theorem keepsCatalog_openCatalog (c : Connection) : KeepsCatalog c c.openCatalog.2 := by
  unfold openCatalog
  split
  · exact .refl c
  · split
    · exact .refl c
    · next before =>
      refine ⟨id, fun due => Or.inl due, Or.inr ⟨before, rfl, ?_⟩⟩
      show (c.addStatement.2.statement c.statements.length).closed = false
      rw [statement_addStatement, if_pos rfl]
      rfl

theorem keepsCatalog_catalogCursor (c : Connection) (columns : List Column) (rows : List Row) :
    KeepsCatalog c (c.catalogCursor columns rows).2 := by
  have opened := keepsCatalog_openCatalog c
  unfold catalogCursor
  split
  · next heq => rwa [heq] at opened
  · next i d heq =>
    rw [heq] at opened
    split
    · exact opened
    · exact opened.spares ⟨rfl, rfl, rfl⟩ (extends_memoryCursor d i columns rows).spares

theorem keepsCatalog_close (c : Connection) : KeepsCatalog c c.close.2 := by
  unfold close
  split
  · exact .refl c
  · have closed := same_closeStatements { c with closed := true }
    exact ⟨fun _ => closed.closed, fun due => Or.inl (closed.deferred ▸ due), Or.inl closed.catalog⟩

theorem keepsCatalog_runDeferred (c : Connection) : KeepsCatalog c c.runDeferred.2 := by
  unfold runDeferred
  split
  · have run := same_closeStatements { c with deferred := false }
    refine ⟨fun closed => run.closed.trans closed, fun due => ?_, Or.inl run.catalog⟩
    rw [run.deferred] at due
    cases due
  · exact .refl c

theorem legs_keepsCatalog_prepare (c : Connection) (sql : String) :
    (c.prepare sql).Legs KeepsCatalog c := by
  cases hc : c.closed with
  | true =>
    rw [prepare_of_closed hc]
    exact KeepsCatalog.refl c
  | false =>
    obtain ⟨submission, -, -, prepared⟩ := prepare_of_open hc sql
    rw [prepared]
    refine ⟨Same.keeps ⟨rfl, rfl, rfl⟩, fun d answer => Same.keeps ?_⟩
    have ended (i : Nat) : Same d (d.endExecution i) := ⟨rfl, rfl, rfl⟩
    exact (ended _).trans (same_finishPrepare _ _ sql answer)

/-- **From call to call the connection does not open again, and the catalog stays.** -/
theorem legs_keepsCatalog (c : Connection) (op : Operation) :
    (c.dialogue op).Legs KeepsCatalog c := by
  cases op with
  | createStatement =>
    show KeepsCatalog c c.createStatement.2
    unfold createStatement
    split <;> exact Same.keeps ⟨rfl, rfl, rfl⟩
  | prepare sql => exact (legs_keepsCatalog_prepare c sql).forget
  | openCatalog => exact keepsCatalog_openCatalog c
  | typeInfo => exact keepsCatalog_catalogCursor c _ _
  | emptyResult columns => exact keepsCatalog_catalogCursor c columns []
  | setDataverse dataverse =>
    show KeepsCatalog c (c.setDataverse dataverse).2
    unfold setDataverse
    split
    · exact .refl c
    · split <;> exact Same.keeps ⟨rfl, rfl, rfl⟩
  | clearWarnings =>
    show KeepsCatalog c c.clearWarnings.2
    unfold clearWarnings
    split <;> exact Same.keeps ⟨rfl, rfl, rfl⟩
  | isValid timeout => exact legs_isValid .refl c timeout
  | close => exact legs_teardown .refl (keepsCatalog_close c)
  | closeDeferred =>
    show KeepsCatalog c c.closeDeferred.2
    unfold closeDeferred
    split
    · exact .refl c
    · exact ⟨fun _ => rfl, fun _ => Or.inr rfl, Or.inl rfl⟩
  | runDeferred => exact legs_teardown .refl (keepsCatalog_runDeferred c)
  | drop =>
    have closed := keepsCatalog_close c
    have dropped : KeepsCatalog c c.drop.2 := ⟨closed.closed, closed.deferred, closed.catalog⟩
    exact legs_teardown .refl dropped
  | executeQuery | executeUpdate | execute | resultCursor =>
    exact (legs_of_covers rfl Same.refl fun i _ => covers_same i).mono fun _ _ same => same.keeps
  | generatedKeys i =>
    show KeepsCatalog c (c.generatedKeys i).2
    unfold generatedKeys
    split <;> exact Same.keeps ⟨rfl, rfl, rfl⟩
  | cancel i => exact legs_cancel .refl c i
  | cancelIfCurrent i token => exact legs_cancelIfCurrent .refl c i token
  | bindParam p position value =>
    show KeepsCatalog c (c.bindParam p position value).2
    unfold bindParam
    simp only
    split
    · exact .refl c
    · split <;> exact Same.keeps ⟨rfl, rfl, rfl⟩
  | clearParams p =>
    show KeepsCatalog c (c.clearParams p).2
    unfold clearParams
    simp only
    split <;> exact Same.keeps ⟨rfl, rfl, rfl⟩
  | startNext id =>
    show KeepsCatalog c (c.startNext id).2
    unfold startNext
    split <;> exact Same.keeps ⟨rfl, rfl, rfl⟩
  | finishNext id =>
    show KeepsCatalog c (c.finishNext id).2
    unfold finishNext
    split <;> exact Same.keeps ⟨rfl, rfl, rfl⟩
  | get id target column =>
    show KeepsCatalog c (c.get id target column).2
    unfold get
    split <;> exact Same.keeps ⟨rfl, rfl, rfl⟩
  | moreResults | set | closeStatement | closeCursor | dropCursor =>
    exact Same.keeps ⟨rfl, rfl, rfl⟩

theorem close_of_open (hc : c.closed = false) :
    c.close = (true, { c with closed := true }.closeStatements) :=
  if_neg (Bool.eq_false_iff.mp hc)

/-- What takes a connection down closes it. -/
theorem closed_of_takesDown {op : Operation} (due : c.deferred = true → c.closed = true)
    (h : op.takesDown c = true) : (c.dialogue op).connection.closed = true := by
  cases op with
  | close =>
    rw [dialogue, close_of_open (by simpa [Operation.takesDown] using h)]
    exact (same_closeStatements { c with closed := true }).closed
  | drop =>
    rw [dialogue, drop, close_of_open (by simpa [Operation.takesDown] using h)]
    exact (same_closeStatements { c with closed := true }).closed
  | runDeferred =>
    have running : c.runDeferred = (true, { c with deferred := false }.closeStatements) := if_pos h
    rw [dialogue, running]
    exact (same_closeStatements { c with deferred := false }).closed.trans (due h)
  | _ => cases h

/-! ## Asking for the list -/

/-- The catalog's statement, and what the connection is once it has been asked for. -/
theorem openCatalog_of_open (hc : c.closed = false) : ∃ i, c.openCatalog.1 = .ok i ∧
    c.openCatalog.2.closed = false ∧ c.openCatalog.2.catalog = some i := by
  unfold openCatalog
  rw [if_neg (by rw [hc]; exact Bool.false_ne_true)]
  cases hcat : c.catalog with
  | some i => exact ⟨i, rfl, hc, hcat⟩
  | none => exact ⟨_, rfl, hc, rfl⟩

theorem catalogCursor_of_catalog {i : Nat} (hc : c.closed = false) (catalog : c.catalog = some i)
    (columns : List Column) (rows : List Row) : c.catalogCursor columns rows =
      if (c.statement i).closed then (.error (.closed "metadata"), c)
      else (.ok (c.memoryCursor i columns rows).1, (c.memoryCursor i columns rows).2) := by
  have opened : c.openCatalog = (.ok i, c) := by
    rw [openCatalog, if_neg (by rw [hc]; exact Bool.false_ne_true), catalog]
  rw [catalogCursor, opened]

/-- A new open cursor of an open statement delivers the wire types. -/
structure ListsTypes (c d : Connection) (i : Nat) (id : CursorId) : Prop where
  statement : id.statement = i
  statement_open : (d.statement i).closed = false
  new : c.cursor? id = none
  isOpen : (d.cursor id).closed = false
  stands : ∀ uses, Cursor.Stands typeInfoColumns (Datatype.all.map typeInfoRow) (.ok false)
    (uses.countP Cursor.Use.isNext) ((d.cursor id).afterUses uses)

theorem listsTypes_memoryCursor {i : Nat} (isOpen : (c.statement i).closed = false) :
    let made := c.memoryCursor i typeInfoColumns (Datatype.all.map typeInfoRow)
    ListsTypes c made.2 i made.1 := by
  intro made
  have there := lt_of_open isOpen
  have number : made.1 = ⟨i, (c.statement i).cursors.length⟩ := fst_memoryCursor c i _ _
  have cursor : made.2.cursor made.1 =
      .create typeInfoColumns (.memory (Datatype.all.map typeInfoRow)) 0 := by
    rw [number]
    exact cursor_register there typeInfoColumns (.memory _) 0
  refine ⟨?_, ?_, ?_, ?_, fun uses => ?_⟩
  · rw [number]
  · exact (extends_memoryCursor c i _ _).spares i isOpen
  · rw [number]
    exact List.getElem?_eq_none (Nat.le_refl _)
  · rw [cursor]
    rfl
  · rw [cursor]
    exact Cursor.stands_memory _ _ uses

end Connection

/-! ## Runs -/

namespace Shared

open Connection (KeepsCatalog Shuts)

variable {start : Shared} {turns : List Turn}

theorem Watched.shuts (h : start.Watched turns) (turn : Turn) :
    Shuts (start.run turns).connection ((start.run turns).take turn).connection := by
  cases turn with
  | start op =>
    show Shuts _ ((start.run turns).connection.dialogue op).connection
    cases hcall : ((start.run turns).connection.dialogue op).call? with
    | none => exact Connection.shuts_steps (Connection.steps_of_done hcall)
    | some call =>
      have waits : ((start.run turns).connection.dialogue op).call? ≠ none := hcall ▸ nofun
      cases Connection.calls_of_waits waits with
      | extending i legs => exact legs.connection.shuts
      | teardown steps => exact Connection.shuts_steps steps
      | prepare sql prepares isOpen =>
        obtain ⟨submission, -, -, prepared⟩ := Connection.prepare_of_open isOpen sql
        rw [prepares]
        show Shuts _ ((start.run turns).connection.prepare sql).forget.connection
        rw [prepared]
        exact Connection.shuts_step (.addStatement isOpen)
  | answer k answers =>
    cases hw : (start.run turns).waiting[k]? with
    | none =>
      rw [take_answer_of_none answers hw]
      exact fun _ _ closed => closed
    | some w =>
      rw [take_answer_of_some answers hw]
      show Shuts _ (w.dialogue.resume answers (start.run turns).connection).connection
      rcases h.waits w (List.mem_of_getElem? hw) with ⟨i, legs⟩ | ⟨i, compiles⟩
      · exact (legs answers _).connection.shuts
      · exact Connection.shuts_steps (compiles.resume answers _).2.1

/-! ### What becomes of the catalog -/

theorem leads_keepsCatalog_run {s : Shared} (waiting : ∀ w ∈ s.waiting, Leads KeepsCatalog w)
    (turns : List Turn) : ∀ w ∈ (s.run turns).waiting, Leads KeepsCatalog w := by
  induction turns generalizing s with
  | nil => exact waiting
  | cons turn turns ih =>
    exact ih (leads_take .refl waiting turn fun op _ => s.connection.legs_keepsCatalog op).1

theorem keepsCatalog_take {s : Shared} (waiting : ∀ w ∈ s.waiting, Leads KeepsCatalog w)
    (turn : Turn) : KeepsCatalog s.connection (s.take turn).connection :=
  (leads_take .refl waiting turn fun op _ => s.connection.legs_keepsCatalog op).2

/-- A closed connection stays closed. -/
theorem closed_run {s : Shared} (waiting : ∀ w ∈ s.waiting, Leads KeepsCatalog w)
    (closed : s.connection.closed = true) (turns : List Turn) :
    (s.run turns).connection.closed = true := by
  induction turns generalizing s with
  | nil => exact closed
  | cons turn turns ih =>
    exact ih (leads_keepsCatalog_run waiting [turn])
      ((keepsCatalog_take waiting turn).closed closed)

theorem closed_of_deferred_run {s : Shared} (waiting : ∀ w ∈ s.waiting, Leads KeepsCatalog w)
    (due : s.connection.deferred = true → s.connection.closed = true) (turns : List Turn) :
    (s.run turns).connection.deferred = true → (s.run turns).connection.closed = true := by
  induction turns generalizing s with
  | nil => exact due
  | cons turn turns ih =>
    have keeps := keepsCatalog_take waiting turn
    refine ih (leads_keepsCatalog_run waiting [turn]) fun later => ?_
    exact (keeps.deferred later).elim (fun before => keeps.closed (due before)) id

/-- The catalog's statement is the one that it was, or it has come later. -/
theorem catalog_or_le {s : Shared} (h : s.Regular)
    (waiting : ∀ w ∈ s.waiting, Leads KeepsCatalog w) {i : Nat} (turns : List Turn)
    (catalog : (s.run turns).connection.catalog = some i) :
    s.connection.catalog = some i ∨ s.connection.statements.length ≤ i := by
  induction turns generalizing s with
  | nil => exact Or.inl catalog
  | cons turn turns ih =>
    rcases ih (h.take turn) (leads_keepsCatalog_run waiting [turn]) catalog with same | later
    · rcases (keepsCatalog_take waiting turn).catalog with kept | ⟨-, new, -⟩
      · exact Or.inl (kept.symm.trans same)
      · exact Or.inr (Nat.le_of_eq (Option.some.inj (new.symm.trans same)))
    · exact Or.inr (Nat.le_trans (h.length_take turn) later)

/-! ### What closes the catalog -/

/-- A turn closes the catalog's statement. -/
structure ClosesCatalog (s : Shared) (i : Nat) (turn : Turn) : Prop where
  catalog : s.connection.catalog = some i
  isOpen : (s.connection.statement i).closed = false
  closed : ((s.take turn).connection.statement i).closed = true

/-- One of the turns of a run has closed the catalog's statement. -/
def CatalogClosed (start : Shared) (turns : List Turn) (i : Nat) : Prop :=
  ∃ past turn rest, turns = past ++ turn :: rest ∧ (start.run past).ClosesCatalog i turn

theorem catalogClosed_concat (start : Shared) (turns : List Turn) (turn : Turn) (i : Nat) :
    start.CatalogClosed (turns ++ [turn]) i ↔
      start.CatalogClosed turns i ∨ (start.run turns).ClosesCatalog i turn := by
  constructor
  · rintro ⟨past, turn', rest, split, closes⟩
    rcases split_concat split with ⟨rfl, rfl, -⟩ | ⟨rest, -, same⟩
    · exact Or.inr closes
    · exact Or.inl ⟨past, turn', rest, same, closes⟩
  · rintro (⟨past, turn', rest, rfl, closes⟩ | closes)
    · exact ⟨past, turn', rest ++ [turn], List.append_assoc _ _ _, closes⟩
    · exact ⟨turns, turn, [], rfl, closes⟩

/-- The catalog's statement has been created, and it is closed precisely if a turn has closed it. -/
structure Catalogued (start : Shared) (turns : List Turn) : Prop where
  there : ∀ i, (start.run turns).connection.catalog = some i →
    i < (start.run turns).connection.statements.length
  closed_iff : ∀ i, start.CatalogClosed turns i ↔ (start.run turns).connection.catalog = some i ∧
    ((start.run turns).connection.statement i).closed = true

theorem Catalogued.concat (h : start.Catalogued turns) (watched : start.Watched turns)
    (regular : (start.run turns).Regular)
    (waiting : ∀ w ∈ (start.run turns).waiting, Leads KeepsCatalog w) (turn : Turn) :
    start.Catalogued (turns ++ [turn]) := by
  have keeps := keepsCatalog_take waiting turn
  have shuts := watched.shuts turn
  have taken : start.run (turns ++ [turn]) = (start.run turns).take turn :=
    start.run_append turns [turn]
  refine ⟨fun i catalog => ?_, fun i => ?_⟩
  · rw [taken] at catalog ⊢
    rcases keeps.catalog with same | ⟨-, new, isOpen⟩
    · exact Nat.lt_of_lt_of_le (h.there i (same.symm.trans catalog)) (regular.length_take turn)
    · cases new.symm.trans catalog
      exact Connection.lt_of_open isOpen
  · rw [catalogClosed_concat, h.closed_iff, taken]
    have stays (catalog : (start.run turns).connection.catalog = some i) :
        ((start.run turns).take turn).connection.catalog = some i := by
      rcases keeps.catalog with same | ⟨before, -⟩
      · exact same.trans catalog
      · cases before.symm.trans catalog
    constructor
    · rintro (⟨catalog, closed⟩ | closes)
      · exact ⟨stays catalog, shuts i (h.there i catalog) closed⟩
      · exact ⟨stays closes.catalog, closes.closed⟩
    · rintro ⟨catalog, closed⟩
      rcases keeps.catalog with same | ⟨-, new, isOpen⟩
      · have before := same.symm.trans catalog
        cases hc : ((start.run turns).connection.statement i).closed with
        | true => exact Or.inl ⟨before, rfl⟩
        | false => exact Or.inr ⟨before, hc, closed⟩
      · -- a catalog that has just come is open
        cases new.symm.trans catalog
        rw [isOpen] at closed
        cases closed

section

variable (config : ClientConfig) (server : Option String)

theorem leads_keepsCatalog (turns : List Turn) :
    ∀ w ∈ ((create config server).run turns).waiting, Leads KeepsCatalog w :=
  leads_keepsCatalog_run (s := create config server) nofun turns

theorem catalogued_run (turns : List Turn) : (create config server).Catalogued turns := by
  induction turns using List.reverseRecOn with
  | nil =>
    refine ⟨nofun, fun i => iff_of_false ?_ nofun⟩
    rintro ⟨past, turn, rest, split, -⟩
    exact List.append_ne_nil_of_right_ne_nil past (List.cons_ne_nil turn rest) split.symm
  | append_singleton turns turn ih =>
    exact ih.concat (watched_run config server turns)
      ((regular_create config server).run turns) (leads_keepsCatalog config server turns) turn

/-- The catalog's statement has not been created to compile anything. -/
theorem not_compiles_catalog {turns : List Turn} {i : Nat} {w : Thread}
    (catalog : ((create config server).run turns).connection.catalog = some i) :
    ¬(create config server).Compiles turns i w := by
  rintro ⟨before, sql, rest, rfl, isOpen, rfl, -⟩
  -- the statement has come with the preparation, and the catalog was another one or none by then
  obtain ⟨submission, -, -, prepared⟩ := Connection.prepare_of_open isOpen sql
  have added : ((create config server).run (before ++ [.start (.prepare sql)])).connection =
      ((create config server).run before).connection.addStatement.2 := by
    rw [run_append]
    show (((create config server).run before).connection.prepare sql).forget.connection = _
    rw [prepared]
    rfl
  rw [List.append_cons, run_append] at catalog
  rcases catalog_or_le ((regular_create config server).run _)
    (leads_keepsCatalog config server _) rest catalog with same | later
  · rw [added] at same
    exact Nat.lt_irrefl _ ((catalogued_run config server before).there _ same)
  · rw [added, Connection.length_addStatement] at later
    exact Nat.not_succ_le_self _ later

/-- **What closes the catalog's statement** on a connection that stays open: its own close, the end
of one of its open cursors, if it closes on completion, and being done with the current cursor once
it is spent. -/
theorem closesCatalog_cases {turns : List Turn} {i : Nat} {turn : Turn}
    (closes : ((create config server).run turns).ClosesCatalog i turn)
    (stays : (((create config server).run turns).take turn).connection.closed = false) :
    let s := (create config server).run turns
    turn = .start (.closeStatement i) ∨
    ((s.connection.statement i).closeOnCompletion = true ∧
      ∃ k, (s.connection.cursor ⟨i, k⟩).closed = false ∧
        ((s.take turn).connection.cursor ⟨i, k⟩).closed = true) ∨
    (turn = .start (.moreResults i) ∧ (s.connection.statement i).Spent) := by
  intro s
  have watched := watched_run config server turns
  cases turn with
  | start op =>
    rcases watched.tracks.closes closes.isOpen closes.closed with rfl | down | ended | ⟨rfl, spent⟩
    · exact Or.inl rfl
    · have due := closed_of_deferred_run (s := create config server) nofun nofun turns
      have down : (s.take (.start op)).connection.closed = true :=
        Connection.closed_of_takesDown due down
      rw [down] at stays
      cases stays
    · exact Or.inr (Or.inl ended)
    · exact Or.inr (Or.inr ⟨rfl, spent⟩)
  | answer k answers =>
    obtain ⟨w, -, compiles, -⟩ := watched.fails_of_answer closes.isOpen closes.closed
    exact absurd compiles (not_compiles_catalog config server closes.catalog)

end

open Connection (ListsTypes typeInfoColumns typeInfoRow)

/-- **The wire types are listed until the statement of the catalog is closed.** Whatever has been
done to a connection that is open still, and whatever is still under way: the catalog can be asked
for, and the list of wire types is a new open cursor over one row for each of them, unless one of
the turns has closed the catalog's statement; then it fails, and changes nothing. Such a turn was
the statement's own close, or the statement closed on completion and one of its open cursors ended,
or it was spent and its current cursor done with. -/
theorem typeInfo_lists (config : ClientConfig) (server : Option String) (turns : List Turn) :
    let start := create config server
    let c := (start.run turns).connection
    c.closed = false → ∃ i, c.openCatalog.1 = .ok i ∧
      let d := c.openCatalog.2
      (¬start.CatalogClosed turns i → ∃ id, d.typeInfo.1 = .ok id ∧
        ListsTypes d d.typeInfo.2 i id ∧ ∀ t, Datatype.all.count t = 1) ∧
      (start.CatalogClosed turns i → d.typeInfo = (.error (.closed "metadata"), d)) ∧
      ∀ past turn rest, turns = past ++ turn :: rest →
        let s := start.run past
        s.ClosesCatalog i turn →
          turn = .start (.closeStatement i) ∨
          ((s.connection.statement i).closeOnCompletion = true ∧
            ∃ k, (s.connection.cursor ⟨i, k⟩).closed = false ∧
              ((s.take turn).connection.cursor ⟨i, k⟩).closed = true) ∨
          (turn = .start (.moreResults i) ∧ (s.connection.statement i).Spent) := by
  intro start c isOpen
  obtain ⟨i, opened, stays, catalog⟩ := Connection.openCatalog_of_open isOpen
  refine ⟨i, opened, ?_⟩
  intro d
  -- asking for the catalog is one more turn, which closes nothing
  have asked : (start.run (turns ++ [.start .openCatalog])).connection = d := by
    rw [run_append]
    rfl
  have closed_iff : start.CatalogClosed turns i ↔ (d.statement i).closed = true := by
    have all := (catalogued_run config server (turns ++ [.start .openCatalog])).closed_iff i
    rw [asked, catalogClosed_concat] at all
    refine (or_iff_left fun closes => ?_).symm.trans (all.trans (and_iff_right catalog))
    have spared := Connection.spares_openCatalog c i closes.isOpen
    exact Bool.noConfusion (spared.symm.trans closes.closed)
  have listed := Connection.catalogCursor_of_catalog stays catalog typeInfoColumns
    (Datatype.all.map typeInfoRow)
  refine ⟨fun untouched => ?_, fun closed => ?_, ?_⟩
  · have there : (d.statement i).closed = false :=
      Bool.eq_false_iff.mpr fun h => untouched (closed_iff.mpr h)
    have made : d.typeInfo = _ := listed.trans (if_neg (Bool.eq_false_iff.mp there))
    rw [made]
    exact ⟨_, rfl, Connection.listsTypes_memoryCursor there, fun t => by cases t <;> rfl⟩
  · exact listed.trans (if_pos (closed_iff.mp closed))
  · rintro past turn rest rfl s closes
    refine closesCatalog_cases config server closes (Bool.eq_false_iff.mpr fun closed => ?_)
    have down := closed_run (leads_keepsCatalog config server (past ++ [turn]))
      (by rw [run_append]; exact closed) rest
    rw [← run_append, ← List.append_cons] at down
    exact Bool.noConfusion (isOpen.symm.trans down)

/-- The list of wire types has been closed, and after it the statement of the catalog. -/
def uncatalogued : List Turn :=
  [.start .typeInfo, .start (.closeCursor ⟨0, 0⟩), .start (.closeStatement 0)]

/-- The connection is open, and still the list of wire types cannot be had. -/
theorem uncatalogued_refuses :
    let c := ((create .standard none).run uncatalogued).connection
    c.closed = false ∧ c.openCatalog.1 = .ok 0 ∧
      c.openCatalog.2.typeInfo.1 = .error (.closed "metadata") := by
  intro c
  exact ⟨rfl, rfl, rfl⟩

theorem uncatalogued_lists :
    let start := create .standard none
    let c := (start.run (uncatalogued.take 2)).connection
    let d := (start.run uncatalogued).connection
    (∃ id, c.openCatalog.2.typeInfo.1 = .ok id ∧ id.statement = 0 ∧
      (c.openCatalog.2.typeInfo.2.cursor id).closed = false) ∧
    d.openCatalog.2.typeInfo = (.error (.closed "metadata"), d.openCatalog.2) := by
  intro start c d
  have openBefore : c.closed = false := rfl
  obtain ⟨i, asked, lists, -, -⟩ := typeInfo_lists .standard none (uncatalogued.take 2) openBefore
  cases asked
  have untouched : ¬start.CatalogClosed (uncatalogued.take 2) 0 := by
    rw [(catalogued_run .standard none _).closed_iff]
    exact fun h => Bool.noConfusion (show false = true from h.2)
  obtain ⟨id, listed, types, -⟩ := lists untouched
  have openAfter : d.closed = false := rfl
  obtain ⟨i, asked, -, fails, -⟩ := typeInfo_lists .standard none uncatalogued openAfter
  cases asked
  have closes : start.CatalogClosed uncatalogued 0 :=
    ⟨uncatalogued.take 2, .start (.closeStatement 0), [], rfl, rfl, rfl, rfl⟩
  exact ⟨⟨id, listed, types.statement, types.isOpen⟩, fails closes⟩

end Shared

end QueryClient
