import QueryClient.Proofs.Connection.Step
import QueryClient.Proofs.Statement.Registry

/-!
# The registry of a connection

A connection's registry holds precisely its open statements, and a connection that has been taken
down has none. `Exact` says so; every step keeps it, and so does every session (`exact_run`). Main
statement: `run_closes_and_registers`.
-/

namespace QueryClient.Connection

/-- Whether a connection has been closed and all that belongs to it with it. -/
def IsDown (c : Connection) : Prop := c.closed = true ∧ c.deferred = false

/-- The registry is exact, and so are those of all statements. -/
structure Exact (c : Connection) : Prop where
  statements : ∀ s ∈ c.statements, s.Exact
  mem_registry : ∀ i, i ∈ c.registry ↔ ∃ s, c.statements[i]? = some s ∧ s.closed = false
  closed_of_deferred : c.deferred = true → c.closed = true
  down : c.IsDown → ∀ s ∈ c.statements, s.closed = true

theorem exact_create (config : ClientConfig) (server : Option String) :
    (create config server).Exact where
  statements := by simp [create]
  mem_registry := by simp [create]
  closed_of_deferred := by simp [create]
  down := by simp [create]

/-- The statement of a number is exact, be it a created one or not. -/
theorem Exact.statement {c : Connection} (h : c.Exact) (i : Nat) : (c.statement i).Exact := by
  unfold Connection.statement
  cases hs : c.statements[i]? with
  | none =>
    refine ⟨?_, ?_⟩
    · intro o j
      cases o <;> simp [noStatement, Statement.create, Statement.registry]
    · intro _ k hk
      simp [noStatement, Statement.create] at hk
  | some s => exact h.statements s (List.mem_of_getElem? hs)

theorem Exact.closed_of_isDown {c : Connection} (h : c.Exact) (down : c.IsDown) (i : Nat) :
    (c.statement i).closed = true := by
  unfold Connection.statement
  cases hs : c.statements[i]? with
  | none => rfl
  | some s => exact h.down down s (List.mem_of_getElem? hs)

/-- The registry holds precisely the open statements. -/
def Registered (c : Connection) : Prop := ∀ i, i ∈ c.registry ↔ (c.statement i).closed = false

theorem exists_open_iff (c : Connection) (i : Nat) :
    (∃ s, c.statements[i]? = some s ∧ s.closed = false) ↔ (c.statement i).closed = false := by
  constructor
  · rintro ⟨s, hs, isOpen⟩
    rw [statement_of_getElem? hs]
    exact isOpen
  · intro isOpen
    have there := List.getElem?_eq_getElem (lt_of_open isOpen)
    rw [statement_of_getElem? there] at isOpen
    exact ⟨_, there, isOpen⟩

theorem Exact.registered {c : Connection} (h : c.Exact) : c.Registered :=
  fun i => (h.mem_registry i).trans (exists_open_iff c i)

/-! ## Steps that close nothing -/

theorem Exact.other {c d : Connection} (h : c.Exact) (closed : d.closed = c.closed)
    (deferred : d.deferred = c.deferred) (statements : d.statements = c.statements)
    (registry : d.registry = c.registry) : d.Exact where
  statements := by rw [statements]; exact h.statements
  mem_registry := by rw [statements, registry]; exact h.mem_registry
  closed_of_deferred := by rw [closed, deferred]; exact h.closed_of_deferred
  down := by rw [IsDown, closed, deferred, statements]; exact h.down

theorem Registered.addStatement {c : Connection} (h : c.Registered) :
    c.addStatement.2.Registered := by
  intro i
  rw [statement_addStatement]
  show i ∈ c.registry ++ [c.statements.length] ↔ _
  rw [List.mem_append, List.mem_singleton, h i]
  split
  · next hi => exact iff_of_true (Or.inr hi) rfl
  · next hi => exact or_iff_left hi

theorem Exact.addStatement {c : Connection} (h : c.Exact) (isOpen : c.closed = false) :
    c.addStatement.2.Exact where
  statements := by
    intro s hs
    rcases List.mem_append.mp hs with hs | hs
    · exact h.statements s hs
    · rw [List.mem_singleton.mp hs]
      exact Statement.exact_create _
  mem_registry := fun i => (h.registered.addStatement i).trans (exists_open_iff _ i).symm
  closed_of_deferred := h.closed_of_deferred
  down := by
    rintro ⟨hc, -⟩
    rw [show c.addStatement.2.closed = c.closed from rfl, isOpen] at hc
    exact absurd hc Bool.false_ne_true

theorem mem_registry_putStatement (c : Connection) (i j : Nat) (s : Statement) :
    j ∈ (c.putStatement i s).registry ↔ j ∈ c.registry ∧ ¬(s.closed = true ∧ j = i) := by
  unfold putStatement
  simp only
  split
  · next hs => simp [hs]
  · next hs => simp [hs]

theorem getElem?_putStatement (c : Connection) (i j : Nat) (s : Statement) :
    (c.putStatement i s).statements[j]? =
      if i = j then c.statements[j]?.map fun _ => s else c.statements[j]? := by
  show (c.statements.set i s)[j]? = _
  rw [List.getElem?_set']
  split
  · next hij =>
    subst hij
    rfl
  · rfl

theorem statement_putStatement_of_ne {c : Connection} {i j : Nat} (hij : i ≠ j) (s : Statement) :
    (c.putStatement i s).statement j = c.statement j := by
  unfold statement
  rw [getElem?_putStatement, if_neg hij]

/-- Putting a statement of the same looks in the place of another one changes the looks of none, be
it there or not. -/
theorem apply_putStatement {β : Type} (look : Statement → β) {c : Connection} {i : Nat}
    {s : Statement} (h : look s = look (c.statement i)) (j : Nat) :
    look ((c.putStatement i s).statement j) = look (c.statement j) := by
  by_cases hij : i = j
  · subst hij
    rcases Nat.lt_or_ge i c.statements.length with hi | hi
    · rw [statement_putStatement hi, h]
    · -- there is no such statement, neither before nor after
      have same : (c.putStatement i s).statements = c.statements :=
        List.set_eq_of_length_le hi
      rw [statement, same]
      rfl
  · rw [statement_putStatement_of_ne hij]

theorem apply_modifyStatement {β : Type} (look : Statement → β) (c : Connection) (i : Nat)
    (f : Statement → Statement) (h : ∀ s, look (f s) = look s) (j : Nat) :
    look ((c.modifyStatement i f).statement j) = look (c.statement j) :=
  apply_putStatement look (h _) j

/-- A registry stays exact if no statement that is closed comes back open. -/
theorem Registered.putStatement {c : Connection} (h : c.Registered) {i : Nat} {s : Statement}
    (kept : (c.statement i).closed = true → s.closed = true) : (c.putStatement i s).Registered := by
  intro j
  rw [mem_registry_putStatement, h j]
  by_cases hij : i = j
  · -- the number stays registered unless the statement has become closed
    subst hij
    rcases Nat.lt_or_ge i c.statements.length with hi | hi
    · rw [statement_putStatement hi]
      constructor
      · rintro ⟨-, hne⟩
        exact Bool.eq_false_iff.mpr fun hs => hne ⟨hs, rfl⟩
      · intro hs
        rw [hs] at kept
        refine ⟨Bool.eq_false_iff.mpr fun hc => Bool.false_ne_true (kept hc), ?_⟩
        rw [hs]
        exact fun hne => Bool.false_ne_true hne.1
    · refine iff_of_false ?_ ?_
      · exact fun hs => absurd (lt_of_open hs.1) (Nat.not_lt_of_ge hi)
      · intro hs
        have there := lt_of_open hs
        rw [length_putStatement] at there
        exact absurd there (Nat.not_lt_of_ge hi)
  · rw [statement_putStatement_of_ne hij]
    exact and_iff_left fun hne => hij hne.2.symm

theorem Exact.putStatement {c : Connection} (h : c.Exact) {i : Nat} {s : Statement}
    (exact : s.Exact) (kept : (c.statement i).closed = true → s.closed = true) :
    (c.putStatement i s).Exact where
  statements := by
    intro t ht
    rcases List.mem_or_eq_of_mem_set ht with ht | rfl
    · exact h.statements t ht
    · exact exact
  mem_registry := fun j => (h.registered.putStatement kept j).trans (exists_open_iff _ j).symm
  closed_of_deferred := h.closed_of_deferred
  down := by
    intro hd t ht
    obtain ⟨j, hj⟩ := List.mem_iff_getElem?.mp ht
    rw [getElem?_putStatement] at hj
    split at hj
    · next hij =>
      subst hij
      obtain ⟨old, hold, rfl⟩ := Option.map_eq_some_iff.mp hj
      refine kept ?_
      rw [statement_of_getElem? hold]
      exact h.down hd old (List.mem_of_getElem? hold)
    · exact h.down hd t (List.mem_of_getElem? hj)

/-! ## The cascade -/

theorem statements_closeStatement (c : Connection) (i : Nat) :
    (c.closeStatement i).statements = c.statements.modify i Statement.close := by
  refine List.ext_getElem? fun j => ?_
  show (c.putStatement i _).statements[j]? = _
  rw [getElem?_putStatement, List.getElem?_modify]
  split
  · next hij =>
    subst hij
    cases hs : c.statements[i]? with
    | none => rfl
    | some s => rw [statement_of_getElem? hs]; rfl
  · simp

theorem statements_foldl_closeStatement (places : List Nat) (c : Connection) :
    (places.foldl closeStatement c).statements =
      modifyAll Statement.close places c.statements := by
  induction places generalizing c with
  | nil => rfl
  | cons i places ih =>
    show (places.foldl closeStatement (c.closeStatement i)).statements = _
    rw [ih, statements_closeStatement]
    rfl

theorem statements_closeStatements (c : Connection) :
    c.closeStatements.statements = modifyAll Statement.close c.registry c.statements :=
  statements_foldl_closeStatement c.registry { c with registry := [] }

/-- Closing statements leaves the rest of a connection with an empty registry as it is. -/
theorem rest_foldl_closeStatement (places : List Nat) (c : Connection) (h : c.registry = []) :
    (places.foldl closeStatement c).registry = [] ∧
      (places.foldl closeStatement c).closed = c.closed ∧
        (places.foldl closeStatement c).deferred = c.deferred := by
  induction places generalizing c with
  | nil => exact ⟨h, rfl, rfl⟩
  | cons i places ih =>
    refine ih (c.closeStatement i) ?_
    refine List.eq_nil_iff_forall_not_mem.mpr fun j hj => ?_
    rw [closeStatement, modifyStatement, mem_registry_putStatement, h] at hj
    exact absurd hj.1 List.not_mem_nil

theorem rest_closeStatements (c : Connection) : c.closeStatements.registry = [] ∧
    c.closeStatements.closed = c.closed ∧ c.closeStatements.deferred = c.deferred :=
  rest_foldl_closeStatement c.registry { c with registry := [] } rfl

/-- **Closing the registered statements closes every statement that has ever been created.** -/
theorem closed_of_mem_closeStatements {c : Connection}
    (mem_registry : ∀ i, i ∈ c.registry ↔ ∃ s, c.statements[i]? = some s ∧ s.closed = false) :
    ∀ s ∈ c.closeStatements.statements, s.closed = true := by
  intro s hs
  rw [statements_closeStatements] at hs
  obtain ⟨j, hj⟩ := List.mem_iff_getElem?.mp hs
  rcases changed_or_of_getElem?_modifyAll (p := fun s => s.closed = true) Statement.closed_close
    _ _ hj with hc | ⟨hmem, hs⟩
  · exact hc
  · -- an open statement would have been in the registry
    cases hc : s.closed with
    | true => rfl
    | false => exact absurd ((mem_registry j).mpr ⟨s, hs, hc⟩) hmem

theorem exact_closeStatements {c : Connection} (statements : ∀ s ∈ c.statements, s.Exact)
    (mem_registry : ∀ i, i ∈ c.registry ↔ ∃ s, c.statements[i]? = some s ∧ s.closed = false)
    (closed_of_deferred : c.deferred = true → c.closed = true) : c.closeStatements.Exact where
  statements := by
    rw [statements_closeStatements]
    exact forall_mem_modifyAll (p := Statement.Exact) (fun _ h => h.close) c.registry statements
  mem_registry := by
    intro i
    rw [(rest_closeStatements c).1]
    constructor
    · intro hi
      exact absurd hi List.not_mem_nil
    · rintro ⟨s, hs, hc⟩
      rw [closed_of_mem_closeStatements mem_registry s (List.mem_of_getElem? hs)] at hc
      exact absurd hc.symm Bool.false_ne_true
  closed_of_deferred := by
    rw [(rest_closeStatements c).2.1, (rest_closeStatements c).2.2]
    exact closed_of_deferred
  down := fun _ => closed_of_mem_closeStatements mem_registry

/-! ## Steps -/

theorem Exact.step {c d : Connection} (h : c.Exact) (step : Step c d) : d.Exact := by
  cases step with
  | other closed deferred statements registry => exact h.other closed deferred statements registry
  | addStatement isOpen => exact h.addStatement isOpen
  | statement i s steps =>
    exact h.putStatement ((h.statement i).steps steps) fun hs => Statement.closed_of_steps hs steps
  | close => exact exact_closeStatements h.statements h.mem_registry fun _ => rfl
  | closeDeferred isOpen =>
    exact ⟨h.statements, h.mem_registry, fun _ => rfl, fun hd => absurd hd.2 (by simp)⟩
  | runDeferred => exact exact_closeStatements h.statements h.mem_registry nofun

theorem Exact.steps {c d : Connection} (h : c.Exact) (steps : Steps c d) : d.Exact := by
  induction steps with
  | refl => exact h
  | tail _ step ih => exact ih.step step

/-- A connection that has been taken down stays down. -/
theorem isDown_of_step {c d : Connection} (h : c.IsDown) (step : Step c d) : d.IsDown := by
  cases step with
  | other closed deferred => exact ⟨closed.trans h.1, deferred.trans h.2⟩
  | addStatement isOpen => rw [h.1] at isOpen; exact absurd isOpen.symm Bool.false_ne_true
  | statement => exact h
  | close isOpen => rw [h.1] at isOpen; exact absurd isOpen.symm Bool.false_ne_true
  | closeDeferred isOpen => rw [h.1] at isOpen; exact absurd isOpen.symm Bool.false_ne_true
  | runDeferred isDeferred => rw [h.2] at isDeferred; exact absurd isDeferred Bool.false_ne_true

theorem isDown_of_steps {c d : Connection} (h : c.IsDown) (steps : Steps c d) : d.IsDown := by
  induction steps with
  | refl => exact h
  | tail _ step ih => exact isDown_of_step ih step

/-! ## Nothing is forgotten -/

/-- All statements and cursors of the one connection are still there in the other. -/
structure Kept (c d : Connection) : Prop where
  statements : c.statements.length ≤ d.statements.length
  cursors : ∀ i, (c.statement i).cursors.length ≤ (d.statement i).cursors.length

theorem Kept.refl (c : Connection) : Kept c c := ⟨Nat.le_refl _, fun _ => Nat.le_refl _⟩

theorem Kept.trans {c d e : Connection} (h : Kept c d) (h' : Kept d e) : Kept c e :=
  ⟨Nat.le_trans h.statements h'.statements, fun i => Nat.le_trans (h.cursors i) (h'.cursors i)⟩

theorem kept_of_statements_eq {c d : Connection} (h : d.statements = c.statements) : Kept c d := by
  refine ⟨Nat.le_of_eq (congrArg List.length h.symm), fun i => ?_⟩
  exact Nat.le_of_eq (by rw [statement, statement, h])

theorem kept_putStatement (c : Connection) (i : Nat) {s : Statement}
    (steps : Statement.Steps (c.statement i) s) : Kept c (c.putStatement i s) := by
  refine ⟨Nat.le_of_eq (length_putStatement c i s).symm, fun j => ?_⟩
  unfold statement
  rw [getElem?_putStatement]
  split
  · next hij =>
    subst hij
    cases hs : c.statements[i]? with
    | none => exact Nat.le_refl _
    | some old =>
      rw [statement_of_getElem? hs] at steps
      exact Statement.length_cursors_of_steps steps
  · exact Nat.le_refl _

theorem kept_foldl_closeStatement (places : List Nat) (c : Connection) :
    Kept c (places.foldl closeStatement c) := by
  induction places generalizing c with
  | nil => exact Kept.refl c
  | cons i places ih =>
    exact (kept_putStatement c i (Statement.steps_close _)).trans (ih (c.closeStatement i))

theorem kept_closeStatements (c : Connection) : Kept c c.closeStatements := by
  have h : Kept c { c with registry := [] } := kept_of_statements_eq rfl
  exact h.trans (kept_foldl_closeStatement c.registry _)

theorem kept_of_step {c d : Connection} (step : Step c d) : Kept c d := by
  cases step with
  | other _ _ statements => exact kept_of_statements_eq statements
  | addStatement =>
    refine ⟨?_, fun i => ?_⟩
    · exact c.length_addStatement ▸ Nat.le_succ _
    · rw [statement_addStatement]
      split
      · next hi =>
        rw [hi, statement_of_length_le (Nat.le_refl _)]
        exact Nat.le_refl _
      · exact Nat.le_refl _
  | statement i s steps => exact kept_putStatement c i steps
  | close =>
    have h : Kept c { c with closed := true } := kept_of_statements_eq rfl
    exact h.trans (kept_closeStatements _)
  | closeDeferred => exact kept_of_statements_eq rfl
  | runDeferred =>
    have h : Kept c { c with deferred := false } := kept_of_statements_eq rfl
    exact h.trans (kept_closeStatements _)

theorem kept_of_steps {c d : Connection} (steps : Steps c d) : Kept c d := by
  induction steps with
  | refl => exact Kept.refl c
  | tail _ step ih => exact ih.trans (kept_of_step step)

/-! ## Sessions -/

theorem steps_run (c : Connection) (session : List (Operation × Answers)) :
    Steps c (c.run session) := by
  induction session generalizing c with
  | nil => exact .refl
  | cons step session ih => exact (steps_after c step.1 step.2).trans (ih _)

theorem run_append (c : Connection) (before rest : List (Operation × Answers)) :
    c.run (before ++ rest) = (c.run before).run rest := List.foldl_append

/-- After every session the registries are exact. -/
theorem exact_run (config : ClientConfig) (server : Option String)
    (session : List (Operation × Answers)) : ((create config server).run session).Exact :=
  (exact_create config server).steps (steps_run _ session)

theorem isDown_closeStatements {c : Connection} (h : c.IsDown) : c.closeStatements.IsDown := by
  have hr := rest_closeStatements c
  exact ⟨hr.2.1.trans h.1, hr.2.2.trans h.2⟩

/-- An operation that takes a connection down leaves it down. -/
theorem isDown_after {c : Connection} (h : c.Exact) {op : Operation} {answers : Answers}
    (down : op.takesDown c = true) : (c.after (op, answers)).IsDown := by
  unfold after perform effect
  cases op with
  | close =>
    have hc : c.closed = false := by simpa [Operation.takesDown] using down
    have hd : c.deferred = false := by
      cases hd : c.deferred with
      | false => rfl
      | true => rw [h.closed_of_deferred hd] at hc; exact absurd hc.symm Bool.false_ne_true
    simp only [connection_settle_teardown, close, hc, Bool.false_eq_true, if_false]
    exact isDown_closeStatements ⟨rfl, hd⟩
  | drop =>
    have hc : c.closed = false := by simpa [Operation.takesDown] using down
    have hd : c.deferred = false := by
      cases hd : c.deferred with
      | false => rfl
      | true => rw [h.closed_of_deferred hd] at hc; exact absurd hc.symm Bool.false_ne_true
    simp only [connection_settle_teardown, drop, close, hc, Bool.false_eq_true, if_false]
    exact isDown_closeStatements ⟨rfl, hd⟩
  | runDeferred =>
    -- only a connection that has been closed has anything deferred
    have hd : c.deferred = true := down
    simp only [connection_settle_teardown, runDeferred, hd, if_true]
    exact isDown_closeStatements ⟨h.closed_of_deferred hd, rfl⟩
  | _ => exact absurd down (by simp [Operation.takesDown])

/-- **What closes, closes everything below it, and the registries are exact**, whatever the session.
Nothing that it has created is forgotten; a closed statement has closed cursors only; once the
connection has been taken down all its statements are closed; and each registry holds precisely what
is open. -/
theorem run_closes_and_registers (config : ClientConfig) (server : Option String)
    (session : List (Operation × Answers)) :
    let start := create config server
    let c := start.run session
    (∀ before rest, session = before ++ rest → Kept (start.run before) c) ∧
    (∀ s ∈ c.statements, s.closed = true → ∀ k ∈ s.cursors, k.closed = true) ∧
    (∀ before op answers rest, session = before ++ (op, answers) :: rest →
      op.takesDown (start.run before) = true → ∀ s ∈ c.statements, s.closed = true) ∧
    (∀ s ∈ c.statements, ∀ i,
      (i ∈ s.networkCursors ↔
        ∃ k, s.cursors[i]? = some k ∧ k.ownsNetwork = true ∧ k.closed = false) ∧
      (i ∈ s.memoryCursors ↔
        ∃ k, s.cursors[i]? = some k ∧ k.ownsNetwork = false ∧ k.closed = false)) ∧
    (∀ i, i ∈ c.registry ↔ ∃ s, c.statements[i]? = some s ∧ s.closed = false) := by
  intro start c
  have h : c.Exact := exact_run config server session
  refine ⟨?_, fun s hs => (h.statements s hs).closed, ?_, ?_, h.mem_registry⟩
  · rintro before rest rfl
    rw [show c = (start.run before).run rest from run_append start before rest]
    exact kept_of_steps (steps_run _ rest)
  · rintro before op answers rest rfl down
    have hb : (start.run before).Exact := exact_run config server before
    have hc : c = ((start.run before).after (op, answers)).run rest :=
      run_append start before ((op, answers) :: rest)
    exact h.down (hc ▸ isDown_of_steps (isDown_after hb down) (steps_run _ rest))
  · intro s hs i
    have hr := (h.statements s hs).mem_registry
    exact ⟨hr true i, hr false i⟩

/-- A service that answers every query with rows of one column. -/
def rowService : Answers where
  submitted := .ok
    ⟨some .success, some ⟨some .query, [], false⟩, some ⟨["n"], ["int32"]⟩, none, [], [], []⟩
  fetched := .ok ⟨.ofRefills [], .never, .first⟩
  cancelled := .ok ()
  ping := true
  closed := .ok ()

/-- A session whose connection is closed while a cursor is reading a row. -/
def closedWhileReading : List (Operation × Answers) :=
  [.createStatement, .executeQuery (.text 0 "SELECT n FROM t"), .generatedKeys 0,
    .startNext ⟨0, 0⟩, .close, .finishNext ⟨0, 0⟩].map (·, rowService)

theorem closedWhileReading_closes :
    let c := (create .standard none).run closedWhileReading
    Operation.close.takesDown ((create .standard none).run (closedWhileReading.take 4)) = true ∧
    c.statements.map (fun s => s.cursors.length) = [2] ∧
    ∀ s ∈ c.statements, s.closed = true ∧ ∀ k ∈ s.cursors, k.closed = true := by
  intro c
  have down : Operation.close.takesDown
      ((create .standard none).run (closedWhileReading.take 4)) = true := by decide +kernel
  obtain ⟨-, cursors, statements, -⟩ :=
    run_closes_and_registers .standard none closedWhileReading
  -- the close falls between the two halves of the cursor's `next`
  have closed := statements (closedWhileReading.take 4) .close rowService
    [(.finishNext ⟨0, 0⟩, rowService)] rfl down
  exact ⟨down, by decide +kernel, fun s hs => ⟨closed s hs, cursors s hs (closed s hs)⟩⟩

end QueryClient.Connection
