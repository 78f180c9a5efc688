import QueryClient.Proofs.Connection.Fetching

/-!
# Responses are used once

The rows of a response are fetched once at most, and a cursor is made of a response once at most.
What an execution leaves pending lasts until its result is asked for, until another execution of the
statement is recorded or until the statement is closed: `exists_execute_of_pending` and
`pending_of_unasked` say so of a whole session, one in either direction. Main statement:
`responses_used_once`.
-/

namespace QueryClient

namespace Connection

/-! ## What follows of the account -/

/-- An execution that leaves a response pending is an `execute` that has been answered with rows. -/
theorem records_eq_some_some {i : Nat} {c : Connection} {op : Operation} {answers : Answers}
    {r : QueryResponse} (h : records i c (op, answers) = some (some r)) :
    ∃ what, op = .execute what ∧ c.executes op = some i ∧ answers.submitted = .ok r ∧
      r.isQuery = true := by
  unfold records at h
  split at h
  · next executes =>
    cases answered : answers.submitted with
    | error e =>
      rw [answered] at h
      cases h
    | ok r' =>
      rw [answered] at h
      have left : recordOf op r' = some (some r) := h
      cases op with
      | execute what =>
        by_cases rows : r'.isQuery = true
        · rw [recordOf, if_pos rows] at left
          cases left
          exact ⟨what, rfl, executes, rfl, rows⟩
        · rw [recordOf, if_neg rows] at left
          cases left
      | executeQuery what =>
        rw [recordOf] at left
        split at left <;> cases left
      | executeUpdate what =>
        rw [recordOf] at left
        split at left <;> cases left
      | _ => cases left
  · cases h

/-- An `execute` that leaves a response pending answers that there are rows. -/
theorem result_execute {c : Connection} {what : Executable} {answers : Answers} {i : Nat}
    {r : QueryResponse} (executes : c.executes (.execute what) = some i)
    (answered : answers.submitted = .ok r) (rows : r.isQuery = true) :
    ((what.run c c.execute).settle answers).result = .ok true := by
  obtain ⟨-, submission, dialogue⟩ := (c.runs_execute what).submit_of_executes executes
  rw [dialogue]
  show (c.answerAny i answers.submitted).1 = .ok true
  rw [answered, answerAny]
  simp only [rows, if_true]

/-- A query that is answered with rows fetches them. -/
theorem fetches_executeQuery {c : Connection} {what : Executable} {answers : Answers} {i : Nat}
    {r : QueryResponse} {columns : List Column}
    (executes : c.executes (.executeQuery what) = some i) (answered : answers.submitted = .ok r)
    (rows : r.isQuery = true) (opening : r.opening = .ok (.fetch columns)) :
    c.fetches (.executeQuery what, answers) = [r] := by
  obtain ⟨-, submission, dialogue⟩ := (c.runs_executeQuery what).submit_of_executes executes
  show ((what.run c c.executeQuery).settle answers).calls.filterMap Call.fetched? = [r]
  rw [dialogue]
  show ((c.queryAnswered i answers.submitted).settle answers).calls.filterMap Call.fetched? = [r]
  rw [answered, queryAnswered, answerQuery]
  simp only [rows, opening, if_true]
  rfl

/-- Asking for a result of rows fetches them. -/
theorem fetches_resultCursor {c : Connection} {i : Nat} {r : QueryResponse}
    {columns : List Column} (isOpen : (c.statement i).closed = false)
    (pending : (c.statement i).pending = some r) (opening : r.opening = .ok (.fetch columns))
    (answers : Answers) : c.fetches (.resultCursor i, answers) = [r] := by
  show ((c.resultCursor i).settle answers).calls.filterMap Call.fetched? = [r]
  unfold resultCursor takeResult
  simp only [isOpen, pending, opening, Bool.false_eq_true, if_false]
  rfl

theorem Still.pending_eq_some {c d : Connection} {i : Nat} {r : QueryResponse} (h : Still c d)
    (pending : (d.statement i).pending = some r) : (c.statement i).pending = some r := by
  rcases Nat.lt_or_ge i c.statements.length with there | beyond
  · rcases (h.keeps i there).pending with same | ⟨none, -⟩
    · rw [← same, pending]
    · rw [none] at pending
      cases pending
  · rw [h.come i beyond] at pending
    cases pending

theorem Leaves.eq_or {c d : Connection} {i j : Nat} {p : Option QueryResponse} {r : QueryResponse}
    (h : Leaves i p c d) (pending : (d.statement j).pending = some r) :
    (i = j ∧ p = some r) ∨ (i ≠ j ∧ (c.statement j).pending = some r) := by
  by_cases hij : i = j
  · subst hij
    exact Or.inl ⟨rfl, h.own.symm.trans pending⟩
  · refine Or.inr ⟨hij, ?_⟩
    rw [← h.others j fun h => hij h.symm, pending]

namespace Account

variable {c d : Connection} {op : Operation} {answers : Answers}

/-- A response is pending because it has just been recorded, or because nothing has happened. -/
theorem pending (h : Account c op answers d) {i : Nat} {r : QueryResponse}
    (pending : (d.statement i).pending = some r) :
    records i c (op, answers) = some (some r) ∨
      records i c (op, answers) = none ∧ (c.statement i).pending = some r := by
  cases h with
  | quiet fetches records still unfed untaken =>
    exact Or.inr ⟨records i, still.pending_eq_some pending⟩
  | recorded j p fetches executes records isFed leaves unfed =>
    rw [records]
    rcases leaves.eq_or pending with ⟨hij, left⟩ | ⟨hij, was⟩
    · exact Or.inl (by rw [if_pos hij, left])
    · exact Or.inr ⟨if_neg hij, was⟩
  | queried what j r' asked executes submitted isQuery fetches records leaves received =>
    rw [records]
    rcases leaves.eq_or pending with ⟨-, left⟩ | ⟨hij, was⟩
    · cases left
    · exact Or.inr ⟨if_neg hij, was⟩
  | taken j r' asked was fetches isFed leaves handed =>
    subst asked
    rcases leaves.eq_or pending with ⟨-, left⟩ | ⟨-, was⟩
    · cases left
    · exact Or.inr ⟨records_of_recordOf (fun _ => rfl) c answers i, was⟩
  | received j r' asked was fetches leaves received =>
    subst asked
    rcases leaves.eq_or pending with ⟨-, left⟩ | ⟨-, was⟩
    · cases left
    · exact Or.inr ⟨records_of_recordOf (fun _ => rfl) c answers i, was⟩

theorem length_le (h : Account c op answers d) : c.statements.length ≤ d.statements.length := by
  cases h with
  | quiet fetches records still unfed untaken => exact still.length
  | recorded j p fetches executes records isFed leaves unfed =>
    exact Nat.le_of_eq leaves.length.symm
  | queried what j r asked executes submitted isQuery fetches records leaves received =>
    exact Nat.le_of_eq leaves.length.symm
  | taken j r asked was fetches isFed leaves handed => exact Nat.le_of_eq leaves.length.symm
  | received j r asked was fetches leaves received => exact Nat.le_of_eq leaves.length.symm

/-- What an execution records is pending afterwards. -/
theorem pending_of_records (h : Account c op answers d) {i : Nat} {p : Option QueryResponse}
    (recorded : records i c (op, answers) = some p) : (d.statement i).pending = p := by
  -- If anything is recorded it is of the statement that the account names.
  have own {j : Nat} {q : Option QueryResponse} (leaves : Leaves j q c d)
      (records : Connection.records i c (op, answers) = if j = i then some q else none) :
      (d.statement i).pending = p := by
    rw [records] at recorded
    by_cases hij : j = i
    · rw [if_pos hij] at recorded
      cases recorded
      exact hij ▸ leaves.own
    · rw [if_neg hij] at recorded
      cases recorded
  cases h with
  | quiet fetches records still unfed untaken =>
    rw [records] at recorded
    cases recorded
  | recorded j q fetches executes records isFed leaves unfed => exact own leaves (records i)
  | queried what j r asked executes submitted isQuery fetches records leaves received =>
    exact own leaves (records i)
  | taken j r asked was fetches isFed leaves handed =>
    rw [asked, records_of_recordOf (fun _ => rfl)] at recorded
    cases recorded
  | received j r asked was fetches leaves received =>
    rw [asked, records_of_recordOf (fun _ => rfl)] at recorded
    cases recorded

/-- As long as a statement is open, what is pending on it stays so, unless an execution is recorded
or the result is asked for. -/
theorem stays (h : Account c op answers d) {i : Nat} (hi : i < c.statements.length)
    (isOpen : (d.statement i).closed = false) (unrecorded : records i c (op, answers) = none)
    (unasked : op ≠ .resultCursor i) :
    (c.statement i).closed = false ∧ (d.statement i).pending = (c.statement i).pending := by
  have other {j : Nat} {p : Option QueryResponse} (leaves : Leaves j p c d) (hij : i ≠ j) :
      (c.statement i).closed = false ∧ (d.statement i).pending = (c.statement i).pending :=
    ⟨leaves.closed i ▸ isOpen, leaves.others i hij⟩
  cases h with
  | quiet fetches records still unfed untaken =>
    obtain ⟨closed, same | ⟨-, gone⟩⟩ := still.keeps i hi
    · refine ⟨Bool.eq_false_iff.mpr fun was => ?_, same⟩
      rw [closed was] at isOpen
      cases isOpen
    · rw [gone] at isOpen
      cases isOpen
  | recorded j p fetches executes records isFed leaves unfed =>
    refine other leaves ?_
    rintro rfl
    rw [records, if_pos rfl] at unrecorded
    cases unrecorded
  | queried what j r asked executes submitted isQuery fetches records leaves received =>
    refine other leaves ?_
    rintro rfl
    rw [records, if_pos rfl] at unrecorded
    cases unrecorded
  | taken j r asked was fetches isFed leaves handed =>
    exact other leaves fun same => unasked (same ▸ asked)
  | received j r asked was fetches leaves received =>
    exact other leaves fun same => unasked (same ▸ asked)

/-- What is fetched is the one response to an execution for rows, or a pending one. -/
theorem fetched (h : Account c op answers d) {r : QueryResponse}
    (fetched : r ∈ c.fetches (op, answers)) :
    c.fetches (op, answers) = [r] ∧ r.isExplainOnly = false ∧
      ((∃ what i, op = .executeQuery what ∧ c.executes op = some i ∧ answers.submitted = .ok r ∧
          r.isQuery = true) ∨
        ∃ i, op = .resultCursor i ∧ (c.statement i).pending = some r) := by
  cases h with
  | quiet fetches records still unfed untaken =>
    rw [fetches] at fetched
    cases fetched
  | recorded i p fetches executes records isFed leaves unfed =>
    rw [fetches] at fetched
    cases fetched
  | queried what i r' asked executes submitted isQuery fetches records leaves received =>
    rw [fetches, List.mem_singleton] at fetched
    subst fetched
    exact ⟨fetches, received.noPlan, Or.inl ⟨what, i, asked, executes, submitted, isQuery⟩⟩
  | taken i r' asked was fetches isFed leaves handed =>
    rw [fetches] at fetched
    cases fetched
  | received i r' asked was fetches leaves received =>
    rw [fetches, List.mem_singleton] at fetched
    subst fetched
    exact ⟨fetches, received.noPlan, Or.inr ⟨i, asked, was⟩⟩

/-- A pending response is gone once it has been fetched or a cursor has been made of it, and the
cursor is one over its columns. -/
theorem taken_of_used {i : Nat} (h : Account c (.resultCursor i) answers d)
    (used : c.fetches (.resultCursor i, answers) ≠ [] ∨
      c.handsOut (.resultCursor i, answers) ≠ none) :
    ∃ r, (c.statement i).pending = some r ∧ (d.statement i).pending = none ∧
      ∀ id, c.handsOut (.resultCursor i, answers) = some id →
        id.statement = i ∧ r.columns = .ok (d.cursor id).columns := by
  cases h with
  | quiet fetches records still unfed untaken =>
    rcases used with used | used
    · exact absurd fetches used
    · exact absurd (untaken i rfl) used
  | recorded j p fetches executes records isFed leaves unfed => cases executes
  | queried what j r asked executes submitted isQuery fetches records leaves received => cases asked
  | taken j r asked was fetches isFed leaves handed =>
    cases asked
    exact ⟨r, was, leaves.own, fun id hid => (handed id hid).2⟩
  | received j r asked was fetches leaves received =>
    cases asked
    refine ⟨r, was, leaves.own, fun id hid => ?_⟩
    cases answered : answers.fetched with
    | error e =>
      rw [(received.failed e answered).1] at hid
      cases hid
    | ok elements =>
      obtain ⟨own, columns, handed, hown, hcolumns, cursor, -⟩ := received.opened elements answered
      rw [hid] at handed
      cases handed
      exact ⟨hown, by rw [cursor, hcolumns]; rfl⟩

/-- Cursors that the service feeds come of fetched rows alone. -/
theorem received_or (h : Account c op answers d) :
    (∃ i r, c.fetches (op, answers) = [r] ∧
        Received i r answers.fetched (c.handsOut (op, answers)) c d) ∨
      c.fetches (op, answers) = [] ∧ d.isFed = c.isFed ∧
        ∀ id, c.handsOut (op, answers) = some id → d.isFed id = false := by
  cases h with
  | quiet fetches records still unfed untaken => exact Or.inr ⟨fetches, still.isFed, unfed⟩
  | recorded i p fetches executes records isFed leaves unfed =>
    exact Or.inr ⟨fetches, isFed, unfed⟩
  | queried what i r asked executes submitted isQuery fetches records leaves received =>
    exact Or.inl ⟨i, r, fetches, received⟩
  | taken i r asked was fetches isFed leaves handed =>
    exact Or.inr ⟨fetches, isFed, fun id hid => (handed id hid).1⟩
  | received i r asked was fetches leaves received => exact Or.inl ⟨i, r, fetches, received⟩

end Account

/-! ### Fetches that succeed -/

/-- A step fetches rows with success and hands out a cursor. -/
def Feeds (c : Connection) (step : Operation × Answers) (id : CursorId) : Prop :=
  c.fetches step ≠ [] ∧ (∃ elements, step.2.fetched = .ok elements) ∧ c.handsOut step = some id

namespace Account

variable {c d : Connection} {op : Operation} {answers : Answers} {id : CursorId}

/-- A fetch that succeeds gives a cursor over its response, which was not there before. -/
theorem feeds (h : Account c op answers d) {r : QueryResponse} {elements : ElementStream}
    (fetched : r ∈ c.fetches (op, answers)) (answered : answers.fetched = .ok elements) :
    ∃ id columns, c.Feeds (op, answers) id ∧ r.columns = .ok columns ∧
      d.cursor id =
        Cursor.create columns (.stream elements) (c.statement id.statement).maxRows ∧
      c.isFed id = false ∧ ∀ other, d.isFed other = true ↔ c.isFed other = true ∨ other = id := by
  rcases h.received_or with ⟨i, r', fetches, received⟩ | ⟨fetches, -⟩
  · obtain ⟨id, columns, handed, rfl, hcolumns, cursor, new, gained⟩ :=
      received.opened elements answered
    rw [fetches, List.mem_singleton] at fetched
    subst fetched
    refine ⟨id, columns, ⟨?_, ⟨elements, answered⟩, handed⟩, hcolumns, cursor, new, gained⟩
    rw [fetches]
    exact List.cons_ne_nil _ _
  · rw [fetches] at fetched
    cases fetched

/-- What a step feeds is new, and it is over the rows that have been fetched. -/
theorem of_feeds (h : Account c op answers d) (feeds : c.Feeds (op, answers) id) :
    c.isFed id = false ∧ ∃ r columns elements, c.fetches (op, answers) = [r] ∧
      answers.fetched = .ok elements ∧ r.columns = .ok columns ∧ d.cursor id =
        Cursor.create columns (.stream elements) (c.statement id.statement).maxRows := by
  obtain ⟨fetches, ⟨elements, answered⟩, handed⟩ := feeds
  obtain ⟨r, fetched⟩ := List.exists_mem_of_ne_nil _ fetches
  obtain ⟨id', columns, feeds, hcolumns, cursor, new, -⟩ := h.feeds fetched answered
  have same := handed.symm.trans feeds.2.2
  cases same
  exact ⟨new, r, columns, elements, (h.fetched fetched).1, answered, hcolumns, cursor⟩

/-- The service feeds what it fed before, and what the step has fetched. -/
theorem isFed_iff (h : Account c op answers d) :
    d.isFed id = true ↔ c.isFed id = true ∨ c.Feeds (op, answers) id := by
  rcases h.received_or with ⟨i, r, fetches, received⟩ | ⟨fetches, isFed, -⟩
  · have fetched : r ∈ c.fetches (op, answers) := fetches ▸ List.mem_singleton_self r
    cases answered : answers.fetched with
    | error e =>
      rw [(received.failed e answered).2]
      refine (or_iff_left ?_).symm
      rintro ⟨-, ⟨elements, answered'⟩, -⟩
      rw [answered] at answered'
      cases answered'
    | ok elements =>
      obtain ⟨id', columns, feeds, -, -, -, gained⟩ := h.feeds fetched answered
      rw [gained]
      refine or_congr_right ⟨?_, ?_⟩
      · rintro rfl
        exact feeds
      · intro feeds'
        exact Option.some.inj (feeds'.2.2.symm.trans feeds.2.2)
  · rw [isFed]
    exact (or_iff_left fun feeds => feeds.1 fetches).symm

/-- A cursor that is handed out and fed by the service is over the rows that the step fetched. -/
theorem feeds_of_handsOut (h : Account c op answers d)
    (handed : c.handsOut (op, answers) = some id) (fed : d.isFed id = true) :
    c.Feeds (op, answers) id := by
  rcases h.received_or with ⟨i, r, fetches, received⟩ | ⟨-, -, unfed⟩
  · refine ⟨fetches ▸ List.cons_ne_nil _ _, ?_, handed⟩
    cases answered : answers.fetched with
    | error e =>
      rw [(received.failed e answered).1] at handed
      cases handed
    | ok elements => exact ⟨elements, rfl⟩
  · rw [unfed id handed] at fed
    cases fed

end Account

/-! ## Sessions -/

section Sessions

variable (start : Connection) (session : List (Operation × Answers))

/-- The connection that step `n` of a session is taken on. -/
def before (n : Nat) : Connection := start.run (session.take n)

/-- The last of the first `n` steps of a session that has recorded an execution of statement `i`. -/
def lastRecord (i : Nat) : Nat → Option Nat
  | 0 => none
  | n + 1 =>
    if session[n]?.any fun step => (records i (start.before session n) step).isSome then some n
    else lastRecord i n

/-- The step whose response step `n` makes a cursor of: the last one that is recorded of the
statement if the result is asked for, and the step itself otherwise. -/
def source (n : Nat) : Operation → Option Nat
  | .resultCursor i => start.lastRecord session i n
  | _ => some n

/-- In step `m` statement `i` is executed by `op`, and answered with the rows of `r`. -/
structure Provides (m i : Nat) (op : Operation) (r : QueryResponse) : Prop where
  step : ∃ answers, session[m]? = some (op, answers) ∧ answers.submitted = .ok r ∧
    ∃ submission, .submit submission ∈ ((start.before session m).perform answers op).1
  executes : (start.before session m).executes op = some i
  isQuery : r.isQuery = true

end Sessions

section Sessions

variable {start : Connection} {session : List (Operation × Answers)} {n : Nat}

theorem before_zero : start.before session 0 = start := rfl

theorem before_succ {step : Operation × Answers} (h : session[n]? = some step) :
    start.before session (n + 1) = (start.before session n).after step := by
  rw [before, List.take_add_one, h, run_append]
  rfl

theorem before_succ_of_none (h : session[n]? = none) :
    start.before session (n + 1) = start.before session n := by
  rw [before, List.take_add_one, h]
  exact congrArg start.run (List.append_nil _)

/-- Every step of a session has its account. -/
theorem account_before {op : Operation} {answers : Answers}
    (h : session[n]? = some (op, answers)) :
    Account (start.before session n) op answers (start.before session (n + 1)) := by
  rw [before_succ h]
  exact account _ op answers

/-! ### The last record -/

theorem lastRecord_succ_of_none (h : session[n]? = none) (i : Nat) :
    start.lastRecord session i (n + 1) = start.lastRecord session i n := by
  rw [lastRecord, h]
  rfl

theorem lastRecord_succ {step : Operation × Answers} (h : session[n]? = some step) (i : Nat) :
    start.lastRecord session i (n + 1) =
      if (records i (start.before session n) step).isSome then some n
      else start.lastRecord session i n := by
  rw [lastRecord, h]
  rfl

/-! ### Pending responses -/

/-- The response `r` to step `m` has been pending on statement `i` since. -/
structure Pending (start : Connection) (session : List (Operation × Answers)) (i m n : Nat)
    (r : QueryResponse) : Prop where
  lt : m < n
  lastRecord : start.lastRecord session i n = some m
  provides : ∃ what, start.Provides session m i (.execute what) r
  since : ∀ k, m < k → k ≤ n → ((start.before session k).statement i).pending = some r

theorem Pending.succ {i m : Nat} {r : QueryResponse} (h : Pending start session i m n r)
    (lastRecord : start.lastRecord session i (n + 1) = start.lastRecord session i n)
    (pending : ((start.before session (n + 1)).statement i).pending = some r) :
    Pending start session i m (n + 1) r where
  lt := Nat.lt_succ_of_lt h.lt
  lastRecord := lastRecord.trans h.lastRecord
  provides := h.provides
  since := by
    intro k hm hk
    rcases Nat.le_or_eq_of_le_succ hk with hk | rfl
    · exact h.since k hm hk
    · exact pending

theorem provides_of_executes {op : Operation} {answers : Answers} {i : Nat} {r : QueryResponse}
    (hstep : session[n]? = some (op, answers))
    (executes : (start.before session n).executes op = some i)
    (answered : answers.submitted = .ok r) (isQuery : r.isQuery = true) :
    start.Provides session n i op r := by
  refine ⟨⟨answers, hstep, answered, ?_⟩, executes, isQuery⟩
  obtain ⟨submission, submits, -⟩ := Option.bind_eq_some_iff.mp executes
  exact ⟨submission, submission_mem_perform.mpr submits⟩

/-- What is pending is the response to the last execution that is recorded, and has been pending
since. -/
theorem exists_execute_of_pending (fresh : ∀ i, (start.statement i).pending = none) {i : Nat}
    {r : QueryResponse} (pending : ((start.before session n).statement i).pending = some r) :
    ∃ m, Pending start session i m n r := by
  induction n with
  | zero =>
    rw [before_zero, fresh] at pending
    cases pending
  | succ n ih =>
    cases hstep : session[n]? with
    | none =>
      have was := pending
      rw [before_succ_of_none hstep] at was
      obtain ⟨m, h⟩ := ih was
      exact ⟨m, h.succ (lastRecord_succ_of_none hstep i) pending⟩
    | some step =>
      obtain ⟨op, answers⟩ := step
      rcases (account_before hstep).pending pending with now | ⟨unrecorded, was⟩
      · obtain ⟨what, rfl, executes, answered, isQuery⟩ := records_eq_some_some now
        refine ⟨n, Nat.lt_succ_self n, ?_, ?_, ?_⟩
        · rw [lastRecord_succ hstep, now]
          rfl
        · exact ⟨what, provides_of_executes hstep executes answered isQuery⟩
        · intro k hn hk
          obtain rfl := Nat.le_antisymm hk hn
          exact pending
      · obtain ⟨m, h⟩ := ih was
        refine ⟨m, h.succ ?_ pending⟩
        rw [lastRecord_succ hstep, unrecorded]
        rfl

/-- What has told that there are rows leaves its response pending, until it is asked for, another
execution of the statement is recorded or the statement is closed. -/
theorem pending_of_unasked {m i : Nat} {what : Executable} {r : QueryResponse}
    (provides : start.Provides session m i (.execute what) r) (hlt : m < n)
    (last : start.lastRecord session i n = some m)
    (unasked : ∀ k answers, m < k → k < n → session[k]? ≠ some (.resultCursor i, answers)) :
    i < (start.before session n).statements.length ∧
      (((start.before session n).statement i).closed = false →
        ((start.before session n).statement i).pending = some r) := by
  induction n with
  | zero => exact absurd hlt (Nat.not_lt_zero m)
  | succ n ih =>
    rcases Nat.lt_succ_iff_lt_or_eq.mp hlt with hlt | rfl
    · have earlier : ∀ k answers, m < k → k < n →
          session[k]? ≠ some (.resultCursor i, answers) :=
        fun k answers hm hn => unasked k answers hm (Nat.lt_succ_of_lt hn)
      cases hstep : session[n]? with
      | none =>
        rw [lastRecord_succ_of_none hstep] at last
        rw [before_succ_of_none hstep]
        exact ih hlt last earlier
      | some step =>
        obtain ⟨op, answers⟩ := step
        have h : Account _ op answers (start.before session (n + 1)) := account_before hstep
        rw [lastRecord_succ hstep] at last
        split at last
        · exact absurd (Option.some.inj last) (Nat.ne_of_gt hlt)
        · next unrecorded =>
          obtain ⟨there, pending⟩ := ih hlt last earlier
          refine ⟨Nat.lt_of_lt_of_le there h.length_le, fun isOpen => ?_⟩
          obtain ⟨wasOpen, same⟩ := h.stays there isOpen
            (Option.not_isSome_iff_eq_none.mp unrecorded)
            fun asked => unasked n answers hlt (Nat.lt_succ_self n) (asked ▸ hstep)
          rw [same, pending wasOpen]
    · obtain ⟨answers, hstep, answered, -⟩ := provides.step
      have h : Account _ _ answers (start.before session (m + 1)) := account_before hstep
      have there := ((runs_execute _ what).submit_of_executes provides.executes).1
      refine ⟨Nat.lt_of_lt_of_le there h.length_le, fun _ => h.pending_of_records ?_⟩
      rw [records_of_answered provides.executes answered (congrArg some (if_pos provides.isQuery)),
        if_pos rfl]

/-! ### Taking what is pending -/

/-- Step `n` asks for the result of statement `i`, and fetches something or hands out a cursor. -/
def Uses (start : Connection) (session : List (Operation × Answers)) (n i : Nat) : Prop :=
  ∃ answers, session[n]? = some (.resultCursor i, answers) ∧
    ((start.before session n).fetches (.resultCursor i, answers) ≠ [] ∨
      (start.before session n).handsOut (.resultCursor i, answers) ≠ none)

/-- The result of one execution is used once. -/
theorem not_uses_of_lt (fresh : ∀ i, (start.statement i).pending = none) {n' i : Nat}
    (hlt : n < n') (h : Uses start session n i)
    (same : start.lastRecord session i n = start.lastRecord session i n') :
    ¬ Uses start session n' i := by
  rintro ⟨answers', hstep', used'⟩
  obtain ⟨answers, hstep, used⟩ := h
  obtain ⟨r, was, gone, -⟩ := (account_before hstep).taken_of_used used
  obtain ⟨r', was', -⟩ := (account_before hstep').taken_of_used used'
  obtain ⟨m, first⟩ := exists_execute_of_pending fresh was
  obtain ⟨m', second⟩ := exists_execute_of_pending fresh was'
  -- Both take what one and the same step has left, so it would still be there in between.
  have hm : m = m' := by
    rw [first.lastRecord, second.lastRecord] at same
    exact Option.some.inj same
  subst hm
  have still := second.since (n + 1) (Nat.lt_succ_of_lt first.lt) hlt
  rw [gone] at still
  cases still

theorem eq_of_uses (fresh : ∀ i, (start.statement i).pending = none) {n' i : Nat}
    (h : Uses start session n i) (h' : Uses start session n' i)
    (same : start.lastRecord session i n = start.lastRecord session i n') : n = n' := by
  rcases Nat.lt_trichotomy n n' with hlt | rfl | hlt
  · exact absurd h' (not_uses_of_lt fresh hlt h same)
  · rfl
  · exact absurd h (not_uses_of_lt fresh hlt h' same.symm)

/-! ### Where fetches come from -/

/-- What is fetched is the response to the step that it comes from. -/
theorem provides_of_fetched (fresh : ∀ i, (start.statement i).pending = none) {op : Operation}
    {answers : Answers} {r : QueryResponse} (hstep : session[n]? = some (op, answers))
    (fetched : r ∈ (start.before session n).fetches (op, answers)) :
    ∃ m i what, start.source session n op = some m ∧
      ((op = .executeQuery what ∧ m = n ∧ start.Provides session m i (.executeQuery what) r) ∨
        (op = .resultCursor i ∧ m < n ∧ start.Provides session m i (.execute what) r)) := by
  obtain ⟨-, -, ⟨what, i, rfl, executes, answered, isQuery⟩ | ⟨i, rfl, was⟩⟩ :=
    (account_before hstep).fetched fetched
  · exact ⟨n, i, what, rfl, Or.inl ⟨rfl, rfl, provides_of_executes hstep executes answered isQuery⟩⟩
  · obtain ⟨m, pending⟩ := exists_execute_of_pending fresh was
    obtain ⟨what, provides⟩ := pending.provides
    exact ⟨m, i, what, pending.lastRecord, Or.inr ⟨rfl, pending.lt, provides⟩⟩

theorem Provides.operation {m i i' : Nat} {op op' : Operation} {r r' : QueryResponse}
    (h : start.Provides session m i op r) (h' : start.Provides session m i' op' r') :
    op = op' ∧ i = i' := by
  obtain ⟨answers, hstep, -⟩ := h.step
  obtain ⟨answers', hstep', -⟩ := h'.step
  have same := hstep.symm.trans hstep'
  cases same
  exact ⟨rfl, Option.some.inj (h.executes.symm.trans h'.executes)⟩

/-- The response to one step is fetched once. -/
theorem eq_of_source_eq (fresh : ∀ i, (start.statement i).pending = none) {n' : Nat}
    {op op' : Operation} {answers answers' : Answers} (hstep : session[n]? = some (op, answers))
    (hstep' : session[n']? = some (op', answers'))
    (fetched : (start.before session n).fetches (op, answers) ≠ [])
    (fetched' : (start.before session n').fetches (op', answers') ≠ [])
    (same : start.source session n op = start.source session n' op') : n = n' := by
  obtain ⟨r, hr⟩ := List.exists_mem_of_ne_nil _ fetched
  obtain ⟨r', hr'⟩ := List.exists_mem_of_ne_nil _ fetched'
  obtain ⟨m, i, what, hm, h⟩ := provides_of_fetched fresh hstep hr
  obtain ⟨m', i', what', hm', h'⟩ := provides_of_fetched fresh hstep' hr'
  obtain rfl : m = m' := Option.some.inj (hm.symm.trans (same.trans hm'))
  -- A step does one thing, so both fetch at once or both fetch what was pending.
  rcases h with ⟨rfl, rfl, provides⟩ | ⟨rfl, -, provides⟩ <;>
    rcases h' with ⟨rfl, rfl, provides'⟩ | ⟨rfl, -, provides'⟩
  · rfl
  · cases (provides.operation provides').1
  · cases (provides.operation provides').1
  · obtain rfl := (provides.operation provides').2
    exact eq_of_uses fresh ⟨answers, hstep, Or.inl fetched⟩ ⟨answers', hstep', Or.inl fetched'⟩ same

/-! ### Cursors over fetched rows -/

/-- The service feeds exactly the cursors that the steps before have fetched the rows of. -/
theorem isFed_before_iff (fresh : ∀ id, start.isFed id = false) {id : CursorId} :
    (start.before session n).isFed id = true ↔
      ∃ m step, m < n ∧ session[m]? = some step ∧ (start.before session m).Feeds step id := by
  induction n with
  | zero =>
    rw [before_zero, fresh]
    exact iff_of_false nofun (by rintro ⟨m, step, hm, -⟩; exact absurd hm (Nat.not_lt_zero m))
  | succ n ih =>
    have earlier (m : Nat) (hm : m < n) : m < n + 1 := Nat.lt_succ_of_lt hm
    cases hstep : session[n]? with
    | none =>
      rw [before_succ_of_none hstep, ih]
      constructor
      · rintro ⟨m, step, hm, there⟩
        exact ⟨m, step, earlier m hm, there⟩
      · rintro ⟨m, step, hm, there, feeds⟩
        rcases Nat.lt_succ_iff_lt_or_eq.mp hm with hm | rfl
        · exact ⟨m, step, hm, there, feeds⟩
        · rw [hstep] at there
          cases there
    | some step =>
      rw [(account_before hstep).isFed_iff, ih]
      constructor
      · rintro (⟨m, step', hm, there⟩ | feeds)
        · exact ⟨m, step', earlier m hm, there⟩
        · exact ⟨n, step, Nat.lt_succ_self n, hstep, feeds⟩
      · rintro ⟨m, step', hm, there, feeds⟩
        rcases Nat.lt_succ_iff_lt_or_eq.mp hm with hm | rfl
        · exact Or.inl ⟨m, step', hm, there, feeds⟩
        · cases hstep.symm.trans there
          exact Or.inr feeds

/-- A cursor is fed by one fetch. -/
theorem not_feeds_of_lt (fresh : ∀ id, start.isFed id = false) {n' : Nat} {id : CursorId}
    {step step' : Operation × Answers} (hlt : n < n') (hstep : session[n]? = some step)
    (hstep' : session[n']? = some step') (feeds : (start.before session n).Feeds step id) :
    ¬ (start.before session n').Feeds step' id := by
  intro feeds'
  have new := ((account_before hstep').of_feeds feeds').1
  rw [(isFed_before_iff fresh).mpr ⟨n, step, hlt, hstep, feeds⟩] at new
  cases new

theorem existsUnique_feeds (fresh : ∀ id, start.isFed id = false) {id : CursorId}
    (fed : (start.before session n).isFed id = true) :
    ∃! m, m < n ∧ ∃ step, session[m]? = some step ∧ (start.before session m).Feeds step id := by
  obtain ⟨m, step, hm, hstep, feeds⟩ := (isFed_before_iff fresh).mp fed
  refine ⟨m, ⟨hm, step, hstep, feeds⟩, ?_⟩
  rintro m' ⟨-, step', hstep', feeds'⟩
  rcases Nat.lt_trichotomy m' m with hlt | rfl | hlt
  · exact absurd feeds (not_feeds_of_lt fresh hlt hstep' hstep feeds')
  · rfl
  · exact absurd feeds' (not_feeds_of_lt fresh hlt hstep hstep' feeds)

end Sessions

/-! ## Whole sessions -/

theorem pending_create (config : ClientConfig) (server : Option String) (i : Nat) :
    ((create config server).statement i).pending = none := rfl

theorem isFed_create (config : ClientConfig) (server : Option String) (id : CursorId) :
    (create config server).isFed id = false :=
  isFed_of_length_le (Nat.zero_le _)

/-- How the executions, the fetches and the cursors of a session go together. -/
structure UsedOnce (start : Connection) (session : List (Operation × Answers)) : Prop where
  /-- What a step fetches is one response and no plan. It is that of the execution of a query, which
  is the same step, or of the last recorded execution of a statement whose result is asked for. -/
  fetched : ∀ {n op answers r}, session[n]? = some (op, answers) →
    r ∈ (start.before session n).fetches (op, answers) →
      (start.before session n).fetches (op, answers) = [r] ∧ r.isExplainOnly = false ∧
        ∃ m i what, start.source session n op = some m ∧
          ((op = .executeQuery what ∧ m = n ∧
              start.Provides session m i (.executeQuery what) r) ∨
            (op = .resultCursor i ∧ m < n ∧ start.Provides session m i (.execute what) r))
  /-- No two steps fetch the response to one execution. -/
  once : ∀ {n n' op op' answers answers'}, session[n]? = some (op, answers) →
    session[n']? = some (op', answers') →
      (start.before session n).fetches (op, answers) ≠ [] →
        (start.before session n').fetches (op', answers') ≠ [] →
          start.source session n op = start.source session n' op' → n = n'
  /-- A query that is answered with rows fetches them. -/
  query : ∀ {n what i answers r columns}, session[n]? = some (.executeQuery what, answers) →
    start.Provides session n i (.executeQuery what) r → r.isExplainOnly = false →
      r.columns = .ok columns →
        r ∈ (start.before session n).fetches (.executeQuery what, answers)
  /-- The rows of the last recorded execution are fetched when its result is asked for first, if the
  statement is open then. -/
  result : ∀ {m n what i answers r columns}, start.Provides session m i (.execute what) r → m < n →
    start.lastRecord session i n = some m →
      (∀ k given, m < k → k < n → session[k]? ≠ some (.resultCursor i, given)) →
        ((start.before session n).statement i).closed = false → r.isExplainOnly = false →
          r.columns = .ok columns → session[n]? = some (.resultCursor i, answers) →
            r ∈ (start.before session n).fetches (.resultCursor i, answers)
  /-- A fetch that succeeds gives a cursor, which the service feeds. -/
  gives : ∀ {n op answers r elements}, session[n]? = some (op, answers) →
    r ∈ (start.before session n).fetches (op, answers) → answers.fetched = .ok elements →
      ∃ id, (start.before session n).Feeds (op, answers) id ∧
        (start.before session (n + 1)).isFed id = true
  /-- A cursor that is handed out and that the service feeds is a new one over the rows that have
  just been fetched. -/
  handed : ∀ {n op answers id}, session[n]? = some (op, answers) →
    (start.before session n).handsOut (op, answers) = some id →
      (start.before session (n + 1)).isFed id = true →
        (start.before session n).isFed id = false ∧ ∃ r columns elements,
          (start.before session n).fetches (op, answers) = [r] ∧
            answers.fetched = .ok elements ∧ r.columns = .ok columns ∧
              (start.before session (n + 1)).cursor id = Cursor.create columns (.stream elements)
                ((start.before session n).statement id.statement).maxRows
  /-- Each cursor that the service feeds has come of exactly one fetch. -/
  fed : ∀ {n id}, (start.before session n).isFed id = true →
    ∃! m, m < n ∧ ∃ step, session[m]? = some step ∧ (start.before session m).Feeds step id
  /-- The cursor that is got by asking for a result is over the last recorded execution, which has
  told that there are rows. -/
  asked : ∀ {n i answers id}, session[n]? = some (.resultCursor i, answers) →
    (start.before session n).handsOut (.resultCursor i, answers) = some id →
      id.statement = i ∧ ∃ m what given r, start.lastRecord session i n = some m ∧
        session[m]? = some (.execute what, given) ∧
          (start.before session m).executes (.execute what) = some i ∧ given.submitted = .ok r ∧
            ((what.run (start.before session m) (start.before session m).execute).settle
              given).result = .ok true ∧
            r.columns = .ok ((start.before session (n + 1)).cursor id).columns
  /-- Asking for the result of one execution gives a cursor once. -/
  askedOnce : ∀ {n n' i answers answers'}, session[n]? = some (.resultCursor i, answers) →
    session[n']? = some (.resultCursor i, answers') →
      (start.before session n).handsOut (.resultCursor i, answers) ≠ none →
        (start.before session n').handsOut (.resultCursor i, answers') ≠ none →
          start.lastRecord session i n = start.lastRecord session i n' → n = n'

/-- **Responses are used once.** -/
theorem responses_used_once (config : ClientConfig) (server : Option String)
    (session : List (Operation × Answers)) : UsedOnce (create config server) session := by
  have pending := pending_create config server
  have unfed := isFed_create config server
  refine ⟨?_, ?_, ?_, ?_, ?_, ?_, ?_, ?_, ?_⟩
  · intro n op answers r hstep fetched
    obtain ⟨single, noPlan, -⟩ := (account_before hstep).fetched fetched
    exact ⟨single, noPlan, provides_of_fetched pending hstep fetched⟩
  · intro n n' op op' answers answers' hstep hstep' fetched fetched' same
    exact eq_of_source_eq pending hstep hstep' fetched fetched' same
  · intro n what i answers r columns hstep provides noPlan hcolumns
    obtain ⟨answers', hstep', answered, -⟩ := provides.step
    cases hstep.symm.trans hstep'
    rw [fetches_executeQuery provides.executes answered provides.isQuery
      (QueryResponse.opening_eq_fetch_iff.mpr ⟨noPlan, hcolumns⟩)]
    exact List.mem_singleton_self r
  · intro m n what i answers r columns provides hlt last unasked isOpen noPlan hcolumns _
    have left := (pending_of_unasked provides hlt last unasked).2 isOpen
    rw [fetches_resultCursor isOpen left
      (QueryResponse.opening_eq_fetch_iff.mpr ⟨noPlan, hcolumns⟩)]
    exact List.mem_singleton_self r
  · intro n op answers r elements hstep fetched answered
    obtain ⟨id, columns, feeds, -⟩ := (account_before hstep).feeds fetched answered
    exact ⟨id, feeds, (account_before hstep).isFed_iff.mpr (Or.inr feeds)⟩
  · intro n op answers id hstep handed fed
    exact (account_before hstep).of_feeds ((account_before hstep).feeds_of_handsOut handed fed)
  · intro n id fed
    exact existsUnique_feeds unfed fed
  · intro n i answers id hstep handed
    have used : ((create config server).before session n).handsOut (.resultCursor i, answers) ≠
      none := handed ▸ Option.some_ne_none id
    obtain ⟨r, was, -, gives⟩ := (account_before hstep).taken_of_used (Or.inr used)
    obtain ⟨own, columns⟩ := gives id handed
    obtain ⟨m, left⟩ := exists_execute_of_pending pending was
    obtain ⟨what, ⟨given, hm, answered, -⟩, executes, rows⟩ := left.provides
    exact ⟨own, m, what, given, r, left.lastRecord, hm, executes, answered,
      result_execute executes answered rows, columns⟩
  · intro n n' i answers answers' hstep hstep' handed handed' same
    exact eq_of_uses pending ⟨answers, hstep, Or.inr handed⟩ ⟨answers', hstep', Or.inr handed'⟩ same

/-- A session that asks twice for the result of an execution, and twice for that of another one,
whose rows cannot be fetched. -/
def askedTwice : List (Operation × Answers) :=
  [(.createStatement, rowService), (.execute (.text 0 "A"), rowService),
    (.resultCursor 0, rowService), (.resultCursor 0, rowService),
    (.executeQuery (.text 0 "B"), rowService), (.execute (.text 0 "C"), rowService),
    (.execute (.text 0 "D"), rowService),
    (.resultCursor 0, { rowService with fetched := .error .invalidStatementCategory }),
    (.resultCursor 0, rowService)]

theorem askedTwice_used_once :
    let start := create .standard none
    let c := start.before askedTwice
    (List.range 9).filter (fun n => askedTwice[n]?.any fun step => !((c n).fetches step).isEmpty) =
        [2, 4, 7] ∧
      (List.range 9).map (fun n => askedTwice[n]?.bind fun step => (c n).handsOut step) =
        [none, none, some ⟨0, 0⟩, none, some ⟨0, 1⟩, none, none, none, none] ∧
      start.source askedTwice 7 (.resultCursor 0) = some 6 ∧
      (∃! m, m < 9 ∧ ∃ step, askedTwice[m]? = some step ∧ (c m).Feeds step ⟨0, 1⟩) := by
  refine ⟨by decide +kernel, by decide +kernel, by decide +kernel, ?_⟩
  have fed : ((create .standard none).before askedTwice 9).isFed ⟨0, 1⟩ = true := by
    decide +kernel
  exact (responses_used_once .standard none askedTwice).fed fed

end Connection

end QueryClient
