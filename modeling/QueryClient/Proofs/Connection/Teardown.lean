import QueryClient.Proofs.Connection.Registry

/-!
# Closing the service

The service is closed once at most, after everything that belongs to the connection, and from then
on no one calls it. A `Moment` is a call of the service together with the connection as it stands
when the call is made; `Connection.history` lists the moments of a session. Main statement:
`history_ends_with_close`.
-/

namespace QueryClient

/-- A call of the service, and the connection as it stands when the call is made. -/
structure Moment where
  call : Call
  connection : Connection

/-- Whether a call closes the service. -/
def Call.closesService : Call → Bool
  | .close => true
  | _ => false

/-- Whether the service is being closed. -/
def Moment.isClose (m : Moment) : Bool := m.call.closesService

/-! ## The moments of a dialogue -/

namespace Dialogue

variable {α : Type} (answers : Answers)

/-- The moments of a dialogue that no one interferes with. -/
def moments : Dialogue α → List Moment
  | .done .. => []
  | .submit submission c next => ⟨.submit submission, c⟩ :: moments (next c answers.submitted)
  | .fetch response c next => ⟨.fetch response, c⟩ :: moments (next c answers.fetched)
  | .cancel token c next => ⟨.cancel token, c⟩ :: moments (next c answers.cancelled)
  | .ping timeout c next => ⟨.ping timeout, c⟩ :: moments (next c answers.ping)
  | .close c next => ⟨.close, c⟩ :: moments (next c answers.closed)

theorem map_call_moments (d : Dialogue α) :
    (d.moments answers).map Moment.call = (d.settle answers).calls := by
  induction d with
  | done result c => rfl
  | submit submission c next ih => simp [moments, settle, ih]
  | fetch response c next ih => simp [moments, settle, ih]
  | cancel token c next ih => simp [moments, settle, ih]
  | ping timeout c next ih => simp [moments, settle, ih]
  | close c next ih => simp [moments, settle, ih]

/-- What is executed does not matter to the moments of every execution. -/
theorem moments_executable {p : List Moment → Prop} (what : Executable) (c : Connection)
    {f : Nat → String → List Param → Dialogue α}
    (h : ∀ i sql params, p ((f i sql params).moments answers)) :
    p ((what.run c f).moments answers) := by
  cases what with
  | text i sql => exact h i sql []
  | prepared p => exact h _ _ _

end Dialogue

namespace Connection

/-! ## The moments of a session -/

/-- The moments of one operation. -/
def moments (c : Connection) (answers : Answers) : Operation → List Moment
  | .prepare sql => (c.prepare sql).moments answers
  | .isValid timeout => (c.isValid timeout).moments answers
  | .close => (teardown c.close).moments answers
  | .runDeferred => (teardown c.runDeferred).moments answers
  | .drop => (teardown c.drop).moments answers
  | .executeQuery what => (what.run c c.executeQuery).moments answers
  | .executeUpdate what => (what.run c c.executeUpdate).moments answers
  | .execute what => (what.run c c.execute).moments answers
  | .resultCursor i => (c.resultCursor i).moments answers
  | .cancel i => (c.cancelRunning i).moments answers
  | .cancelIfCurrent i token => (c.cancelIfCurrent i token).moments answers
  | _ => []

/-- The moments of an operation are those of the calls that it makes. -/
theorem map_call_moments (c : Connection) (answers : Answers) (op : Operation) :
    (c.moments answers op).map Moment.call = (c.perform answers op).1 := by
  cases op <;> first | rfl | exact Dialogue.map_call_moments answers _

/-- The moments of a session, one operation after the other. -/
def history (c : Connection) : List (Operation × Answers) → List Moment
  | [] => []
  | step :: session => c.moments step.2 step.1 ++ (c.after step).history session

/-- The calls of the service in a session, one operation after the other. -/
def calls (c : Connection) : List (Operation × Answers) → List Call
  | [] => []
  | step :: session => (c.perform step.2 step.1).1 ++ (c.after step).calls session

theorem map_call_history (c : Connection) (session : List (Operation × Answers)) :
    (c.history session).map Moment.call = c.calls session := by
  induction session generalizing c with
  | nil => rfl
  | cons step session ih => rw [history, calls, List.map_append, map_call_moments, ih]

/-! ## Operations that leave the service open -/

section

variable (answers : Answers)

theorem not_isClose_executeQuery (c : Connection) (i : Nat) (sql : String) (params : List Param) :
    ∀ m ∈ (c.executeQuery i sql params).moments answers, m.isClose = false := by
  unfold executeQuery
  split
  · simp [Dialogue.moments]
  · intro m hm
    simp only [Dialogue.moments, List.mem_cons] at hm
    rcases hm with rfl | hm
    · rfl
    · split at hm
      · simp [Dialogue.moments] at hm
      · simp only [Dialogue.moments, Dialogue.ended, List.mem_cons, List.not_mem_nil,
          or_false] at hm
        rw [hm]
        rfl

theorem not_isClose_executeUpdate (c : Connection) (i : Nat) (sql : String) (params : List Param) :
    ∀ m ∈ (c.executeUpdate i sql params).moments answers, m.isClose = false := by
  unfold executeUpdate
  split <;> simp [Dialogue.moments, Dialogue.ended, Moment.isClose, Call.closesService]

theorem not_isClose_execute (c : Connection) (i : Nat) (sql : String) (params : List Param) :
    ∀ m ∈ (c.execute i sql params).moments answers, m.isClose = false := by
  unfold execute
  split <;> simp [Dialogue.moments, Dialogue.ended, Moment.isClose, Call.closesService]

theorem not_isClose_prepare (c : Connection) (sql : String) :
    ∀ m ∈ (c.prepare sql).moments answers, m.isClose = false := by
  unfold prepare
  split
  · simp [Dialogue.moments]
  · split <;> simp [Dialogue.moments, Dialogue.ended, Moment.isClose, Call.closesService]

theorem not_isClose_resultCursor (c : Connection) (i : Nat) :
    ∀ m ∈ (c.resultCursor i).moments answers, m.isClose = false := by
  unfold resultCursor
  split <;> simp [Dialogue.moments, Dialogue.ended, Moment.isClose, Call.closesService]

theorem not_isClose_cancelRunning (c : Connection) (i : Nat) :
    ∀ m ∈ (c.cancelRunning i).moments answers, m.isClose = false := by
  unfold cancelRunning
  split <;> simp [Dialogue.moments, Moment.isClose, Call.closesService]

theorem not_isClose_cancelIfCurrent (c : Connection) (i : Nat) (token : Token) :
    ∀ m ∈ (c.cancelIfCurrent i token).moments answers, m.isClose = false := by
  unfold cancelIfCurrent
  split <;> simp [Dialogue.moments, Moment.isClose, Call.closesService]

theorem not_isClose_isValid (c : Connection) (timeout : Nat) :
    ∀ m ∈ (c.isValid timeout).moments answers, m.isClose = false := by
  unfold isValid
  split <;> simp [Dialogue.moments, Moment.isClose, Call.closesService]

theorem moments_teardown (closing : Bool × Connection) :
    (teardown closing).moments answers =
      if closing.1 then [⟨.close, closing.2⟩] else [] := by
  obtain ⟨due, c⟩ := closing
  cases due <;> rfl

/-- What does not take a connection down leaves the service open. -/
theorem not_isClose_moments {c : Connection} {op : Operation} (up : op.takesDown c = false) :
    ∀ m ∈ c.moments answers op, m.isClose = false := by
  cases op with
  | prepare sql => exact not_isClose_prepare answers c sql
  | isValid timeout => exact not_isClose_isValid answers c timeout
  | close =>
    have hc : c.closed = true := by simpa [Operation.takesDown] using up
    simp [moments, moments_teardown, close, hc]
  | drop =>
    have hc : c.closed = true := by simpa [Operation.takesDown] using up
    simp [moments, moments_teardown, drop, close, hc]
  | runDeferred =>
    have hd : c.deferred = false := up
    simp [moments, moments_teardown, runDeferred, hd]
  | executeQuery what =>
    exact Dialogue.moments_executable answers (p := fun ms => ∀ m ∈ ms, m.isClose = false) what c
      (not_isClose_executeQuery answers c)
  | executeUpdate what =>
    exact Dialogue.moments_executable answers (p := fun ms => ∀ m ∈ ms, m.isClose = false) what c
      (not_isClose_executeUpdate answers c)
  | execute what =>
    exact Dialogue.moments_executable answers (p := fun ms => ∀ m ∈ ms, m.isClose = false) what c
      (not_isClose_execute answers c)
  | resultCursor i => exact not_isClose_resultCursor answers c i
  | cancel i => exact not_isClose_cancelRunning answers c i
  | cancelIfCurrent i token => exact not_isClose_cancelIfCurrent answers c i token
  | _ => simp [moments]

/-- What takes a connection down closes the service at its end and makes no other call. -/
theorem moments_of_takesDown {c : Connection} {op : Operation} (down : op.takesDown c = true) :
    c.moments answers op = [⟨.close, c.after (op, answers)⟩] := by
  unfold after perform effect
  cases op with
  | close =>
    have hc : c.closed = false := by simpa [Operation.takesDown] using down
    simp [moments, moments_teardown, connection_settle_teardown, close, hc]
  | drop =>
    have hc : c.closed = false := by simpa [Operation.takesDown] using down
    simp [moments, moments_teardown, connection_settle_teardown, drop, close, hc]
  | runDeferred =>
    have hd : c.deferred = true := down
    simp [moments, moments_teardown, connection_settle_teardown, runDeferred, hd]
  | _ => exact absurd down (by simp [Operation.takesDown])

/-! ## After the service has been closed -/

/-- A closed statement has nothing to send. -/
theorem submission_of_closed {c : Connection} {i : Nat} (h : (c.statement i).closed = true)
    (purpose : Purpose) (sql : String) (params : List Param) :
    c.submission i purpose sql params = .error Statement.closedError := by
  unfold submission
  simp [h]

/-- Once a connection is down, no operation calls the service. -/
theorem moments_of_isDown {c : Connection} (h : c.Exact) (down : c.IsDown) (op : Operation) :
    c.moments answers op = [] := by
  have closed := h.closed_of_isDown down
  have unsent := fun i => submission_of_closed (closed i)
  cases op with
  | prepare sql => simp [moments, prepare, createStatement, down.1, Dialogue.moments]
  | isValid timeout => simp [moments, isValid, down.1, Dialogue.moments]
  | close => simp [moments, moments_teardown, close, down.1]
  | drop => simp [moments, moments_teardown, drop, close, down.1]
  | runDeferred => simp [moments, moments_teardown, runDeferred, down.2]
  | executeQuery what =>
    refine Dialogue.moments_executable answers (p := fun ms => ms = []) what c ?_
    simp [executeQuery, unsent, Dialogue.moments]
  | executeUpdate what =>
    refine Dialogue.moments_executable answers (p := fun ms => ms = []) what c ?_
    simp [executeUpdate, unsent, Dialogue.moments]
  | execute what =>
    refine Dialogue.moments_executable answers (p := fun ms => ms = []) what c ?_
    simp [execute, unsent, Dialogue.moments]
  | resultCursor i => simp [moments, resultCursor, takeResult, closed, Dialogue.moments]
  | cancel i =>
    simp [moments, cancelRunning, cancel, Statement.whenOpen, closed, Dialogue.moments]
  | cancelIfCurrent i token =>
    simp [moments, cancelIfCurrent, cancelContext, cancel, Statement.whenOpen, closed, Except.map,
      Dialogue.moments]
  | _ => rfl

end

theorem history_of_isDown {c : Connection} (h : c.Exact) (down : c.IsDown)
    (session : List (Operation × Answers)) : c.history session = [] := by
  induction session generalizing c with
  | nil => rfl
  | cons step session ih =>
    have steps := steps_after c step.1 step.2
    rw [history, moments_of_isDown step.2 h down step.1,
      ih (h.steps steps) (isDown_of_steps down steps)]
    rfl

/-! ## Sessions -/

/-- Somewhere in the session the connection is taken down. -/
def TakenDown (c : Connection) (session : List (Operation × Answers)) : Prop :=
  ∃ before op answers rest, session = before ++ (op, answers) :: rest ∧
    op.takesDown (c.run before) = true

theorem takenDown_cons {c : Connection} {step : Operation × Answers}
    {session : List (Operation × Answers)} (h : (c.after step).TakenDown session) :
    c.TakenDown (step :: session) := by
  obtain ⟨before, op, answers, rest, rfl, down⟩ := h
  exact ⟨step :: before, op, answers, rest, rfl, down⟩

theorem takenDown_of_cons {c : Connection} {step : Operation × Answers}
    {session : List (Operation × Answers)} (h : c.TakenDown (step :: session)) :
    step.1.takesDown c = true ∨ (c.after step).TakenDown session := by
  obtain ⟨before, op, answers, rest, hsession, down⟩ := h
  cases before with
  | nil =>
    obtain ⟨rfl, -⟩ := List.cons.inj hsession
    exact Or.inl down
  | cons first before =>
    obtain ⟨rfl, hrest⟩ := List.cons.inj hsession
    exact Or.inr ⟨before, op, answers, rest, hrest, down⟩

/-- A session in which the connection is taken down ends its history with closing the service, all
being closed by then; in any other session the service stays open. -/
theorem history_split {c : Connection} (h : c.Exact) (session : List (Operation × Answers)) :
    (c.TakenDown session ∧ ∃ calls d, c.history session = calls ++ [⟨.close, d⟩] ∧
      (∀ m ∈ calls, m.isClose = false) ∧ d.Exact ∧ d.IsDown) ∨
    (¬c.TakenDown session ∧ ∀ m ∈ c.history session, m.isClose = false) := by
  induction session generalizing c with
  | nil =>
    right
    constructor
    · rintro ⟨before, op, answers, rest, hsession, -⟩
      exact absurd hsession (by simp)
    · intro m hm
      exact absurd hm List.not_mem_nil
  | cons step session ih =>
    obtain ⟨op, answers⟩ := step
    have exact := h.steps (steps_after c op answers)
    cases down : op.takesDown c with
    | true =>
      left
      refine ⟨⟨[], op, answers, session, rfl, down⟩, [], c.after (op, answers), ?_, ?_, exact,
        isDown_after h down⟩
      · rw [history, moments_of_takesDown answers down,
          history_of_isDown exact (isDown_after h down)]
        rfl
      · intro m hm
        exact absurd hm List.not_mem_nil
    | false =>
      have early := not_isClose_moments answers down
      rcases ih exact with ⟨taken, calls, d, hcalls, hopen, hd⟩ | ⟨taken, hopen⟩
      · left
        refine ⟨takenDown_cons taken, c.moments answers op ++ calls, d, ?_, ?_, hd⟩
        · rw [history, hcalls, List.append_assoc]
        · intro m hm
          rcases List.mem_append.mp hm with hm | hm
          · exact early m hm
          · exact hopen m hm
      · right
        constructor
        · intro htaken
          rcases takenDown_of_cons htaken with hdown | hrest
          · rw [down] at hdown
            exact absurd hdown Bool.false_ne_true
          · exact taken hrest
        · intro m hm
          rcases List.mem_append.mp hm with hm | hm
          · exact early m hm
          · exact hopen m hm

/-- A history that ends with the first closing of the service has only the one. -/
theorem countP_isClose_concat {calls : List Moment} (hopen : ∀ m ∈ calls, m.isClose = false)
    (d : Connection) : (calls ++ [Moment.mk .close d]).countP Moment.isClose = 1 := by
  have none_before : calls.countP Moment.isClose = 0 := by
    rw [List.countP_eq_zero]
    intro m hm
    simp [hopen m hm]
  rw [List.countP_append, none_before]
  rfl

theorem isClose_last {calls before rest : List Moment} {m last : Moment}
    (hopen : ∀ m ∈ calls, m.isClose = false) (h : calls ++ [last] = before ++ m :: rest)
    (hm : m.isClose = true) : m = last ∧ rest = [] := by
  rcases List.eq_nil_or_concat rest with rfl | ⟨rest', last', rfl⟩
  · obtain ⟨-, heq⟩ := List.append_inj' h rfl
    obtain ⟨rfl, -⟩ := List.cons.inj heq
    exact ⟨rfl, rfl⟩
  · -- a moment with others behind it is none of the last
    rw [List.concat_eq_append, ← List.cons_append, ← List.append_assoc] at h
    obtain ⟨heq, -⟩ := List.append_inj' h rfl
    have hmem : m ∈ calls := heq ▸ List.mem_append_right _ List.mem_cons_self
    rw [hopen m hmem] at hm
    exact absurd hm Bool.false_ne_true

/-- What closing the service has come to is what closing the connection reports. -/
theorem closeResult_eq (service : Result Unit) : closeResult service = service := by
  cases service <;> rfl

/-- The service is closed precisely in a session in which the connection is taken down, and then
once, last of all, with nothing open any more. -/
theorem history_closes_once {c : Connection} (h : c.Exact) (session : List (Operation × Answers)) :
    let log := c.history session
    log.countP Moment.isClose ≤ 1 ∧
    (log.countP Moment.isClose = 1 ↔ c.TakenDown session) ∧
    ∀ before m rest, log = before ++ m :: rest → m.isClose = true → rest = [] ∧
      ∀ s ∈ m.connection.statements, s.closed = true ∧ ∀ k ∈ s.cursors, k.closed = true := by
  intro log
  rcases history_split h session with ⟨taken, calls, d, hlog, hopen, exact, down⟩ | ⟨taken, hopen⟩
  · have count : log.countP Moment.isClose = 1 := by
      show (c.history session).countP _ = 1
      rw [hlog]
      exact countP_isClose_concat hopen d
    refine ⟨Nat.le_of_eq count, iff_of_true count taken, ?_⟩
    intro before m rest hm hclose
    obtain ⟨rfl, rfl⟩ := isClose_last hopen (hlog.symm.trans hm) hclose
    refine ⟨rfl, fun s hs => ?_⟩
    have closed := exact.down down s hs
    exact ⟨closed, (exact.statements s hs).closed closed⟩
  · have count : log.countP Moment.isClose = 0 := by
      rw [List.countP_eq_zero]
      intro m hm
      simp [hopen m hm]
    refine ⟨by rw [count]; exact Nat.zero_le 1, ?_, ?_⟩
    · rw [count]
      exact iff_of_false Nat.zero_ne_one taken
    · intro before m rest hm hclose
      have hmem : m ∈ log := hm ▸ List.mem_append_right _ List.mem_cons_self
      rw [hopen m hmem] at hclose
      exact absurd hclose Bool.false_ne_true

/-- **The service is closed once at most, and last of all**, whatever the session: precisely if the
connection is taken down, when all its statements and cursors are closed, and no call comes after
it. The close that does it reports what the service answers; closing once more does nothing. -/
theorem history_ends_with_close (config : ClientConfig) (server : Option String)
    (session : List (Operation × Answers)) :
    let start := create config server
    let log := start.history session
    let c := start.run session
    log.map Moment.call = start.calls session ∧
    log.countP Moment.isClose ≤ 1 ∧
    (log.countP Moment.isClose = 1 ↔ start.TakenDown session) ∧
    (∀ before m rest, log = before ++ m :: rest → m.isClose = true →
      rest = [] ∧
      ∀ s ∈ m.connection.statements, s.closed = true ∧ ∀ k ∈ s.cursors, k.closed = true) ∧
    (c.closed = false → ∀ answers,
      (teardown c.close).settle answers = ⟨answers.closed, [.close], c.close.2⟩) ∧
    (c.closed = true → ∀ answers,
      (teardown c.close).settle answers = ⟨.ok (), [], c⟩ ∧
      c.closeDeferred = (false, c) ∧
      (teardown c.drop).settle answers = ⟨.ok (), [], { c with dropped := true }⟩) := by
  intro start log c
  obtain ⟨atMost, iff, last⟩ := history_closes_once (exact_create config server) session
  refine ⟨map_call_history start session, atMost, iff, last, ?_, ?_⟩
  · intro isOpen answers
    simp [close, isOpen, teardown, Dialogue.settle, closeResult_eq]
  · intro isClosed answers
    simp [close, closeDeferred, drop, isClosed, teardown, Dialogue.settle]

/-- A session that is closed twice and whose teardown has been put off in between. -/
def closedLater : List (Operation × Answers) :=
  [.createStatement, .executeQuery (.text 0 "SELECT n FROM t"), .isValid 1, .closeDeferred, .close,
    .runDeferred, .close, .runDeferred, .executeQuery (.text 0 "SELECT n FROM t"), .cancel 0,
    .drop].map (·, rowService)

theorem closedLater_ends_with_close :
    let start := create .standard none
    start.TakenDown closedLater ∧
    (start.calls closedLater).length = 4 ∧
    (start.history closedLater).countP Moment.isClose = 1 ∧
    (start.run closedLater).closed = true ∧
    (teardown (start.run closedLater).close).settle rowService =
      ⟨.ok (), [], start.run closedLater⟩ := by
  intro start
  obtain ⟨-, -, once, -, -, again⟩ := history_ends_with_close .standard none closedLater
  have taken : start.TakenDown closedLater :=
    ⟨closedLater.take 5, .runDeferred, rowService, closedLater.drop 6, rfl, by decide +kernel⟩
  have isClosed : (start.run closedLater).closed = true := by decide +kernel
  exact ⟨taken, by decide +kernel, once.mpr taken, isClosed, (again isClosed rowService).1⟩

end Connection

end QueryClient
