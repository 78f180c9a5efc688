import QueryClient.Proofs.Connection.Token

/-!
# Operations side by side

The handles of a connection may be cloned, and the clones used at the same time. Then operations
start while others wait for the service, and are answered in any order: `Shared` is a connection
with the operations that wait, and a `Turn` is what may happen next. The log of a run has every call
of the service, with the statement whose execution makes it, and the end of every execution.

`Traced` ties the tokens of the statements to the log, whatever the turns are: a statement still has
the token of a submission precisely as long as no execution of the statement has ended since. Main
statement: `token_eq_iff`.
-/

namespace QueryClient

/-- An entry of the log of a run. -/
inductive Mark where
  /-- A call, and the statement whose execution makes it. -/
  | called (executes : Option Nat) (call : Call)
  /-- The end of an execution of a statement. -/
  | ended (i : Nat)

/-- The call that an entry is about. -/
def Mark.call? : Mark → Option Call
  | .called _ call => some call
  | .ended _ => none

/-- The token that an entry submits. -/
def Mark.token? : Mark → Option Token
  | .called _ (.submit submission) => some submission.token
  | _ => none

/-- A dialogue beside others, and the statement whose execution it is. -/
structure Thread where
  executes : Option Nat
  dialogue : Dialogue Unit

/-- What is noted of a thread that has gone on: its call, or the end of its execution. -/
def Thread.marks (w : Thread) : List Mark :=
  match w.dialogue.call? with
  | some call => [.called w.executes call]
  | none => (w.executes.map Mark.ended).toList

/-- A connection with the threads that wait for the service. -/
structure Shared where
  connection : Connection
  waiting : List Thread
  log : List Mark

/-- What may happen next: an operation starts, or a thread that waits is answered. -/
inductive Turn where
  | start (op : Operation)
  | answer (k : Nat) (answers : Answers)

namespace Shared

/-- A new connection that no one uses yet. -/
def create (config : ClientConfig) (server : Option String) : Shared where
  connection := .create config server
  waiting := []
  log := []

/-- A thread has gone on as far as it gets by itself. -/
def enter (s : Shared) (w : Thread) : Shared where
  connection := w.dialogue.connection
  waiting := if w.dialogue.call?.isSome then s.waiting ++ [w] else s.waiting
  log := s.log ++ w.marks

/-- Take a turn. -/
def take (s : Shared) : Turn → Shared
  | .start op => s.enter ⟨s.connection.executes op, s.connection.dialogue op⟩
  | .answer k answers =>
    match s.waiting[k]? with
    | none => s
    | some w =>
      { s with waiting := s.waiting.eraseIdx k }.enter
        ⟨w.executes, w.dialogue.resume answers s.connection⟩

/-- Take turn after turn. -/
def run (s : Shared) (turns : List Turn) : Shared := turns.foldl take s

/-- The statements whose executions are under way. -/
def executing (s : Shared) : List Nat := s.waiting.filterMap Thread.executes

theorem run_append (s : Shared) (turns rest : List Turn) :
    s.run (turns ++ rest) = (s.run turns).run rest := List.foldl_append

/-! ## One operation after the other

A session is a run in which no operation starts before the one before it is over. -/

/-- A thread that others leave alone comes, answer by answer, to what its dialogue comes to. -/
def Settles (answers : Answers) (s : Shared) (w : Thread) : Prop :=
  ∃ n, let t := (s.enter w).run (List.replicate n (.answer 0 answers))
    t.connection = (w.dialogue.settle answers).connection ∧ t.waiting = [] ∧
      t.log.filterMap Mark.call? =
        s.log.filterMap Mark.call? ++ (w.dialogue.settle answers).calls

theorem settle_of_call? {d : Dialogue Unit} {call : Call} (waits : d.call? = some call)
    (answers : Answers) :
    (d.settle answers).connection =
      ((d.resume answers d.connection).settle answers).connection ∧
    (d.settle answers).calls = call :: ((d.resume answers d.connection).settle answers).calls := by
  cases d with
  | done result c => cases waits
  | _ =>
    cases waits
    exact ⟨rfl, rfl⟩

theorem settles_of_resume {answers : Answers} {s : Shared} {w : Thread} {call : Call}
    (alone : s.waiting = []) (waits : w.dialogue.call? = some call)
    (rest : ∀ t : Shared, t.waiting = [] →
      Settles answers t ⟨w.executes, w.dialogue.resume answers w.dialogue.connection⟩) :
    Settles answers s w := by
  have entered : (s.enter w).take (.answer 0 answers) =
      Shared.enter ⟨w.dialogue.connection, [], s.log ++ [.called w.executes call]⟩
        ⟨w.executes, w.dialogue.resume answers w.dialogue.connection⟩ := by
    simp [enter, take, Thread.marks, waits, alone]
  obtain ⟨connection, calls⟩ := settle_of_call? waits answers
  obtain ⟨n, hn⟩ := rest ⟨w.dialogue.connection, [], s.log ++ [.called w.executes call]⟩ rfl
  refine ⟨n + 1, ?_⟩
  rw [List.replicate_succ, run, List.foldl_cons, entered, connection, calls]
  refine ⟨hn.1, hn.2.1, hn.2.2.trans ?_⟩
  rw [List.filterMap_append, List.append_assoc]
  rfl

theorem settles (answers : Answers) {s : Shared} (alone : s.waiting = []) (w : Thread) :
    Settles answers s w := by
  obtain ⟨executes, d⟩ := w
  induction d generalizing s with
  | done result c =>
    refine ⟨0, rfl, alone, ?_⟩
    show (s.log ++ (executes.map Mark.ended).toList).filterMap Mark.call? = _
    cases executes <;> simp [Mark.call?, Dialogue.settle]
  | submit submission c next ih =>
    exact settles_of_resume alone rfl fun t ht => ih c answers.submitted ht
  | fetch response c next ih =>
    exact settles_of_resume alone rfl fun t ht => ih c answers.fetched ht
  | cancel token c next ih =>
    exact settles_of_resume alone rfl fun t ht => ih c answers.cancelled ht
  | ping timeout c next ih => exact settles_of_resume alone rfl fun t ht => ih c answers.ping ht
  | close c next ih => exact settles_of_resume alone rfl fun t ht => ih c answers.closed ht

/-- **A session is a run**: whatever holds after every run holds after every session, too. -/
theorem exists_run_of_session (session : List (Operation × Answers)) {s : Shared}
    (alone : s.waiting = []) : ∃ turns,
      (s.run turns).connection = s.connection.run session ∧ (s.run turns).waiting = [] := by
  induction session generalizing s with
  | nil => exact ⟨[], rfl, alone⟩
  | cons step session ih =>
    obtain ⟨op, answers⟩ := step
    obtain ⟨n, connection, waiting, -⟩ :=
      settles answers alone ⟨s.connection.executes op, s.connection.dialogue op⟩
    obtain ⟨turns, hturns⟩ := ih waiting
    refine ⟨(.start op :: List.replicate n (.answer 0 answers)) ++ turns, ?_⟩
    have after : ((s.run (.start op :: List.replicate n (.answer 0 answers))).connection) =
        s.connection.after (op, answers) := by
      rw [Connection.after, Connection.perform_eq_effect]
      exact connection
    rw [run_append, show s.connection.run ((op, answers) :: session) =
      (s.connection.after (op, answers)).run session from rfl, ← after]
    exact hturns

/-! ## What a turn does -/

/-- What a thread does to the tokens once it is over. -/
def Concludes (executes : Option Nat) (c d : Connection) : Prop :=
  match executes with
  | none => c.Drawn d
  | some i => c.Renewed i d

/-- A thread that waits submits nothing any more, whatever it is answered. -/
structure Proper (w : Thread) : Prop where
  waits : w.dialogue.call? ≠ none
  goes : ∀ answers c, (w.dialogue.resume answers c).Goes Connection.Drawn (Concludes w.executes) c

/-- What a turn does to the tokens, to the log and to the executions under way. -/
inductive Moves (s t : Shared) (turn : Turn) : Prop where
  /-- An execution starts, and what it submits carries the token of its statement. -/
  | submits (op : Operation) (started : turn = .start op) (i : Nat) (submission : Submission)
      (ready : t.connection = s.connection.ready op)
      (token : t.connection.tokens[i]? = some submission.token)
      (executing : t.executing = s.executing ++ [i])
      (log : t.log = s.log ++ [.called (some i) (.submit submission)])
  /-- Another call is made. -/
  | calls (executes : Option Nat) (call : Call) (silent : call.submission? = none)
      (drawn : s.connection.Drawn t.connection)
      (executing : ∀ j, j ∈ t.executing ↔ j ∈ s.executing)
      (log : t.log = s.log ++ [.called executes call])
  /-- What is no execution is over, or no one has been answered. -/
  | rests (drawn : s.connection.Drawn t.connection)
      (executing : ∀ j, j ∈ t.executing ↔ j ∈ s.executing) (log : t.log = s.log)
  /-- An execution ends, and its statement gets a new token. -/
  | ends (i : Nat) (renewed : s.connection.Renewed i t.connection)
      (executing : ∀ j, j ∈ s.executing ↔ j = i ∨ j ∈ t.executing)
      (log : t.log = s.log ++ [.ended i])

/-- A thread goes on, and submits nothing. It may have waited before. -/
theorem enter_goes {s rest : Shared} {w : Thread} (turn : Turn)
    (goes : w.dialogue.Goes Connection.Drawn (Concludes w.executes) s.connection)
    (log : rest.log = s.log)
    (executing : ∀ j, j ∈ s.executing ↔ w.executes = some j ∨ j ∈ rest.executing)
    (proper : ∀ v ∈ rest.waiting, Proper v) :
    Moves s (rest.enter w) turn ∧ ∀ v ∈ (rest.enter w).waiting, Proper v := by
  cases hcall : w.dialogue.call? with
  | none =>
    have concluded := goes.connection.1 hcall
    have waiting : (rest.enter w).waiting = rest.waiting := by simp [enter, hcall]
    have same : rest.executing = (rest.enter w).executing := by
      rw [Shared.executing, Shared.executing, waiting]
    refine ⟨?_, by rwa [waiting]⟩
    unfold Concludes at concluded
    rw [same] at executing
    cases he : w.executes with
    | none =>
      rw [he] at concluded executing
      refine .rests concluded (fun j => ((executing j).trans (or_iff_right nofun)).symm) ?_
      simp only [enter, Thread.marks, hcall, he, log]
      exact List.append_nil _
    | some i =>
      rw [he] at concluded executing
      refine .ends i concluded (fun j => (executing j).trans (or_congr_left ?_)) ?_
      · rw [Option.some_inj]
        exact eq_comm
      · simp only [enter, Thread.marks, hcall, he, log]
        rfl
  | some call =>
    have waits : w.dialogue.call? ≠ none := by rw [hcall]; exact nofun
    have waiting : (rest.enter w).waiting = rest.waiting ++ [w] := by simp [enter, hcall]
    refine ⟨.calls w.executes call ?_ (goes.connection.2 waits) ?_ ?_, ?_⟩
    · cases call with
      | submit submission => exact absurd hcall (goes.call?_ne_submit submission)
      | _ => rfl
    · intro j
      have last : j ∈ [w].filterMap Thread.executes ↔ w.executes = some j := by simp
      rw [executing, Shared.executing, waiting, List.filterMap_append, List.mem_append, last]
      exact or_comm
    · simp only [enter, Thread.marks, hcall, log]
    · rw [waiting]
      intro v hv
      rcases List.mem_append.mp hv with hv | hv
      · exact proper v hv
      · rw [List.mem_singleton.mp hv]
        exact ⟨waits, fun answers e => goes.resume waits answers e⟩

theorem mem_executing_eraseIdx {waiting : List Thread} {k : Nat} {w : Thread}
    (hw : waiting[k]? = some w) (j : Nat) : j ∈ waiting.filterMap Thread.executes ↔
      w.executes = some j ∨ j ∈ (waiting.eraseIdx k).filterMap Thread.executes := by
  rw [List.mem_filterMap, List.mem_filterMap]
  constructor
  · rintro ⟨v, hv, he⟩
    obtain ⟨l, hl⟩ := List.mem_iff_getElem?.mp hv
    by_cases hkl : k = l
    · subst hkl
      rw [hw] at hl
      cases hl
      exact Or.inl he
    · exact Or.inr ⟨v, List.mem_eraseIdx_iff_getElem?.mpr ⟨l, fun h => hkl h.symm, hl⟩, he⟩
  · rintro (he | ⟨v, hv, he⟩)
    · exact ⟨w, List.mem_of_getElem? hw, he⟩
    · exact ⟨v, List.mem_of_mem_eraseIdx hv, he⟩

/-- **Whatever a turn is, this is what it may do.** -/
theorem take_moves {s : Shared} (proper : ∀ w ∈ s.waiting, Proper w) (turn : Turn) :
    Moves s (s.take turn) turn ∧ ∀ w ∈ (s.take turn).waiting, Proper w := by
  cases turn with
  | start op =>
    -- what is not submitted is no execution
    have silent (submits : s.connection.submits? op = none)
        (goes : (s.connection.dialogue op).Goes Connection.Drawn Connection.Drawn s.connection) :
        Moves s (s.take (.start op)) (.start op) ∧
          ∀ w ∈ (s.take (.start op)).waiting, Proper w := by
      have executes : s.connection.executes op = none := by
        rw [Connection.executes, submits]
        rfl
      refine enter_goes _ ?_ rfl ?_ proper
      · rw [executes]
        exact goes
      · intro j
        rw [executes]
        exact (or_iff_right (Option.some_ne_none j).symm).symm
    cases s.connection.course op with
    | executing submission i next submits executes dialogue token goes =>
      have entered : s.take (.start op) =
          s.enter ⟨some i, .submit submission (s.connection.ready op) next⟩ := by
        rw [take, executes, dialogue]
      rw [entered]
      refine ⟨.submits op rfl i submission rfl token List.filterMap_append rfl, ?_⟩
      intro w hw
      rcases List.mem_append.mp hw with hw | hw
      · exact proper w hw
      · rw [List.mem_singleton.mp hw]
        refine ⟨Option.some_ne_none _, ?_⟩
        intro answers c
        exact (goes c answers.submitted).mono (fun _ _ h => h.grown.drawn) fun _ _ h => h.1
    | going submits goes =>
      exact silent submits (goes.mono (fun _ _ h => h.drawn) fun _ _ h => h.drawn)
    | setting submits isSetter result d dialogue tokens nextToken =>
      refine silent submits ?_
      rw [dialogue]
      exact Or.inl ⟨tokens, nextToken⟩
  | answer k answers =>
    unfold take
    simp only
    split
    · exact ⟨.rests (Connection.Grown.refl _).drawn (fun _ => Iff.rfl) rfl, proper⟩
    · next w hw =>
      have goes := (proper w (List.mem_of_getElem? hw)).goes answers s.connection
      have under := mem_executing_eraseIdx hw
      exact enter_goes _ goes rfl under fun v hv => proper v (List.mem_of_mem_eraseIdx hv)

/-! ## Tokens and the log -/

/-- A turn adds at most one entry to the log; no old token comes to a statement, and one goes only
with the end of an execution. -/
structure Notes (s t : Shared) (mark : Option Mark) : Prop where
  log : t.log = s.log ++ mark.toList
  nextToken : s.connection.nextToken ≤ t.connection.nextToken
  fresh : t.connection.Fresh
  tokens : ∀ token < s.connection.nextToken, ∀ j, t.connection.tokens[j]? = some token ↔
    s.connection.tokens[j]? = some token ∧ mark ≠ some (.ended j)
  executing : ∀ j ∈ s.executing, j ∈ t.executing ∨ mark = some (.ended j)
  submits : ∀ executes submission, mark = some (.called executes (.submit submission)) →
    ∃ i, executes = some i ∧ t.connection.tokens[i]? = some submission.token ∧
      t.executing = s.executing ++ [i]

theorem notes_of_drawn {s t : Shared} {mark : Option Mark} (fresh : s.connection.Fresh)
    (log : t.log = s.log ++ mark.toList) (drawn : s.connection.Drawn t.connection)
    (goes : ∀ i, mark ≠ some (.ended i)) (executing : s.executing ⊆ t.executing)
    (submits : ∀ executes submission, mark = some (.called executes (.submit submission)) →
      ∃ i, executes = some i ∧ t.connection.tokens[i]? = some submission.token ∧
        t.executing = s.executing ++ [i]) :
    Notes s t mark where
  log := log
  nextToken := drawn.nextToken_le
  fresh := fresh.drawn drawn
  tokens := by
    intro token old j
    rw [drawn.getElem?_iff old, and_iff_left (goes j)]
  executing := fun _ hj => Or.inl (executing hj)
  submits := submits

theorem Moves.notes {s t : Shared} {turn : Turn} (h : Moves s t turn) (fresh : s.connection.Fresh) :
    ∃ mark, Notes s t mark := by
  cases h with
  | submits op started i submission ready token executing log =>
    have drawn : s.connection.Drawn t.connection := ready ▸ (s.connection.grown_ready op).drawn
    refine ⟨some (.called (some i) (.submit submission)),
      notes_of_drawn fresh log drawn nofun ?_ ?_⟩
    · rw [executing]
      exact List.subset_append_left _ _
    · intro executes sent same
      cases same
      exact ⟨i, rfl, token, executing⟩
  | calls executes call silent drawn executing log =>
    refine ⟨some (.called executes call), ?_⟩
    refine notes_of_drawn fresh log drawn nofun (fun j hj => (executing j).mpr hj) ?_
    intro executes sent same
    cases same
    cases silent
  | rests drawn executing log =>
    refine ⟨none, notes_of_drawn fresh ?_ drawn nofun (fun j hj => (executing j).mpr hj) nofun⟩
    rw [log]
    exact (List.append_nil _).symm
  | ends i renewed executing log =>
    have ended (j : Nat) : some (Mark.ended i) = some (Mark.ended j) ↔ j = i := by
      rw [Option.some_inj, Mark.ended.injEq]
      exact eq_comm
    refine ⟨some (.ended i), log, renewed.nextToken_le, fresh.renewed renewed, ?_, ?_, nofun⟩
    · intro token old j
      rw [renewed.getElem?_iff old]
      exact and_congr_right' (not_congr (ended j).symm)
    · intro j hj
      exact (((executing j).mp hj).imp_left (ended j).mpr).symm

/-- The log before a turn, as far as it is the log after it. -/
theorem log_cases {log before after : List Mark} {mark : Option Mark} {m : Mark}
    (h : log ++ mark.toList = before ++ m :: after) :
    (∃ earlier, after = earlier ++ mark.toList ∧ log = before ++ m :: earlier) ∨
      (mark = some m ∧ after = [] ∧ log = before) := by
  cases mark with
  | none =>
    refine Or.inl ⟨after, (List.append_nil _).symm, ?_⟩
    rw [← h]
    exact (List.append_nil _).symm
  | some last =>
    rcases split_concat h with ⟨same, rfl, rfl⟩ | ⟨earlier, rfl, same⟩
    · exact Or.inr ⟨rfl, rfl, same⟩
    · exact Or.inl ⟨earlier, rfl, same⟩

/-- What the log tells of tokens. -/
structure Traced (s : Shared) : Prop where
  fresh : s.connection.Fresh
  /-- A statement has the token of a submission until an execution of it ends. -/
  current : ∀ {before executes submission after},
    s.log = before ++ .called executes (.submit submission) :: after →
      submission.token < s.connection.nextToken ∧ ∃ i, executes = some i ∧
        ∀ j, s.connection.tokens[j]? = some submission.token ↔ j = i ∧ .ended i ∉ after
  /-- An execution that has started is under way until one of its statement ends. -/
  held : ∀ {before i submission after},
    s.log = before ++ .called (some i) (.submit submission) :: after → .ended i ∉ after →
      i ∈ s.executing
  /-- Two submissions carry one token if they are of one statement and none of its executions has
  ended in between, and not else. -/
  shared : ∀ {before executes submission between executes' submission' after},
    s.log = before ++ .called executes (.submit submission) ::
        (between ++ .called executes' (.submit submission') :: after) →
      (submission.token = submission'.token ↔
        ∃ i, executes = some i ∧ executes' = some i ∧ .ended i ∉ between)

theorem traced_create (config : ClientConfig) (server : Option String) :
    (create config server).Traced where
  fresh := Connection.fresh_create config server
  current h := absurd h.symm (by simp [create])
  held h := absurd h.symm (by simp [create])
  shared h := absurd h.symm (by simp [create])

theorem Traced.step {s t : Shared} {mark : Option Mark} (h : s.Traced) (notes : Notes s t mark) :
    t.Traced := by
  -- the token of an earlier submission is lost if the turn is the end of an execution
  have carried {before after : List Mark} {executes : Option Nat} {submission : Submission}
      (log : s.log = before ++ .called executes (.submit submission) :: after) :
      ∃ i, executes = some i ∧ ∀ j, t.connection.tokens[j]? = some submission.token ↔
        j = i ∧ .ended i ∉ after ++ mark.toList := by
    obtain ⟨old, i, rfl, current⟩ := h.current log
    refine ⟨i, rfl, fun j => ?_⟩
    rw [notes.tokens _ old j, current j, and_assoc]
    refine and_congr_right ?_
    rintro rfl
    rw [List.mem_append, not_or, Option.mem_toList]
  refine ⟨notes.fresh, ?_, ?_, ?_⟩
  · intro before executes submission after log
    rw [notes.log] at log
    rcases log_cases log with ⟨earlier, rfl, past⟩ | ⟨rfl, rfl, -⟩
    · exact ⟨Nat.lt_of_lt_of_le (h.current past).1 notes.nextToken, carried past⟩
    · obtain ⟨i, rfl, token, -⟩ := notes.submits _ _ rfl
      refine ⟨notes.fresh.lt _ (List.mem_of_getElem? token), i, rfl, fun j => ?_⟩
      rw [and_iff_left List.not_mem_nil]
      constructor
      · exact fun hj => notes.fresh.eq_of_getElem? hj token
      · rintro rfl
        exact token
  · intro before i submission after log open'
    rw [notes.log] at log
    rcases log_cases log with ⟨earlier, rfl, past⟩ | ⟨rfl, rfl, -⟩
    · rw [List.mem_append, not_or, Option.mem_toList] at open'
      exact (notes.executing i (h.held past open'.1)).resolve_right open'.2
    · obtain ⟨j, same, -, executing⟩ := notes.submits _ _ rfl
      cases same
      rw [executing]
      exact List.mem_append_right _ (List.mem_singleton_self _)
  · intro before executes submission between executes' submission' after log
    have split : s.log ++ mark.toList = (before ++ .called executes (.submit submission) ::
        between) ++ .called executes' (.submit submission') :: after := by
      rw [← notes.log, log, List.append_assoc]
      rfl
    rcases log_cases split with ⟨earlier, rfl, past⟩ | ⟨rfl, rfl, past⟩
    · rw [List.append_assoc] at past
      exact h.shared past
    · -- the later submission carries what is its statement's token now
      obtain ⟨j, rfl, token, -⟩ := notes.submits _ _ rfl
      obtain ⟨i, rfl, current⟩ := carried past
      have unended : .ended i ∉ between ++
          (some (Mark.called (some j) (.submit submission'))).toList ↔ .ended i ∉ between := by
        rw [List.mem_append, not_or]
        exact and_iff_left (by simp)
      have same : submission.token = submission'.token ↔
          t.connection.tokens[j]? = some submission.token := by
        rw [token, Option.some_inj]
        exact eq_comm
      rw [same, current j, unended]
      constructor
      · rintro ⟨rfl, open'⟩
        exact ⟨j, rfl, rfl, open'⟩
      · rintro ⟨k, hi, hj, open'⟩
        cases hi
        cases hj
        exact ⟨rfl, open'⟩

/-- All threads that wait are proper, the log tells of the tokens, and whatever is executed is
there. -/
structure Orderly (s : Shared) : Prop where
  proper : ∀ w ∈ s.waiting, Proper w
  traced : s.Traced
  there : ∀ i ∈ s.executing, i < s.connection.tokens.length

theorem Moves.there {s t : Shared} {turn : Turn} (h : Moves s t turn)
    (there : ∀ i ∈ s.executing, i < s.connection.tokens.length) :
    ∀ i ∈ t.executing, i < t.connection.tokens.length := by
  intro j hj
  cases h with
  | submits op started i submission ready token executing log =>
    have drawn : s.connection.Drawn t.connection := ready ▸ (s.connection.grown_ready op).drawn
    rw [executing] at hj
    rcases List.mem_append.mp hj with hj | hj
    · exact Nat.lt_of_lt_of_le (there j hj) drawn.length_le
    · rw [List.mem_singleton.mp hj]
      exact (List.getElem?_eq_some_iff.mp token).1
  | calls executes call silent drawn executing log =>
    exact Nat.lt_of_lt_of_le (there j ((executing j).mp hj)) drawn.length_le
  | rests drawn executing log =>
    exact Nat.lt_of_lt_of_le (there j ((executing j).mp hj)) drawn.length_le
  | ends i renewed executing log =>
    rw [renewed.tokens, List.length_set]
    exact there j ((executing j).mpr (Or.inr hj))

theorem Orderly.take {s : Shared} (h : s.Orderly) (turn : Turn) : (s.take turn).Orderly := by
  obtain ⟨moves, proper⟩ := take_moves h.proper turn
  obtain ⟨mark, notes⟩ := moves.notes h.traced.fresh
  exact ⟨proper, h.traced.step notes, moves.there h.there⟩

theorem Orderly.run {s : Shared} (h : s.Orderly) (turns : List Turn) : (s.run turns).Orderly := by
  induction turns generalizing s with
  | nil => exact h
  | cons turn turns ih => exact ih (h.take turn)

theorem orderly_run (config : ClientConfig) (server : Option String) (turns : List Turn) :
    ((create config server).run turns).Orderly :=
  .run ⟨fun _ none => absurd none List.not_mem_nil, traced_create config server,
    fun _ none => absurd none List.not_mem_nil⟩ turns

/-! ## Submissions that carry one token -/

/-- **Two submissions carry the same token precisely if they are of one statement and none of its
executions has ended in between**, in whatever order executions start and end. -/
theorem token_eq_iff (config : ClientConfig) (server : Option String) (turns : List Turn)
    {before between after : List Mark} {executes executes' : Option Nat}
    {submission submission' : Submission} :
    ((create config server).run turns).log =
        before ++ .called executes (.submit submission) ::
          (between ++ .called executes' (.submit submission') :: after) →
      (submission.token = submission'.token ↔
        ∃ i, executes = some i ∧ executes' = some i ∧ .ended i ∉ between) := by
  intro log
  exact (orderly_run config server turns).traced.shared log

/-- An update that starts while another one of its statement is with the service. -/
def overlapping : List Turn :=
  [.start .createStatement, .start (.executeUpdate (.text 0 "A")),
    .start (.executeUpdate (.text 0 "B")), .answer 1 Connection.rowService,
    .answer 0 Connection.rowService, .start (.executeUpdate (.text 0 "C"))]

/-- Overlapping executions of one statement are submitted under one token. -/
theorem overlapping_share : ∃ a b c : Submission,
    ((create .standard none).run overlapping).log =
      [.called (some 0) (.submit a), .called (some 0) (.submit b), .ended 0, .ended 0,
        .called (some 0) (.submit c)] ∧ a.token = b.token :=
  ⟨_, _, _, rfl, rfl⟩

theorem overlapping_tokens : ∃ a b c : Submission,
    ((create .standard none).run overlapping).log =
      [.called (some 0) (.submit a), .called (some 0) (.submit b), .ended 0, .ended 0,
        .called (some 0) (.submit c)] ∧ a.token = b.token ∧ b.token ≠ c.token := by
  refine ⟨_, _, _, rfl, ?_, ?_⟩
  · refine (@token_eq_iff .standard none overlapping [] [] _ _ _ _ _ rfl).mpr ?_
    exact ⟨0, rfl, rfl, List.not_mem_nil⟩
  · intro same
    obtain ⟨i, hi, -, unended⟩ :=
      (@token_eq_iff .standard none overlapping [_] [.ended 0, .ended 0] _ _ _ _ _ rfl).mp same
    cases hi
    exact unended (List.mem_cons_self ..)

end Shared

end QueryClient
