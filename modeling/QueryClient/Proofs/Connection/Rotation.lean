import Mathlib.Data.List.Infix
import QueryClient.Proofs.Connection.Shared

/-!
# Tokens rotate

As long as no two executions of one statement overlap, every execution has a token of its own: it is
submitted under the one that its statement has when it starts, and whatever comes of it, the
statement has a token then that no statement has had before. So a token that has been read can
cancel nothing but the execution that it belongs to. Main statement: `run_rotates`.
-/

namespace QueryClient

namespace Connection

theorem token_of_getElem? {c : Connection} {i : Nat} {token : Token}
    (h : c.tokens[i]? = some token) : (c.statement i).token = token := by
  rw [tokens, List.getElem?_map] at h
  obtain ⟨s, hs, rfl⟩ := Option.map_eq_some_iff.mp h
  rw [statement_of_getElem? hs]

theorem getElem?_tokens_of_open {c : Connection} {i : Nat} (h : (c.statement i).closed = false) :
    c.tokens[i]? = some (c.statement i).token := by
  have there := lt_of_open h
  rw [tokens, List.getElem?_map, statement, List.getElem?_eq_getElem there]
  rfl

theorem Renewed.token {c d : Connection} {i : Nat} (h : Renewed i c d)
    (there : i < c.tokens.length) : (d.statement i).token = c.nextToken := by
  refine token_of_getElem? ?_
  rw [h.tokens, List.getElem?_set_self there]

/-- However an execution that is left alone goes, its statement has a new token afterwards. -/
theorem nextToken_le_token_perform {c : Connection} {op : Operation} {i : Nat}
    (h : c.executes op = some i) (answers : Answers) :
    c.nextToken ≤ ((c.perform answers op).2.statement i).token := by
  cases c.course op with
  | executing submission j next submits executes dialogue token goes =>
    rw [h] at executes
    cases executes
    rw [perform_of_dialogue_eq dialogue]
    have there : i < (c.ready op).tokens.length := (List.getElem?_eq_some_iff.mp token).1
    refine (goes (c.ready op) answers.submitted).settle
      (P := fun e => c.nextToken ≤ e.nextToken ∧ i < e.tokens.length)
      (Q := fun e => c.nextToken ≤ (e.statement i).token)
      ⟨(grown_ready c op).drawn.nextToken_le, there⟩ ?_ ?_ answers
    · intro a b ha steady
      rwa [steady.nextToken, steady.tokens]
    · intro a b ha ended
      rw [ended.1.token ha.2]
      exact ha.1
  | going submits goes =>
    rw [executes, submits] at h
    cases h
  | setting submits isSetter result d dialogue tokens nextToken =>
    rw [executes, submits] at h
    cases h

/-- Cancelling by a token asks the service for that token while it is current, and for nothing
else. -/
theorem settle_cancelIfCurrent {c : Connection} {i : Nat} (h : (c.statement i).closed = false)
    (token : Token) (answers : Answers) : (c.cancelIfCurrent i token).settle answers =
      if (c.statement i).token = token then ⟨answers.cancelled, [.cancel token], c⟩
      else ⟨.ok (), [], c⟩ := by
  have own : c.cancel i = .ok (c.statement i).token := by
    rw [cancel, Statement.whenOpen, h]
    rfl
  unfold cancelIfCurrent cancelContext
  rw [own]
  by_cases current : (c.statement i).token = token
  · subst current
    simp [Except.map, Dialogue.settle]
  · simp [Except.map, current, Dialogue.settle]

end Connection

namespace Shared

/-- No two executions of one statement are ever under way together. -/
def Apart (s : Shared) (turns : List Turn) : Prop :=
  ∀ earlier, earlier <+: turns → (s.run earlier).executing.Nodup

/-- The tokens of all submissions, in order. -/
def submitted (s : Shared) : List Token := s.log.filterMap Mark.token?

theorem mem_submitted {s : Shared} {token : Token} (h : token ∈ s.submitted) :
    ∃ executes submission, .called executes (.submit submission) ∈ s.log ∧
      submission.token = token := by
  obtain ⟨mark, hmark, htoken⟩ := List.mem_filterMap.mp h
  cases mark with
  | ended i => cases htoken
  | called executes call =>
    cases call with
    | submit submission =>
      cases htoken
      exact ⟨executes, submission, hmark, rfl⟩
    | _ => cases htoken

/-! ## Different submissions, different tokens -/

/-- A submission under a token that has been submitted would overlap with the earlier execution. -/
theorem Traced.token_not_mem_submitted {s t : Shared} {executes : Option Nat}
    {submission : Submission} (h : s.Traced)
    (notes : Notes s t (some (.called executes (.submit submission))))
    (apart : t.executing.Nodup) : submission.token ∉ s.submitted := by
  intro hmem
  obtain ⟨i, rfl, token, executing⟩ := notes.submits _ _ rfl
  obtain ⟨executes', submission', hlog, same⟩ := mem_submitted hmem
  obtain ⟨before, after, log⟩ := List.append_of_mem hlog
  obtain ⟨old, j, rfl, current⟩ := h.current log
  have kept := (notes.tokens _ old i).mp (by rw [token, same])
  -- The statement still has the token, so the earlier execution has not ended.
  obtain ⟨rfl, unended⟩ := (current i).mp kept.1
  rw [executing] at apart
  exact List.disjoint_of_nodup_append apart (h.held log unended) (List.mem_singleton_self i)

theorem Traced.nodup_submitted {s t : Shared} {mark : Option Mark} (h : s.Traced)
    (notes : Notes s t mark) (apart : t.executing.Nodup) (nodup : s.submitted.Nodup) :
    t.submitted.Nodup := by
  unfold submitted at nodup ⊢
  rw [notes.log, List.filterMap_append]
  cases mark with
  | none => simpa using nodup
  | some mark =>
    cases htoken : mark.token? with
    | none => simpa [htoken] using nodup
    | some token =>
      have new : token ∉ s.submitted := by
        cases mark with
        | ended i => cases htoken
        | called executes call =>
          cases call with
          | submit submission =>
            cases htoken
            exact h.token_not_mem_submitted notes apart
          | _ => cases htoken
      have last : (some mark).toList.filterMap Mark.token? = [token] := by simp [htoken]
      rw [last, ← List.concat_eq_append]
      exact nodup.concat new

theorem nodup_submitted_run {s : Shared} (h : s.Orderly) {turns : List Turn}
    (apart : s.Apart turns) (nodup : s.submitted.Nodup) : (s.run turns).submitted.Nodup := by
  induction turns generalizing s with
  | nil => exact nodup
  | cons turn turns ih =>
    obtain ⟨mark, notes⟩ := (take_moves h.proper turn).1.notes h.traced.fresh
    refine ih (h.take turn) ?_ ?_
    · intro earlier hearlier
      exact apart (turn :: earlier) ((List.cons_prefix_cons).mpr ⟨rfl, hearlier⟩)
    · have first := apart [turn] ((List.cons_prefix_cons).mpr ⟨rfl, List.nil_prefix⟩)
      exact h.traced.nodup_submitted notes first nodup

/-! ## Tokens and what they belong to -/

/-- If anything has a token, or ever had it or submitted something under it, it is the statement. -/
structure Owns (s : Shared) (i : Nat) (token : Token) : Prop where
  old : token < s.connection.nextToken
  tokens : ∀ j, s.connection.tokens[j]? = some token → j = i
  log : ∀ executes submission, .called executes (.submit submission) ∈ s.log →
    submission.token = token → executes = some i

theorem Traced.owns {s : Shared} (h : s.Traced) {i : Nat} {token : Token}
    (current : s.connection.tokens[i]? = some token) : s.Owns i token where
  old := h.fresh.lt token (List.mem_of_getElem? current)
  tokens := fun _ hj => h.fresh.eq_of_getElem? hj current
  log := by
    rintro executes submission hlog rfl
    obtain ⟨before, after, log⟩ := List.append_of_mem hlog
    obtain ⟨-, j, rfl, own⟩ := h.current log
    rw [((own i).mp current).1]

theorem Owns.step {s t : Shared} {i : Nat} {token : Token} {mark : Option Mark}
    (h : s.Owns i token) (notes : Notes s t mark) : t.Owns i token where
  old := Nat.lt_of_lt_of_le h.old notes.nextToken
  tokens := fun j hj => h.tokens j ((notes.tokens token h.old j).mp hj).1
  log := by
    rintro executes submission hlog rfl
    rw [notes.log] at hlog
    rcases List.mem_append.mp hlog with past | new
    · exact h.log executes submission past rfl
    · obtain ⟨j, rfl, own, -⟩ := notes.submits _ _ (Option.mem_toList.mp new)
      rw [h.tokens j ((notes.tokens _ h.old j).mp own).1]

theorem Owns.run {s : Shared} {i : Nat} {token : Token} (h : s.Owns i token) (orderly : s.Orderly)
    (turns : List Turn) : (s.run turns).Owns i token := by
  induction turns generalizing s with
  | nil => exact h
  | cons turn turns ih =>
    obtain ⟨mark, notes⟩ := (take_moves orderly.proper turn).1.notes orderly.traced.fresh
    exact ih (h.step notes) (orderly.take turn)

theorem nextToken_le_run {s : Shared} (h : s.Orderly) (turns : List Turn) :
    s.connection.nextToken ≤ (s.run turns).connection.nextToken := by
  induction turns generalizing s with
  | nil => exact Nat.le_refl _
  | cons turn turns ih =>
    obtain ⟨mark, notes⟩ := (take_moves h.proper turn).1.notes h.traced.fresh
    exact Nat.le_trans notes.nextToken (ih (h.take turn))

/-- What is drawn from now on, no statement has had up to now. -/
theorem not_mem_tokens_of_prefix {s : Shared} (h : s.Orderly) {before turns : List Turn}
    (hbefore : before <+: turns) {token : Token}
    (new : (s.run turns).connection.nextToken ≤ token) :
    token ∉ (s.run before).connection.tokens := by
  obtain ⟨rest, rfl⟩ := hbefore
  have orderly := h.run before
  intro hmem
  rw [run_append] at new
  have le := nextToken_le_run orderly rest
  exact absurd (orderly.traced.fresh.lt token hmem) (Nat.not_lt.mpr (Nat.le_trans le new))

/-- No statement has had the token, neither in the end nor at any time before. -/
def Unheard (s : Shared) (turns : List Turn) (token : Token) : Prop :=
  ∀ before, before <+: turns → token ∉ (s.run before).connection.tokens

theorem unheard {s : Shared} (h : s.Orderly) {turns : List Turn} {token : Token}
    (new : (s.run turns).connection.nextToken ≤ token) : s.Unheard turns token :=
  fun _ hbefore => not_mem_tokens_of_prefix h hbefore new

/-- What a turn submits carries the token that the statement has just before. -/
theorem Moves.token_of_submits {s t : Shared} {turn : Turn} (h : Moves s t turn)
    {executes : Option Nat} {submission : Submission}
    (log : t.log = s.log ++ [.called executes (.submit submission)]) :
    ∃ op i, turn = .start op ∧ executes = some i ∧
      submission.token = ((s.connection.ready op).statement i).token := by
  cases h with
  | submits op started i sent ready token executing log' =>
    have same := List.append_cancel_left (log'.symm.trans log)
    cases same
    rw [ready] at token
    exact ⟨op, i, started, rfl, (Connection.token_of_getElem? token).symm⟩
  | calls executes' call silent drawn executing log' =>
    have same := List.append_cancel_left (log'.symm.trans log)
    cases same
    cases silent
  | rests drawn executing log' =>
    rw [log'] at log
    exact absurd (List.self_eq_append_right.mp log) nofun
  | ends i renewed executing log' =>
    have same := List.append_cancel_left (log'.symm.trans log)
    cases same

/-- The end of an execution gives its statement the next token. -/
theorem Moves.token_of_ends {s t : Shared} {turn : Turn} (h : Moves s t turn) (orderly : s.Orderly)
    {i : Nat} (log : t.log = s.log ++ [.ended i]) :
    (t.connection.statement i).token = s.connection.nextToken := by
  cases h with
  | submits op started j sent ready token executing log' =>
    have same := List.append_cancel_left (log'.symm.trans log)
    cases same
  | calls executes' call silent drawn executing log' =>
    have same := List.append_cancel_left (log'.symm.trans log)
    cases same
  | rests drawn executing log' =>
    rw [log'] at log
    exact absurd (List.self_eq_append_right.mp log) nofun
  | ends j renewed executing log' =>
    have same := List.append_cancel_left (log'.symm.trans log)
    cases same
    exact renewed.token (orderly.there i ((executing i).mpr (Or.inl rfl)))

/-- What has been submitted under the token that a statement has is an execution of it that is under
way. -/
theorem mem_executing_of_current {s : Shared} (h : s.Orderly) {i : Nat}
    (isOpen : (s.connection.statement i).closed = false) {executes : Option Nat}
    {submission : Submission} (hlog : .called executes (.submit submission) ∈ s.log)
    (same : submission.token = (s.connection.statement i).token) : i ∈ s.executing := by
  obtain ⟨before, after, log⟩ := List.append_of_mem hlog
  obtain ⟨-, j, rfl, own⟩ := h.traced.current log
  have current := Connection.getElem?_tokens_of_open isOpen
  rw [← same] at current
  obtain ⟨rfl, unended⟩ := (own i).mp current
  exact h.traced.held log unended

/-- **Executions of one statement that do not overlap have each a token of their own.** All
submissions of a run carry different tokens. Each carries the one that its statement has just
before, and at the end of the execution the statement gets one that was never heard of, however the
execution goes. Cancelling by the current token of a statement asks the service for that token,
which is none of another statement, before or later, nor of an execution that is over; cancelling by
any other token asks for nothing. -/
theorem run_rotates (config : ClientConfig) (server : Option String) (turns : List Turn) :
    let start := create config server
    start.Apart turns →
      (start.run turns).submitted.Nodup ∧
      (∀ earlier turn, earlier ++ [turn] <+: turns →
        let s := start.run earlier
        let t := s.take turn
        (∀ executes submission, t.log = s.log ++ [.called executes (.submit submission)] →
          ∃ op i, turn = .start op ∧ executes = some i ∧
            submission.token = ((s.connection.ready op).statement i).token) ∧
        ∀ i, t.log = s.log ++ [.ended i] →
          start.Unheard earlier (t.connection.statement i).token) ∧
      ∀ earlier, earlier <+: turns →
        let s := start.run earlier
        (∀ op i answers, s.connection.executes op = some i →
          start.Unheard earlier ((s.connection.perform answers op).2.statement i).token) ∧
        ∀ i, (s.connection.statement i).closed = false →
          (∀ token answers, (s.connection.cancelIfCurrent i token).settle answers =
            if (s.connection.statement i).token = token then
              ⟨answers.cancelled, [.cancel token], s.connection⟩
            else ⟨.ok (), [], s.connection⟩) ∧
          (∀ executes submission, .called executes (.submit submission) ∈ s.log →
            submission.token = (s.connection.statement i).token → i ∈ s.executing) ∧
          ∀ executes submission, .called executes (.submit submission) ∈ (start.run turns).log →
            submission.token = (s.connection.statement i).token → executes = some i := by
  intro start apart
  have first : start.Orderly := orderly_run config server []
  refine ⟨nodup_submitted_run first apart List.nodup_nil, ?_, ?_⟩
  · intro earlier turn hturn s t
    have orderly : s.Orderly := first.run earlier
    have moves := (take_moves orderly.proper turn).1
    refine ⟨fun _ _ log => moves.token_of_submits log, fun i log => unheard first ?_⟩
    exact Nat.le_of_eq (moves.token_of_ends orderly log).symm
  · intro earlier hearlier s
    have orderly : s.Orderly := first.run earlier
    refine ⟨fun op i answers executes => unheard first ?_, fun i isOpen => ⟨?_, ?_, ?_⟩⟩
    · exact Connection.nextToken_le_token_perform executes answers
    · exact Connection.settle_cancelIfCurrent isOpen
    · exact fun _ _ hlog same => mem_executing_of_current orderly isOpen hlog same
    · obtain ⟨later, rfl⟩ := hearlier
      have owns := orderly.traced.owns (Connection.getElem?_tokens_of_open isOpen)
      rw [run_append]
      exact (owns.run orderly later).log

/-- A service that fails in everything. -/
def noService : Answers where
  submitted := .error .invalidStatementCategory
  fetched := .error .invalidStatementCategory
  cancelled := .error .invalidStatementCategory
  ping := false
  closed := .ok ()

/-- Two statements that execute side by side, one in vain and cancelled meanwhile, and one that is
prepared afterwards. -/
def sideBySide : List Turn :=
  [.start .createStatement, .start .createStatement, .start (.executeUpdate (.text 0 "A")),
    .start (.executeQuery (.text 1 "B")), .start (.cancelIfCurrent 0 0), .answer 0 noService,
    .answer 0 Connection.rowService, .answer 0 Connection.rowService, .answer 0 noService,
    .start (.prepare "C"), .answer 0 Connection.rowService, .start (.executeQuery (.prepared 0))]

theorem sideBySide_rotates :
    let start := create .standard none
    start.Apart sideBySide ∧ (start.run sideBySide).submitted = [0, 1, 4, 5] ∧
      (start.run sideBySide).submitted.Nodup := by
  intro start
  have apart : start.Apart sideBySide := by
    have inits : ∀ earlier ∈ sideBySide.inits, (start.run earlier).executing.Nodup := by
      decide +kernel
    intro earlier hearlier
    exact inits earlier ((List.mem_inits _ _).mpr hearlier)
  exact ⟨apart, by decide +kernel, (run_rotates .standard none sideBySide apart).1⟩

end Shared

end QueryClient
