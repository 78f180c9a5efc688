import QueryClient.Session.Operation

/-!
# What operations ask of the service

Every operation is a dialogue with the service (`Connection.dialogue`), and what is performed of it
is what comes of the dialogue (`perform_eq_effect`). Some operations ask for the execution of a
statement (`Connection.request?`), which is submitted unless something is closed
(`Connection.submits?`). A dialogue that `Goes` on submits nothing, and is known by what it does to
the connection between the answers of the service.
-/

namespace QueryClient

/-- What a call of the service submits, if it does. -/
def Call.submission? : Call → Option Submission
  | .submit submission => some submission
  | _ => none

/-! ## Dialogues, one call at a time -/

namespace Dialogue

variable {α : Type}

/-- The connection as a dialogue leaves it to others while it waits, or for good. -/
def connection : Dialogue α → Connection
  | .done _ c => c
  | .submit _ c _ => c
  | .fetch _ c _ => c
  | .cancel _ c _ => c
  | .ping _ c _ => c
  | .close c _ => c

/-- The call whose answer a dialogue waits for; none if it is over. -/
def call? : Dialogue α → Option Call
  | .done _ _ => none
  | .submit submission _ _ => some (.submit submission)
  | .fetch response _ _ => some (.fetch response)
  | .cancel token _ _ => some (.cancel token)
  | .ping timeout _ _ => some (.ping timeout)
  | .close _ _ => some .close

/-- Go on with the answer, on the connection as it is found then. -/
def resume (answers : Answers) (c : Connection) : Dialogue α → Dialogue α
  | .done result _ => .done result c
  | .submit _ _ next => next c answers.submitted
  | .fetch _ _ next => next c answers.fetched
  | .cancel _ _ next => next c answers.cancelled
  | .ping _ _ next => next c answers.ping
  | .close _ next => next c answers.closed

/-- The same dialogue, whose result is of no interest. -/
def forget : Dialogue α → Dialogue Unit
  | .done result c => .done (result.map fun _ => ()) c
  | .submit submission c next => .submit submission c fun d answer => forget (next d answer)
  | .fetch response c next => .fetch response c fun d fetched => forget (next d fetched)
  | .cancel token c next => .cancel token c fun d answer => forget (next d answer)
  | .ping timeout c next => .ping timeout c fun d answer => forget (next d answer)
  | .close c next => .close c fun d answer => forget (next d answer)

theorem connection_forget (d : Dialogue α) : d.forget.connection = d.connection := by
  cases d <;> rfl

theorem effect_forget (answers : Answers) (d : Dialogue α) :
    Connection.effect answers d.forget = Connection.effect answers d := by
  unfold Connection.effect
  induction d with
  | done result c => rfl
  | submit submission c next ih => simp only [forget, settle, Prod.mk.injEq] at ih ⊢; simp [ih]
  | fetch response c next ih => simp only [forget, settle, Prod.mk.injEq] at ih ⊢; simp [ih]
  | cancel token c next ih => simp only [forget, settle, Prod.mk.injEq] at ih ⊢; simp [ih]
  | ping timeout c next ih => simp only [forget, settle, Prod.mk.injEq] at ih ⊢; simp [ih]
  | close c next ih => simp only [forget, settle, Prod.mk.injEq] at ih ⊢; simp [ih]

theorem result_forget (answers : Answers) (d : Dialogue α) :
    (d.forget.settle answers).result = (d.settle answers).result.map fun _ => () := by
  induction d with
  | done result c => rfl
  | submit submission c next ih => exact ih c answers.submitted
  | fetch response c next ih => exact ih c answers.fetched
  | cancel token c next ih => exact ih c answers.cancelled
  | ping timeout c next ih => exact ih c answers.ping
  | close c next ih => exact ih c answers.closed

/-- A dialogue whose result is forgotten fails as it would have done. -/
theorem settle_of_forget_fails {answers : Answers} {d : Dialogue α} {e : ClientError}
    (h : (d.forget.settle answers).result = .error e) :
    (d.settle answers).result = .error e ∧
      (d.forget.settle answers).connection = (d.settle answers).connection := by
  refine ⟨?_, congrArg Prod.snd (effect_forget answers d)⟩
  rw [result_forget] at h
  cases hr : (d.settle answers).result with
  | error e' =>
    rw [hr] at h
    cases h
    rfl
  | ok a =>
    rw [hr] at h
    cases h

/-- A dialogue goes on from a connection without submitting anything: up to each call it changes
the connection that it has found by `step`, and after the last one by `last`. -/
def Goes (step last : Connection → Connection → Prop) (c : Connection) : Dialogue α → Prop
  | .done _ d => last c d
  | .submit _ _ _ => False
  | .fetch _ d next => step c d ∧ ∀ e fetched, Goes step last e (next e fetched)
  | .cancel _ d next => step c d ∧ ∀ e answer, Goes step last e (next e answer)
  | .ping _ d next => step c d ∧ ∀ e answer, Goes step last e (next e answer)
  | .close d next => step c d ∧ ∀ e answer, Goes step last e (next e answer)

section Goes

variable {step last step' last' : Connection → Connection → Prop} {c : Connection} {d : Dialogue α}

theorem Goes.mono (h : d.Goes step last c) (hstep : ∀ a b, step a b → step' a b)
    (hlast : ∀ a b, last a b → last' a b) : d.Goes step' last' c := by
  induction d generalizing c with
  | done result e => exact hlast _ _ h
  | submit submission e next ih => exact h
  | fetch response e next ih => exact ⟨hstep _ _ h.1, fun a b => ih a b (h.2 a b)⟩
  | cancel token e next ih => exact ⟨hstep _ _ h.1, fun a b => ih a b (h.2 a b)⟩
  | ping timeout e next ih => exact ⟨hstep _ _ h.1, fun a b => ih a b (h.2 a b)⟩
  | close e next ih => exact ⟨hstep _ _ h.1, fun a b => ih a b (h.2 a b)⟩

theorem Goes.forget (h : d.Goes step last c) : d.forget.Goes step last c := by
  induction d generalizing c with
  | done result e => exact h
  | submit submission e next ih => exact h
  | fetch response e next ih => exact ⟨h.1, fun a b => ih a b (h.2 a b)⟩
  | cancel token e next ih => exact ⟨h.1, fun a b => ih a b (h.2 a b)⟩
  | ping timeout e next ih => exact ⟨h.1, fun a b => ih a b (h.2 a b)⟩
  | close e next ih => exact ⟨h.1, fun a b => ih a b (h.2 a b)⟩

/-- While it waits, only a step has been done; when it is over, the last one has. -/
theorem Goes.connection (h : d.Goes step last c) :
    (d.call? = none → last c d.connection) ∧ (d.call? ≠ none → step c d.connection) := by
  cases d with
  | done result e => exact ⟨fun _ => h, fun hcall => absurd rfl hcall⟩
  | submit submission e next => exact h.elim
  | fetch response e next => exact ⟨nofun, fun _ => h.1⟩
  | cancel token e next => exact ⟨nofun, fun _ => h.1⟩
  | ping timeout e next => exact ⟨nofun, fun _ => h.1⟩
  | close e next => exact ⟨nofun, fun _ => h.1⟩

theorem Goes.resume (h : d.Goes step last c) (waits : d.call? ≠ none) (answers : Answers)
    (e : Connection) : (d.resume answers e).Goes step last e := by
  cases d with
  | done result e => exact absurd rfl waits
  | submit submission e next => exact h.elim
  | fetch response e next => exact h.2 _ _
  | cancel token e next => exact h.2 _ _
  | ping timeout e next => exact h.2 _ _
  | close e next => exact h.2 _ _

/-- What a dialogue that is left alone does: `step` before each call, and `last` in the end. -/
theorem Goes.settle {P Q : Connection → Prop} (h : d.Goes step last c) (hc : P c)
    (hstep : ∀ a b, P a → step a b → P b) (hlast : ∀ a b, P a → last a b → Q b)
    (answers : Answers) : Q (d.settle answers).connection := by
  induction d generalizing c with
  | done result e => exact hlast _ _ hc h
  | submit submission e next ih => exact h.elim
  | fetch response e next ih => exact ih e _ (h.2 e _) (hstep _ _ hc h.1)
  | cancel token e next ih => exact ih e _ (h.2 e _) (hstep _ _ hc h.1)
  | ping timeout e next ih => exact ih e _ (h.2 e _) (hstep _ _ hc h.1)
  | close e next ih => exact ih e _ (h.2 e _) (hstep _ _ hc h.1)

theorem Goes.submission?_of_mem_calls (h : d.Goes step last c) {answers : Answers} {call : Call}
    (hcall : call ∈ (d.settle answers).calls) : call.submission? = none := by
  induction d generalizing c with
  | done result e => exact absurd hcall List.not_mem_nil
  | submit submission e next ih => exact h.elim
  | fetch response e next ih =>
    rcases List.mem_cons.mp hcall with rfl | hcall
    · rfl
    · exact ih _ _ (h.2 _ _) hcall
  | cancel token e next ih =>
    rcases List.mem_cons.mp hcall with rfl | hcall
    · rfl
    · exact ih _ _ (h.2 _ _) hcall
  | ping timeout e next ih =>
    rcases List.mem_cons.mp hcall with rfl | hcall
    · rfl
    · exact ih _ _ (h.2 _ _) hcall
  | close e next ih =>
    rcases List.mem_cons.mp hcall with rfl | hcall
    · rfl
    · exact ih _ _ (h.2 _ _) hcall

theorem Goes.call?_ne_submit (h : d.Goes step last c) (submission : Submission) :
    d.call? ≠ some (.submit submission) := by
  cases d with
  | submit submission e next => exact h.elim
  | _ => exact nofun

end Goes

end Dialogue

/-! ## Executions asked for -/

/-- An execution that an operation asks for. -/
structure Request where
  statement : Nat
  purpose : Purpose
  sql : String
  params : List Param

/-- Have something executed. -/
def Executable.request (what : Executable) (c : Connection) (purpose : Purpose) : Request :=
  match what with
  | .text i sql => ⟨i, purpose, sql, []⟩
  | .prepared p =>
    let own := c.preparedStatement p
    ⟨own.statement, purpose, own.sql, own.params⟩

theorem Executable.run_eq {α : Type} (what : Executable) (c : Connection) (purpose : Purpose)
    (f : Nat → String → List Param → Dialogue α) : what.run c f =
      f (what.request c purpose).statement (what.request c purpose).sql
        (what.request c purpose).params := by
  cases what <;> rfl

theorem Executable.purpose_request (what : Executable) (c : Connection) (purpose : Purpose) :
    (what.request c purpose).purpose = purpose := by
  cases what <;> rfl

namespace Connection

/-- The execution that an operation asks for, if it does. Preparing compiles on a new statement. -/
def request? (c : Connection) : Operation → Option Request
  | .executeQuery what => some (what.request c .query)
  | .executeUpdate what => some (what.request c .update)
  | .execute what => some (what.request c .any)
  | .prepare sql => some ⟨c.statements.length, .compile, sql, []⟩
  | _ => none

/-- The connection just before the execution that an operation asks for. -/
def ready (c : Connection) : Operation → Connection
  | .prepare _ => c.createStatement.2
  | _ => c

/-- What an operation submits, unless it is refused. -/
def submits? (c : Connection) (op : Operation) : Option Submission :=
  (c.request? op).bind fun q =>
    ((c.ready op).submission q.statement q.purpose q.sql q.params).toOption

/-- The dialogue that an operation is. -/
def dialogue (c : Connection) : Operation → Dialogue Unit
  | .createStatement => .done (.ok ()) c.createStatement.2
  | .prepare sql => (c.prepare sql).forget
  | .openCatalog => .done (.ok ()) c.openCatalog.2
  | .typeInfo => .done (.ok ()) c.typeInfo.2
  | .emptyResult columns => .done (.ok ()) (c.emptyResult columns).2
  | .setDataverse dataverse => .done (.ok ()) (c.setDataverse dataverse).2
  | .clearWarnings => .done (.ok ()) c.clearWarnings.2
  | .isValid timeout => (c.isValid timeout).forget
  | .close => teardown c.close
  | .closeDeferred => .done (.ok ()) c.closeDeferred.2
  | .runDeferred => teardown c.runDeferred
  | .drop => teardown c.drop
  | .executeQuery what => (what.run c c.executeQuery).forget
  | .executeUpdate what => (what.run c c.executeUpdate).forget
  | .execute what => (what.run c c.execute).forget
  | .resultCursor i => (c.resultCursor i).forget
  | .moreResults i => .done (.ok ()) (c.moreResults i).2
  | .generatedKeys i => .done (.ok ()) (c.generatedKeys i).2
  | .set i setting => .done (.ok ()) (c.withStatement i fun s => s.set setting).2
  | .cancel i => c.cancelRunning i
  | .cancelIfCurrent i token => c.cancelIfCurrent i token
  | .closeStatement i => .done (.ok ()) (c.closeStatement i)
  | .bindParam p position value => .done (.ok ()) (c.bindParam p position value).2
  | .clearParams p => .done (.ok ()) (c.clearParams p).2
  | .startNext id => .done (.ok ()) (c.startNext id).2
  | .finishNext id => .done (.ok ()) (c.finishNext id).2
  | .get id target column => .done (.ok ()) (c.get id target column).2
  | .closeCursor id => .done (.ok ()) (c.closeCursor id)
  | .dropCursor id => .done (.ok ()) (c.dropCursor id)

/-- What is performed of an operation is what comes of its dialogue. -/
theorem perform_eq_effect (c : Connection) (answers : Answers) (op : Operation) :
    c.perform answers op = effect answers (c.dialogue op) := by
  cases op <;> first | rfl | exact (Dialogue.effect_forget answers _).symm

end Connection

end QueryClient
