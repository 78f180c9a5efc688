import QueryClient.Proofs.Connection.Token
import QueryClient.Proofs.Row

/-!
# What submissions are made of

A submission carries what has been said last before it: the dataverse of the connection, the
timeout of the statement and, of a prepared statement, the value of each parameter.
`FollowsSettings` and `FollowsPrepared` are what one step of a session does to all of this, and
`Recalls` is what a session leaves behind. Main statement: `submission_recalls`.
-/

namespace QueryClient

/-- Whether an operation is the execution of a query. -/
def Operation.isExecuteQuery : Operation → Bool
  | .executeQuery _ => true
  | _ => false

/-! ## The parameters that a response mentions -/

namespace QueryResponse

/-- The positions of the parameters that a response mentions, in its order. -/
def Mentions (r : QueryResponse) (positions : List Nat) : Prop :=
  ∃ plans, r.plans = some plans ∧
    List.Forall₂ (fun (j : Json) (position : Nat) => ∃ n : Whole, j = .int n ∧ n.val = position)
      plans.parameters positions

theorem parameterPosition_eq_ok_iff {j : Json} {position : Nat} :
    parameterPosition j = .ok position ↔ ∃ n : Whole, j = .int n ∧ n.val = position := by
  cases j with
  | int n =>
    by_cases natural : 0 ≤ n.val
    · have read : parameterPosition (.int n) = .ok n.val.toNat := by
        simp [parameterPosition, Whole.toNat?, natural]
      rw [read]
      constructor
      · intro h
        cases h
        exact ⟨n, rfl, (Int.toNat_of_nonneg natural).symm⟩
      · rintro ⟨m, same, hm⟩
        cases same
        rw [hm]
        rfl
    · have unread : parameterPosition (.int n) =
          .error (.invalidValue ("statement parameter " ++ (Json.int n).text)) := by
        simp [parameterPosition, Whole.toNat?, natural]
      rw [unread]
      refine iff_of_false nofun ?_
      rintro ⟨m, same, hm⟩
      cases same
      exact natural (hm ▸ Int.natCast_nonneg position)
  | _ => exact iff_of_false nofun (by rintro ⟨n, same, -⟩; cases same)

theorem foldl_max_zero (positions : List Nat) :
    positions.foldl max 0 = positions.max?.getD 0 := by
  cases positions with
  | nil => rfl
  | cons position rest =>
    show rest.foldl max (max 0 position) = rest.foldl max position
    rw [Nat.zero_max]

/-- A response has as many parameters as the greatest position that it mentions. -/
theorem parameterCount_eq_ok_iff {r : QueryResponse} {count : Nat} :
    r.parameterCount = .ok count ↔
      ∃ positions, r.Mentions positions ∧ positions.max?.getD 0 = count := by
  unfold parameterCount Mentions
  cases r.plans with
  | none => exact iff_of_false nofun (by rintro ⟨_, ⟨_, none, -⟩, -⟩; cases none)
  | some plans =>
    have mentioned (positions : List Nat) :
        plans.parameters.mapM parameterPosition = .ok positions ↔ List.Forall₂
          (fun (j : Json) (position : Nat) => ∃ n : Whole, j = .int n ∧ n.val = position)
          plans.parameters positions := by
      rw [mapM_eq_ok_iff]
      simp only [parameterPosition_eq_ok_iff]
    constructor
    · intro h
      cases hm : plans.parameters.mapM parameterPosition with
      | error e =>
        simp only [hm] at h
        cases h
      | ok positions =>
        simp only [hm] at h
        cases h
        refine ⟨positions, ⟨plans, rfl, (mentioned positions).mp hm⟩, ?_⟩
        exact (foldl_max_zero positions).symm
    · rintro ⟨positions, ⟨plans', same, hm⟩, rfl⟩
      cases same
      simp only [(mentioned positions).mpr hm]
      exact congrArg Except.ok (foldl_max_zero positions)

end QueryResponse

namespace Connection

/-! ## What has been said last -/

/-- The last thing that is found in a session. -/
def latest {β : Type} (found : Connection → Operation × Answers → Option β) :
    Connection → List (Operation × Answers) → Option β
  | _, [] => none
  | c, step :: session => (latest found (c.after step) session).or (found c step)

theorem latest_concat {β : Type} (found : Connection → Operation × Answers → Option β)
    (c : Connection) (session : List (Operation × Answers)) (step : Operation × Answers) :
    latest found c (session ++ [step]) =
      (found (c.run session) step).or (latest found c session) := by
  induction session generalizing c with
  | nil =>
    show (none : Option β).or (found c step) = (found c step).or none
    rw [Option.none_or, Option.or_none]
  | cons first session ih =>
    show (latest found (c.after first) (session ++ [step])).or (found c first) = _
    rw [ih, Option.or_assoc]
    rfl

/-- The dataverse that a step sets. -/
def dataverseSet (c : Connection) : Operation × Answers → Option String
  | (.setDataverse dataverse, _) => (c.setDataverse dataverse).1.toOption.map fun _ => dataverse
  | _ => none

/-- The timeout that a step sets for statement `i`. -/
def timeoutSet (i : Nat) (c : Connection) : Operation × Answers → Option Nat
  | (.set j (.timeout seconds), _) =>
    if j = i then ((c.statement j).setTimeout seconds).1.toOption.map fun _ => seconds else none
  | _ => none

/-- What a step binds the parameter at index `k` of prepared statement `p` to. -/
def bound (p k : Nat) (c : Connection) : Operation × Answers → Option Param
  | (.bindParam q position value, _) =>
    if q = p ∧ position = k + 1 then (c.bindParam q position value).1.toOption.map fun _ => value
    else none
  | (.clearParams q, _) =>
    if q = p then (c.clearParams q).1.toOption.map fun _ => unbound else none
  | _ => none

/-- The text that a step prepares as prepared statement `p`, with what the service has found out
about it. -/
def preparation (p : Nat) (c : Connection) : Operation × Answers → Option (String × QueryResponse)
  | (.prepare sql, answers) =>
    if ((c.prepare sql).settle answers).result.toOption = some p then
      answers.submitted.toOption.map fun r => (sql, r)
    else none
  | _ => none

/-! ## One step -/

/-- What a step does to the settings. -/
structure FollowsSettings (c : Connection) (step : Operation × Answers) : Prop where
  dataverse : (c.after step).dataverse = (dataverseSet c step).getD c.dataverse
  sqlCompat : (c.after step).sqlCompat = c.sqlCompat
  timeout : ∀ i, ((c.after step).statement i).timeout =
    (timeoutSet i c step).getD (c.statement i).timeout

/-- What a step does to the prepared statements. -/
structure FollowsPrepared (c : Connection) (step : Operation × Answers) : Prop where
  length : c.prepared.length ≤ (c.after step).prepared.length
  unbound : ∀ p k, c.prepared.length ≤ p → bound p k c step = none
  /-- What was prepared before has got the new values of its parameters. -/
  kept : ∀ p s, c.prepared[p]? = some s → preparation p c step = none ∧
    (c.after step).prepared[p]? =
      some { s with params := s.params.mapIdx fun k value => (bound p k c step).getD value }
  /-- What is prepared now has got no values yet. -/
  come : ∀ p s, c.prepared.length ≤ p → (c.after step).prepared[p]? = some s →
    ∃ r positions, preparation p c step = some (s.sql, r) ∧ r.Mentions positions ∧
      s.params = List.replicate (positions.max?.getD 0) Connection.unbound

section Same

variable {c : Connection} {step : Operation × Answers}

theorem followsSettings_of_eq (same : (c.after step).settings = c.settings)
    (dataverse : dataverseSet c step = none) (timeout : ∀ i, timeoutSet i c step = none) :
    FollowsSettings c step := by
  obtain ⟨sameDataverse, rest⟩ := Prod.mk.inj same
  obtain ⟨sameCompat, sameTimeout⟩ := Prod.mk.inj rest
  refine ⟨?_, sameCompat, ?_⟩
  · rw [dataverse]
    exact sameDataverse
  · intro i
    rw [timeout]
    exact congrFun sameTimeout i

theorem mapIdx_none {α : Type} (values : List α) :
    (values.mapIdx fun _ value => (none : Option α).getD value) = values := by
  refine List.ext_getElem? fun k => ?_
  rw [List.getElem?_mapIdx]
  exact Option.map_id'

theorem followsPrepared_of_eq (same : (c.after step).prepared = c.prepared)
    (unprepared : ∀ p, preparation p c step = none) (unbound : ∀ p k, bound p k c step = none) :
    FollowsPrepared c step := by
  refine ⟨?_, fun p k _ => unbound p k, ?_, ?_⟩
  · exact Nat.le_of_eq (congrArg List.length same.symm)
  · intro p s hs
    refine ⟨unprepared p, ?_⟩
    simp only [unbound, mapIdx_none]
    rw [same]
    exact hs
  · intro p s hlength hs
    rw [same, List.getElem?_eq_none hlength] at hs
    cases hs

/-- A step that changes one prepared statement, if it changes any. -/
theorem followsPrepared_of_setParams {q : Nat} {params : List Param}
    (after : (c.after step).prepared = (c.setParams q params).prepared)
    (unprepared : ∀ p, preparation p c step = none)
    (others : ∀ p k, p ≠ q → bound p k c step = none)
    (there : q < c.prepared.length)
    (values : params = (c.preparedStatement q).params.mapIdx
      fun k value => (bound q k c step).getD value) :
    FollowsPrepared c step := by
  have modified : (c.after step).prepared =
      c.prepared.modify q fun s => { s with params } := after
  have length : (c.after step).prepared.length = c.prepared.length := by
    rw [modified, List.length_modify]
  refine ⟨Nat.le_of_eq length.symm, ?_, ?_, ?_⟩
  · intro p k hp
    exact others p k fun same => absurd there (same ▸ Nat.not_lt.mpr hp)
  · intro p s hs
    refine ⟨unprepared p, ?_⟩
    rw [modified, List.getElem?_modify, hs]
    by_cases hpq : q = p
    · subst hpq
      rw [preparedStatement, hs] at values
      simp [values]
    · simp only [others p _ fun same => hpq same.symm, mapIdx_none, hpq]
      rfl
  · intro p s hp hs
    rw [List.getElem?_eq_none (length ▸ hp)] at hs
    cases hs

end Same

theorem unsaid_of_not_setter (c : Connection) {op : Operation} (h : op.isSetter = false)
    (answers : Answers) : dataverseSet c (op, answers) = none ∧
      (∀ i, timeoutSet i c (op, answers) = none) ∧ ∀ p k, bound p k c (op, answers) = none := by
  cases op with
  | setDataverse dataverse => cases h
  | bindParam p position value => cases h
  | clearParams p => cases h
  | set i setting =>
    cases setting with
    | timeout seconds => cases h
    | _ => exact ⟨rfl, fun _ => rfl, fun _ _ => rfl⟩
  | _ => exact ⟨rfl, fun _ => rfl, fun _ _ => rfl⟩

/-- What sets nothing changes neither the settings nor, unless it prepares a statement, the prepared
statements. -/
theorem unset_after (c : Connection) {op : Operation} (h : op.isSetter = false)
    (answers : Answers) : (c.after (op, answers)).settings = c.settings ∧
      (op.isPrepare = false → (c.after (op, answers)).prepared = c.prepared) := by
  let Unset (e : Connection) : Prop :=
    e.settings = c.settings ∧ (op.isPrepare = false → e.prepared = c.prepared)
  show Unset (c.perform answers op).2
  cases c.course op with
  | executing submission i next submits executes dialogue token goes =>
    rw [perform_of_dialogue_eq dialogue]
    have grown := grown_ready c op
    refine (goes _ _).settle (P := Unset) (Q := Unset) ⟨grown.settings, fun _ => grown.prepared⟩
      ?_ ?_ answers
    · intro a b ha steady
      exact ⟨steady.settings.trans ha.1, fun hp => steady.prepared.trans (ha.2 hp)⟩
    · intro a b ha ended
      exact ⟨ended.1.settings.trans ha.1, fun hp => (ended.2 hp).trans (ha.2 hp)⟩
  | going submits goes =>
    rw [perform_eq_effect]
    refine goes.settle (P := Unset) (Q := Unset) ⟨rfl, fun _ => rfl⟩ ?_ ?_ answers
    all_goals
      intro a b ha grown
      exact ⟨grown.settings.trans ha.1, fun hp => grown.prepared.trans (ha.2 hp)⟩
  | setting submits isSetter result d dialogue tokens nextToken =>
    rw [h] at isSetter
    cases isSetter

theorem settings_setDataverse (c : Connection) (dataverse : String) (answers : Answers) :
    FollowsSettings c (.setDataverse dataverse, answers) := by
  have rest : (c.setDataverse dataverse).2.dataverse =
        ((c.setDataverse dataverse).1.toOption.map fun _ => dataverse).getD c.dataverse ∧
      (c.setDataverse dataverse).2.sqlCompat = c.sqlCompat := by
    unfold setDataverse
    split
    · exact ⟨rfl, rfl⟩
    · split <;> exact ⟨rfl, rfl⟩
  refine ⟨rest.1, rest.2, fun i => ?_⟩
  show ((c.setDataverse dataverse).2.statement i).timeout = _
  rw [statement, (c.statements_setDataverse dataverse).1]
  rfl

theorem settings_setTimeout (c : Connection) (j seconds : Nat) (answers : Answers) :
    FollowsSettings c (.set j (.timeout seconds), answers) := by
  refine ⟨rfl, rfl, fun i => ?_⟩
  show ((c.putStatement j ((c.statement j).setTimeout seconds).2).statement i).timeout =
    (if j = i then ((c.statement j).setTimeout seconds).1.toOption.map fun _ => seconds
      else none).getD (c.statement i).timeout
  by_cases hji : j = i
  · subst hji
    rw [if_pos rfl]
    unfold Statement.setTimeout Statement.change
    by_cases hclosed : (c.statement j).closed = true
    · rw [if_pos hclosed]
      exact apply_putStatement Statement.timeout rfl j
    · rw [if_neg hclosed, statement_putStatement (lt_of_open (Bool.eq_false_iff.mpr hclosed))]
      rfl
  · rw [if_neg hji, statement_putStatement_of_ne hji]
    rfl

theorem there_of_open {c : Connection} {p : Nat}
    (h : (c.statement (c.preparedStatement p).statement).closed = false) :
    p < c.prepared.length := by
  by_contra beyond
  rw [preparedStatement, List.getElem?_eq_none (Nat.le_of_not_lt beyond)] at h
  exact absurd (lt_of_open h) (Nat.lt_irrefl _)

theorem getElem?_prepared_of_open {c : Connection} {p : Nat}
    (h : (c.statement (c.preparedStatement p).statement).closed = false) :
    c.prepared[p]? = some (c.preparedStatement p) := by
  rw [preparedStatement, List.getElem?_eq_getElem (there_of_open h)]
  rfl

theorem follows_bindParam (c : Connection) (q position : Nat) (value : Param) (answers : Answers) :
    FollowsSettings c (.bindParam q position value, answers) ∧
      FollowsPrepared c (.bindParam q position value, answers) := by
  have after : c.after (.bindParam q position value, answers) =
    (c.bindParam q position value).2 := rfl
  have found (p k : Nat) : bound p k c (.bindParam q position value, answers) =
      if q = p ∧ position = k + 1 then
        (c.bindParam q position value).1.toOption.map fun _ => value
      else none := rfl
  have refused (e : ClientError) (h : c.bindParam q position value = (.error e, c)) :
      FollowsSettings c (.bindParam q position value, answers) ∧
        FollowsPrepared c (.bindParam q position value, answers) := by
    refine ⟨followsSettings_of_eq ?_ rfl fun _ => rfl, followsPrepared_of_eq ?_ (fun _ => rfl) ?_⟩
    · rw [after, h]
    · rw [after, h]
    · intro p k
      rw [found, h]
      exact ite_self none
  by_cases hclosed : (c.statement (c.preparedStatement q).statement).closed = true
  · exact refused _ (if_pos hclosed)
  by_cases hposition : position = 0 ∨ (c.preparedStatement q).params.length < position
  · exact refused _ ((if_neg hclosed).trans (if_pos hposition))
  have done : c.bindParam q position value =
      (.ok (), c.setParams q ((c.preparedStatement q).params.set (position - 1) value)) :=
    (if_neg hclosed).trans (if_neg hposition)
  refine ⟨followsSettings_of_eq ?_ rfl fun _ => rfl, ?_⟩
  · rw [after, done]
    rfl
  · refine followsPrepared_of_setParams (q := q) (by rw [after, done]) (fun _ => rfl) ?_
      (there_of_open (Bool.eq_false_iff.mpr hclosed)) ?_
    · intro p k hpq
      rw [found, if_neg fun h => hpq h.1.symm]
    · -- the parameter at an index has the position above it
      refine List.ext_getElem? fun k => ?_
      rw [List.getElem?_set', List.getElem?_mapIdx, found, done]
      have index : position - 1 = k ↔ position = k + 1 := by omega
      by_cases hk : position = k + 1
      · rw [if_pos (index.mpr hk), if_pos ⟨rfl, hk⟩]
        rfl
      · rw [if_neg fun h => hk (index.mp h), if_neg fun h => hk h.2]
        exact Option.map_id'.symm

theorem follows_clearParams (c : Connection) (q : Nat) (answers : Answers) :
    FollowsSettings c (.clearParams q, answers) ∧ FollowsPrepared c (.clearParams q, answers) := by
  have after : c.after (.clearParams q, answers) = (c.clearParams q).2 := rfl
  have found (p k : Nat) : bound p k c (.clearParams q, answers) =
      if q = p then (c.clearParams q).1.toOption.map fun _ => unbound else none := rfl
  by_cases hclosed : (c.statement (c.preparedStatement q).statement).closed = true
  · have refused : c.clearParams q = (.error Statement.closedError, c) := if_pos hclosed
    refine ⟨followsSettings_of_eq ?_ rfl fun _ => rfl, followsPrepared_of_eq ?_ (fun _ => rfl) ?_⟩
    · rw [after, refused]
    · rw [after, refused]
    · intro p k
      rw [found, refused]
      exact ite_self none
  · have done : c.clearParams q = (.ok (), c.setParams q
        (List.replicate (c.preparedStatement q).params.length unbound)) := if_neg hclosed
    refine ⟨followsSettings_of_eq ?_ rfl fun _ => rfl, ?_⟩
    · rw [after, done]
      rfl
    · refine followsPrepared_of_setParams (q := q) (by rw [after, done]) (fun _ => rfl) ?_
        (there_of_open (Bool.eq_false_iff.mpr hclosed)) ?_
      · intro p k hpq
        rw [found, if_neg fun h => hpq h.symm]
      · refine List.ext_getElem? fun k => ?_
        rw [List.getElem?_mapIdx, found, done, if_pos rfl, List.getElem?_replicate]
        split
        · next hk =>
          rw [List.getElem?_eq_getElem hk]
          rfl
        · next hk =>
          rw [List.getElem?_eq_none (Nat.le_of_not_lt hk)]
          rfl

/-- What has been compiled is added to the prepared statements without values, unless it has
failed. -/
theorem finishPrepare_cases (c : Connection) (i : Nat) (sql : String)
    (compiled : Result QueryResponse) :
    (∃ e, (c.finishPrepare i sql compiled).1 = .error e ∧
      (c.finishPrepare i sql compiled).2.prepared = c.prepared) ∨
    ∃ r positions, compiled = .ok r ∧ r.Mentions positions ∧
      (c.finishPrepare i sql compiled).1 = .ok c.prepared.length ∧
      (c.finishPrepare i sql compiled).2.prepared =
        c.prepared ++ [⟨i, sql, List.replicate (positions.max?.getD 0) unbound⟩] := by
  unfold finishPrepare
  split
  · next e _ => exact Or.inl ⟨e, rfl, (frame_closeStatement c i).prepared⟩
  · next count hcount =>
    cases compiled with
    | error e => cases hcount
    | ok r =>
      obtain ⟨positions, mentioned, rfl⟩ := QueryResponse.parameterCount_eq_ok_iff.mp hcount
      exact Or.inr ⟨r, positions, rfl, mentioned, rfl, rfl⟩

theorem prepare_cases (c : Connection) (sql : String) (answers : Answers) :
    (∃ e, ((c.prepare sql).settle answers).result = .error e ∧
      ((c.prepare sql).settle answers).connection.prepared = c.prepared) ∨
    ∃ i r positions, answers.submitted = .ok r ∧ r.Mentions positions ∧
      ((c.prepare sql).settle answers).result = .ok c.prepared.length ∧
      ((c.prepare sql).settle answers).connection.prepared =
        c.prepared ++ [⟨i, sql, List.replicate (positions.max?.getD 0) unbound⟩] := by
  have created := (grown_createStatement c).prepared
  unfold prepare
  split
  · next e d heq =>
    rw [heq] at created
    exact Or.inl ⟨e, rfl, created⟩
  · next i d heq =>
    rw [heq] at created
    split
    · exact Or.inl ⟨_, rfl, (frame_closeStatement d i).prepared.trans created⟩
    · -- the end of the execution keeps what has been prepared
      rw [← created]
      rcases finishPrepare_cases (d.endExecution i) i sql answers.submitted with
        ⟨e, failed, same⟩ | ⟨r, positions, answered, mentioned, result, prepared⟩
      · exact Or.inl ⟨e, failed, same⟩
      · exact Or.inr ⟨i, r, positions, answered, mentioned, result, prepared⟩

theorem follows_prepare (c : Connection) (sql : String) (answers : Answers) :
    FollowsPrepared c (.prepare sql, answers) := by
  have after : (c.after (.prepare sql, answers)).prepared =
    ((c.prepare sql).settle answers).connection.prepared := rfl
  have found (p : Nat) : preparation p c (.prepare sql, answers) =
      if ((c.prepare sql).settle answers).result.toOption = some p then
        answers.submitted.toOption.map fun r => (sql, r)
      else none := rfl
  rcases prepare_cases c sql answers with
    ⟨e, failed, same⟩ | ⟨i, r, positions, answered, mentioned, result, prepared⟩
  · refine followsPrepared_of_eq (after.trans same) ?_ fun _ _ => rfl
    intro p
    rw [found, failed]
    rfl
  · rw [prepared] at after
    refine ⟨?_, fun _ _ _ => rfl, ?_, ?_⟩
    · rw [after, List.length_append]
      exact Nat.le_add_right _ _
    · intro p s hs
      obtain ⟨hp, -⟩ := List.getElem?_eq_some_iff.mp hs
      refine ⟨?_, ?_⟩
      · rw [found, result, if_neg]
        intro same
        exact absurd hp (Option.some.inj same ▸ Nat.lt_irrefl _)
      · rw [after, List.getElem?_append_left hp, hs]
        exact congrArg (fun params => some { s with params }) (mapIdx_none s.params).symm
    · intro p s hp hs
      have last : p = c.prepared.length := by
        have beyond := (List.getElem?_eq_some_iff.mp hs).1
        rw [after, List.length_append] at beyond
        exact Nat.le_antisymm (Nat.lt_succ_iff.mp beyond) hp
      subst last
      rw [after, List.getElem?_concat_length] at hs
      cases hs
      refine ⟨r, positions, ?_, mentioned, rfl⟩
      rw [found, result, answered]
      exact if_pos rfl

/-- **This is what any step does.** -/
theorem follows (c : Connection) (op : Operation) (answers : Answers) :
    FollowsSettings c (op, answers) ∧ FollowsPrepared c (op, answers) := by
  cases hs : op.isSetter with
  | false =>
    obtain ⟨dataverse, timeout, bound⟩ := unsaid_of_not_setter c hs answers
    obtain ⟨settings, prepared⟩ := unset_after c hs answers
    refine ⟨followsSettings_of_eq settings dataverse timeout, ?_⟩
    cases op with
    | prepare sql => exact follows_prepare c sql answers
    | _ => exact followsPrepared_of_eq (prepared rfl) (fun _ => rfl) bound
  | true =>
    cases op with
    | setDataverse dataverse =>
      have prepared : (c.setDataverse dataverse).2.prepared = c.prepared := by
        unfold setDataverse
        split
        · rfl
        · split <;> rfl
      exact ⟨settings_setDataverse c dataverse answers,
        followsPrepared_of_eq prepared (fun _ => rfl) fun _ _ => rfl⟩
    | bindParam q position value => exact follows_bindParam c q position value answers
    | clearParams q => exact follows_clearParams c q answers
    | set i setting =>
      cases setting with
      | timeout seconds =>
        exact ⟨settings_setTimeout c i seconds answers,
          followsPrepared_of_eq rfl (fun _ => rfl) fun _ _ => rfl⟩
      | _ => cases hs
    | _ => cases hs

/-! ## Sessions -/

/-- A prepared statement holds what has been prepared and what has been bound since. -/
def Recalled (s : PreparedStatement) (prepared : Option (String × QueryResponse))
    (value : Nat → Option Param) : Prop :=
  ∃ r positions, prepared = some (s.sql, r) ∧ r.Mentions positions ∧
    s.params = (List.range (positions.max?.getD 0)).map fun k => (value k).getD unbound

/-- What a session has said last is what its connection holds. -/
structure Recalls (start : Connection) (session : List (Operation × Answers)) : Prop where
  dataverse : (start.run session).dataverse =
    (latest dataverseSet start session).getD start.dataverse
  sqlCompat : (start.run session).sqlCompat = start.sqlCompat
  timeout : ∀ i, ((start.run session).statement i).timeout =
    (latest (timeoutSet i) start session).getD 0
  prepared : ∀ p s, (start.run session).prepared[p]? = some s →
    Recalled s (latest (preparation p) start session) fun k => latest (bound p k) start session
  unbound : ∀ p k, (start.run session).prepared.length ≤ p →
    latest (bound p k) start session = none

theorem Recalls.step {start : Connection} {session : List (Operation × Answers)}
    (h : Recalls start session) (step : Operation × Answers) :
    Recalls start (session ++ [step]) := by
  have run : start.run (session ++ [step]) = (start.run session).after step :=
    run_append start session [step]
  obtain ⟨settings, prepared⟩ := follows (start.run session) step.1 step.2
  refine ⟨?_, ?_, ?_, ?_, ?_⟩
  · rw [run, settings.dataverse, h.dataverse, latest_concat, Option.getD_or]
  · rw [run, settings.sqlCompat, h.sqlCompat]
  · intro i
    rw [run, settings.timeout, h.timeout, latest_concat, Option.getD_or]
  · intro p s hs
    rw [run] at hs
    simp only [latest_concat]
    cases hold : (start.run session).prepared[p]? with
    | some old =>
      obtain ⟨unprepared, kept⟩ := prepared.kept p old hold
      rw [kept] at hs
      cases hs
      obtain ⟨r, positions, same, mentioned, values⟩ := h.prepared p old hold
      refine ⟨r, positions, ?_, mentioned, ?_⟩
      · rw [unprepared]
        exact same
      · refine List.ext_getElem? fun k => ?_
        rw [List.getElem?_mapIdx, values, List.getElem?_map, List.getElem?_map]
        cases hk : (List.range (positions.max?.getD 0))[k]? with
        | none => rfl
        | some k' =>
          obtain ⟨-, rfl⟩ := List.getElem?_eq_some_iff.mp hk
          simp [Option.getD_or]
    | none =>
      -- It comes with this step, and nothing can have been bound to its number before.
      have hp : (start.run session).prepared.length ≤ p := List.getElem?_eq_none_iff.mp hold
      obtain ⟨r, positions, found, mentioned, values⟩ := prepared.come p s hp hs
      refine ⟨r, positions, by rw [found]; rfl, mentioned, ?_⟩
      have no (k : Nat) : (bound p k (start.run session) step).or
          (latest (bound p k) start session) = none := by
        rw [prepared.unbound p k hp, h.unbound p k hp]
        rfl
      simp only [no, values, Option.getD_none]
      rw [List.map_const', List.length_range]
  · intro p k hp
    rw [run] at hp
    have before := Nat.le_trans prepared.length hp
    rw [latest_concat, prepared.unbound p k before, h.unbound p k before]
    rfl

theorem recalls_create (config : ClientConfig) (server : Option String)
    (session : List (Operation × Answers)) : Recalls (create config server) session := by
  induction session using List.reverseRecOn with
  | nil =>
    refine ⟨rfl, rfl, fun _ => rfl, ?_, fun _ _ _ => rfl⟩
    intro p s hs
    cases hs
  | append_singleton session step ih => exact ih.step step

/-! ## Submissions -/

/-- The prepared statement that is executed, if it is one. -/
def preparedOf : Executable → Option Nat
  | .text _ _ => none
  | .prepared p => some p

/-- The prepared statement that an operation has executed, if it is one. -/
def preparedExecuted : Operation → Option Nat
  | .executeQuery what | .executeUpdate what | .execute what => preparedOf what
  | _ => none

theorem submission_eq_ok {c : Connection} {i : Nat} {purpose : Purpose} {sql : String}
    {params : List Param} {submission : Submission}
    (h : c.submission i purpose sql params = .ok submission) :
    submission = ⟨sql, params, (c.statement i).token, {
      dataverse := some c.dataverse
      timeout := (c.statement i).timeout
      forceReadOnly := purpose = .query
      compileOnly := purpose = .compile
      sqlCompat := c.sqlCompat }⟩ := by
  unfold Connection.submission at h
  simp only at h
  split at h
  · cases h
  · split at h
    · cases h
    · cases h
      rfl

theorem request_cases (c : Connection) (what : Executable) (purpose : Purpose) :
    (preparedOf what = none → (what.request c purpose).params = []) ∧
    ∀ p, preparedOf what = some p →
      (what.request c purpose).statement = (c.preparedStatement p).statement ∧
        (what.request c purpose).sql = (c.preparedStatement p).sql ∧
          (what.request c purpose).params = (c.preparedStatement p).params := by
  cases what with
  | text i sql => exact ⟨fun _ => rfl, nofun⟩
  | prepared p =>
    refine ⟨nofun, ?_⟩
    intro p' same
    cases same
    exact ⟨rfl, rfl, rfl⟩

/-- What is asked for, by the kind of the operation. -/
theorem request?_cases {c : Connection} {op : Operation} {q : Request}
    (h : c.request? op = some q) :
    decide (q.purpose = .query) = op.isExecuteQuery ∧
    decide (q.purpose = .compile) = op.isPrepare ∧
    (preparedExecuted op = none → q.params = []) ∧
    ∀ p, preparedExecuted op = some p → c.ready op = c ∧
      q.statement = (c.preparedStatement p).statement ∧ q.sql = (c.preparedStatement p).sql ∧
        q.params = (c.preparedStatement p).params := by
  cases op with
  | prepare sql =>
    cases h
    exact ⟨rfl, rfl, fun _ => rfl, nofun⟩
  | executeQuery what | executeUpdate what | execute what =>
    cases h
    have cases := request_cases c what
    rw [what.purpose_request]
    exact ⟨rfl, rfl, (cases _).1, fun p hp => ⟨rfl, (cases _).2 p hp⟩⟩
  | _ => cases h

/-- What is submitted has been asked for, on the connection as the operation has made it ready. -/
theorem exists_request_of_submit {c : Connection} {op : Operation} {answers : Answers}
    {submission : Submission} (submitted : .submit submission ∈ (c.perform answers op).1) :
    ∃ q, c.request? op = some q ∧ c.executes op = some q.statement ∧
      (c.ready op).submission q.statement q.purpose q.sql q.params = .ok submission := by
  have submits := submission_mem_perform.mp submitted
  obtain ⟨q, request, sent⟩ := Option.bind_eq_some_iff.mp submits
  refine ⟨q, request, ?_, ?_⟩
  · rw [executes, submits, request]
    rfl
  · cases hq : (c.ready op).submission q.statement q.purpose q.sql q.params with
    | error e =>
      rw [hq] at sent
      cases sent
    | ok sub =>
      rw [hq] at sent
      cases sent
      rfl

/-- **A submission carries what has been said last.** The dataverse is that of the last successful
setting, or else that of the configuration; the timeout is the last one of the statement. The
parameters of a prepared statement are as many as the greatest position in the answer to its
compilation, each with the value that it has been bound to last, or null; there are no others. -/
theorem submission_recalls (config : ClientConfig) (server : Option String)
    (before : List (Operation × Answers)) (op : Operation) (answers : Answers)
    (submission : Submission) :
    let start := create config server
    let c := start.run before
    .submit submission ∈ (c.perform answers op).1 →
      (∃ i, c.executes op = some i ∧ submission.options = {
        dataverse := some ((latest dataverseSet start before).getD
          ((config.dataverse.filter fun d => d ≠ "").getD "Default"))
        timeout := (latest (timeoutSet i) start before).getD 0
        forceReadOnly := op.isExecuteQuery
        compileOnly := op.isPrepare
        sqlCompat := config.sqlCompat }) ∧
      (preparedExecuted op = none → submission.params = []) ∧
      ∀ p, preparedExecuted op = some p → ∃ r positions,
        latest (preparation p) start before = some (submission.sql, r) ∧ r.Mentions positions ∧
          submission.params = (List.range (positions.max?.getD 0)).map fun k =>
            (latest (bound p k) start before).getD (.value .null) := by
  intro start c submitted
  have recalls : Recalls start before := recalls_create config server before
  obtain ⟨q, request, executes, carried⟩ := exists_request_of_submit submitted
  -- A statement that `prepare` makes on the way has no settings yet, as if it had never been made.
  obtain ⟨dataverse, rest⟩ := Prod.mk.inj (grown_ready c op).settings
  obtain ⟨sqlCompat, timeout⟩ := Prod.mk.inj rest
  obtain ⟨query, compile, plain, prepared⟩ := request?_cases request
  have isOpen := open_of_submission carried
  obtain rfl := submission_eq_ok carried
  refine ⟨⟨q.statement, executes, ?_⟩, plain, ?_⟩
  · rw [SubmitOptions.mk.injEq]
    refine ⟨?_, ?_, query, compile, sqlCompat.trans recalls.sqlCompat⟩
    · rw [dataverse, recalls.dataverse]
      rfl
    · exact (congrFun timeout q.statement).trans (recalls.timeout q.statement)
  · intro p hp
    obtain ⟨ready, statement, sql, params⟩ := prepared p hp
    rw [ready, statement] at isOpen
    obtain ⟨r, positions, same, mentioned, values⟩ :=
      recalls.prepared p _ (getElem?_prepared_of_open isOpen)
    exact ⟨r, positions, by rw [sql]; exact same, mentioned, params.trans values⟩

/-- A service that finds two parameters in whatever it compiles. -/
def pairService : Answers where
  submitted := .ok ⟨some .success,
    some ⟨some .query, [.int ⟨2, by decide, by decide⟩, .int ⟨1, by decide, by decide⟩], false⟩,
    none, none, [], [], []⟩
  fetched := .error .invalidStatementCategory
  cancelled := .ok ()
  ping := true
  closed := .ok ()

/-- A session in which everything is said more than once, and something in vain. -/
def saidTwice : List (Operation × Answers) :=
  [.setDataverse "Old", .setDataverse "New", .setDataverse "", .prepare "SELECT ?, ?",
    .set 0 (.timeout 7), .set 0 (.timeout 9), .bindParam 0 1 (.value (.string "a")),
    .bindParam 0 2 (.value (.string "b")), .clearParams 0, .bindParam 0 2 (.value (.string "c")),
    .bindParam 0 3 (.value (.string "d"))].map (·, pairService)

theorem saidTwice_recalls :
    let start := create .standard none
    let c := start.run saidTwice
    ∃ submission, .submit submission ∈ (c.perform pairService (.executeQuery (.prepared 0))).1 ∧
      submission.options = ⟨some "New", 9, true, false, true⟩ ∧
      submission.params = [.value .null, .value (.string "c")] ∧
      ∃ r, latest (preparation 0) start saidTwice = some ("SELECT ?, ?", r) := by
  have submits : ((create .standard none).run saidTwice).submits? (.executeQuery (.prepared 0)) =
      some ⟨"SELECT ?, ?", [.value .null, .value (.string "c")], 1,
        ⟨some "New", 9, true, false, true⟩⟩ := by rfl
  have submitted := (@submission_mem_perform _ _ pairService _).mpr submits
  obtain ⟨-, -, prepared⟩ := submission_recalls .standard none saidTwice
    (.executeQuery (.prepared 0)) pairService _ submitted
  obtain ⟨r, positions, same, -, -⟩ := prepared 0 (by rfl)
  exact ⟨_, submitted, rfl, rfl, r, same⟩

end Connection

end QueryClient
