import Mathlib
import QueryClient.Scenario.Exchange

/-!
# What a reply to a submission comes to

The status line of a reply, the status that its body gives and the errors that the body lists may
all say different things. `Verdict` lists what the caller is told by what the reply holds, and
`submitAnswer_eq_iff` says that this is so for every reply. Main statement: `submit_verdict`.
-/

namespace QueryClient

namespace Text

/-! ## Letters of either case -/

theorem toNat_toUpper (c : Char) :
    c.toUpper.toNat = if 97 ≤ c.toNat ∧ c.toNat ≤ 122 then c.toNat - 32 else c.toNat := by
  have hrange : 'a'.val ≤ c.val ∧ c.val ≤ 'z'.val ↔ 97 ≤ c.toNat ∧ c.toNat ≤ 122 := by
    simp [UInt32.le_iff_toNat_le]
  have hshift : ('A'.val - 'a'.val).toNat = 4294967264 := by decide
  have hval : c.val.toNat = c.toNat := rfl
  unfold Char.toUpper
  split
  · next h =>
    rw [hrange] at h
    rw [if_pos h]
    show (c.val + ('A'.val - 'a'.val)).toNat = c.toNat - 32
    rw [UInt32.toNat_add, hshift]
    omega
  · next h =>
    rw [hrange] at h
    rw [if_neg h]

theorem toNat_toLower (c : Char) :
    c.toLower.toNat = if 65 ≤ c.toNat ∧ c.toNat ≤ 90 then c.toNat + 32 else c.toNat := by
  have hrange : c.val ≥ 'A'.val ∧ c.val ≤ 'Z'.val ↔ 65 ≤ c.toNat ∧ c.toNat ≤ 90 := by
    simp [UInt32.le_iff_toNat_le]
  have hshift : ('a'.val - 'A'.val).toNat = 32 := by decide
  have hval : c.val.toNat = c.toNat := rfl
  unfold Char.toLower
  split
  · next h =>
    rw [hrange] at h
    rw [if_pos h]
    show (c.val + ('a'.val - 'A'.val)).toNat = c.toNat + 32
    rw [UInt32.toNat_add, hshift]
    omega
  · next h =>
    rw [hrange] at h
    rw [if_neg h]

/-- A capital is the upper case of itself and of its small letter, and of nothing else. -/
theorem toUpper_eq_iff {c d : Char} (h : c.isUpper = true) :
    d.toUpper = c ↔ d = c ∨ d = c.toLower := by
  have hc : 65 ≤ c.toNat ∧ c.toNat ≤ 90 := by
    simpa [Char.isUpper, UInt32.le_iff_toNat_le] using h
  rw [← Char.toNat_inj, ← Char.toNat_inj, ← Char.toNat_inj, toNat_toUpper, toNat_toLower,
    if_pos hc]
  split <;> omega

/-- The text is the word in capitals, each of them in upper or in lower case. -/
def InAnyCase (word cs : List Char) : Prop :=
  List.Forall₂ (fun c d => d = c ∨ d = c.toLower) word cs

theorem upper_eq_iff {word cs : List Char} (h : ∀ c ∈ word, c.isUpper = true) :
    upper cs = word ↔ InAnyCase word cs := by
  unfold InAnyCase
  induction word generalizing cs with
  | nil => simp [upper]
  | cons c word ih =>
    have hc := h c List.mem_cons_self
    have hword := fun c' hc' => h c' (List.mem_cons_of_mem c hc')
    cases cs with
    | nil => simp [upper]
    | cons d cs =>
      rw [List.forall₂_cons, ← ih hword, ← toUpper_eq_iff hc]
      simp [upper]

end Text

namespace ResponseStatus

/-- The name of a status, in capitals. -/
def word : ResponseStatus → String
  | .running => "RUNNING"
  | .success => "SUCCESS"
  | .timeout => "TIMEOUT"
  | .failed => "FAILED"
  | .fatal => "FATAL"

theorem isUpper_of_mem_word (s : ResponseStatus) : ∀ c ∈ s.word.toList, c.isUpper = true := by
  have hall : s.word.toList.all Char.isUpper = true := by
    cases s <;> rfl
  exact List.all_eq_true.mp hall

theorem ofName?_eq_some_iff {name : String} {s : ResponseStatus} :
    ofName? name = some s ↔ Text.InAnyCase s.word.toList name.toList := by
  rw [← Text.upper_eq_iff s.isUpper_of_mem_word]
  constructor
  · intro h
    unfold ofName? at h
    split at h
    -- no other name is that of a status
    case h_6 => cases h
    all_goals
      next hname =>
        cases h
        exact String.ofList_inj.mp (hname.trans String.ofList_toList.symm)
  · intro h
    unfold ofName?
    rw [h, String.ofList_toList]
    cases s <;> rfl

end ResponseStatus

namespace QueryResponse

open Json TreeReader

/-! ## The status that a body gives -/

/-- The name of the status that a body gives. -/
def statusName? (body : List UInt8) : Option String := do
  let t ← Tree.read? body
  let r ← record?
    ["status", "plans", "signature", "handle", "results", "errors", "warnings"] depthLimit t
  let status ← Members.get? "status" r.2
  string r.1 status

/-- The body gives this status, in letters of any case. -/
def HasStatus (status : ResponseStatus) (body : List UInt8) : Prop :=
  ∃ name, statusName? body = some name ∧ Text.InAnyCase status.word.toList name.toList

/-- A field that is null or left out counts as none. -/
theorem field?_readLenient {α : Type} {ofName? : String → Option α} {name : String}
    {record : Nat × Members Tree} {a : Option α}
    (h : field? (readLenient ofName?) none name record = some a) :
    a = ((Members.get? name record.2).bind (TreeReader.string record.1)).bind ofName? := by
  unfold field? at h
  split at h
  · next t ht =>
    rw [ht, Option.bind_some]
    cases t with
    | null => exact (Option.some.inj h).symm
    | string parts =>
      obtain ⟨given, hgiven, rfl⟩ := Option.map_eq_some_iff.mp h
      obtain ⟨s, hs, rfl⟩ := Option.map_eq_some_iff.mp hgiven
      rw [hs]
    | bool | number | array | object => cases h
  · next ht =>
    rw [ht]
    exact (Option.some.inj h).symm

theorem status_of_read {body : List UInt8} {r : QueryResponse} (h : read? body = some r) :
    r.status = (statusName? body).bind ResponseStatus.ofName? := by
  obtain ⟨t, ht, h⟩ := Option.bind_eq_some_iff.mp h
  obtain ⟨record, hrecord, h⟩ := Option.bind_eq_some_iff.mp h
  obtain ⟨status, hstatus, h⟩ := Option.bind_eq_some_iff.mp h
  have hr : r.status = status := by
    simp only [Option.bind_eq_bind, Option.bind_eq_some_iff, Option.pure_def,
      Option.some.injEq] at h
    obtain ⟨-, -, -, -, -, -, -, -, -, -, -, -, rfl⟩ := h
    rfl
  rw [hr, field?_readLenient hstatus]
  simp only [statusName?, ht, hrecord, Option.bind_eq_bind, Option.bind_some]

theorem status_eq_some_iff {body : List UInt8} {r : QueryResponse} (h : read? body = some r)
    {status : ResponseStatus} : r.status = some status ↔ HasStatus status body := by
  rw [status_of_read h, Option.bind_eq_some_iff]
  simp only [ResponseStatus.ofName?_eq_some_iff, HasStatus]

end QueryResponse

/-! ## Verdicts -/

/-- The reply has arrived with a body that is looked at, and the body is this response. -/
structure HttpReply.Brings (reply : HttpReply) (r : QueryResponse) : Prop where
  status : reply.status ∈ [200, 400, 500, 503]
  complete : reply.truncated = false
  read : QueryResponse.read? reply.body = some r

/-- The service says twice that the statement is done: in front of the body and in it. -/
def HttpReply.Done (reply : HttpReply) : Prop :=
  reply.status = 200 ∧ QueryResponse.HasStatus .success reply.body

/-- What the caller is told on a reply. -/
inductive Verdict (p : TransientPolicy) (reply : HttpReply) : Result QueryResponse → Prop
  /-- The credentials are refused, whatever the body holds. -/
  | refused : reply.status ∈ [401, 403] → Verdict p reply (.error .unauthorized)
  /-- The status is none that is expected, whatever the body holds. -/
  | unexpected : reply.status ∉ [200, 400, 401, 403, 500, 503] →
      Verdict p reply (.error (.protocol reply.statusLine))
  /-- The body breaks off. -/
  | broken : reply.status ∈ [200, 400, 500, 503] → reply.truncated = true →
      Verdict p reply (.error (p.httpError .broken "failed to read response"))
  /-- The body is no response. -/
  | unreadable : reply.status ∈ [200, 400, 500, 503] → reply.truncated = false →
      QueryResponse.read? reply.body = none →
      Verdict p reply (.error (.protocol "failed to parse response"))
  /-- The statement is done. -/
  | done {r} : reply.Brings r → reply.Done → Verdict p reply (.ok r)
  /-- The statement has taken too long, whatever errors are listed. -/
  | late {r} : reply.Brings r → QueryResponse.HasStatus .timeout reply.body →
      Verdict p reply (.error (.timeout "statement execution timed out"))
  /-- The statement has failed, and the first error says why. -/
  | failed {r code text rest} : reply.Brings r → ¬reply.Done →
      ¬QueryResponse.HasStatus .timeout reply.body → r.errors = ⟨code, text⟩ :: rest →
      Verdict p reply (.error (.statement code text))
  /-- The statement has failed, and nothing says why. -/
  | unexplained {r} : reply.Brings r → ¬reply.Done →
      ¬QueryResponse.HasStatus .timeout reply.body → r.errors = [] →
      Verdict p reply (.error (.protocol reply.statusLine))

theorem HttpReply.Brings.done_iff {reply : HttpReply} {r : QueryResponse} (h : reply.Brings r) :
    reply.status = 200 ∧ r.status = some .success ↔ reply.Done :=
  and_congr_right' (QueryResponse.status_eq_some_iff h.read)

namespace HttpTransport

variable {t : HttpTransport} {reply : HttpReply}

/-! ### The answer by the reply -/

theorem submitAnswer_refused (h : reply.status ∈ [401, 403]) :
    t.submitAnswer (.ok reply) = .error .unauthorized := by
  have hrefusal : reply.isRefusal = true := by
    simpa [HttpReply.isRefusal] using h
  simp only [submitAnswer, hrefusal, if_true]

theorem submitAnswer_unexpected (h : reply.status ∉ [200, 400, 401, 403, 500, 503]) :
    t.submitAnswer (.ok reply) = .error (.protocol reply.statusLine) := by
  simp only [List.mem_cons, List.not_mem_nil, or_false, not_or] at h
  have hrefusal : reply.isRefusal = false := by
    simp [HttpReply.isRefusal, h]
  have hstatus : [200, 400, 500, 503].contains reply.status = false := by
    simp [h]
  simp only [submitAnswer, hrefusal, hstatus, Bool.false_eq_true, if_false, not_false_eq_true,
    if_true]

/-- Behind one of these statuses the body decides. -/
theorem expected_of_mem (h : reply.status ∈ [200, 400, 500, 503]) :
    reply.isRefusal = false ∧ [200, 400, 500, 503].contains reply.status = true := by
  constructor
  · simp only [List.mem_cons, List.not_mem_nil, or_false] at h
    simp only [HttpReply.isRefusal, Bool.or_eq_false_iff, decide_eq_false_iff_not]
    omega
  · simpa using h

theorem submitAnswer_broken (h : reply.status ∈ [200, 400, 500, 503])
    (hcut : reply.truncated = true) :
    t.submitAnswer (.ok reply) = .error (t.policy.httpError .broken "failed to read response") := by
  obtain ⟨hrefusal, hstatus⟩ := expected_of_mem h
  simp only [submitAnswer, hrefusal, hstatus, hcut, Bool.false_eq_true, if_false,
    not_true_eq_false, if_true]

theorem submitAnswer_unreadable (h : reply.status ∈ [200, 400, 500, 503])
    (complete : reply.truncated = false) (hread : QueryResponse.read? reply.body = none) :
    t.submitAnswer (.ok reply) = .error (.protocol "failed to parse response") := by
  obtain ⟨hrefusal, hstatus⟩ := expected_of_mem h
  simp only [submitAnswer, hrefusal, hstatus, complete, hread, Bool.false_eq_true, if_false,
    not_true_eq_false]

/-- A response is judged by its status first and by its errors last. -/
theorem submitAnswer_of_brings {r : QueryResponse} (h : reply.Brings r) :
    t.submitAnswer (.ok reply) =
      if reply.status = 200 ∧ r.status = some .success then .ok r
      else if r.status = some .timeout then .error (.timeout "statement execution timed out")
      else .error (r.firstError.getD (.protocol reply.statusLine)) := by
  obtain ⟨hrefusal, hstatus⟩ := expected_of_mem h.status
  simp only [submitAnswer, hrefusal, hstatus, h.complete, h.read, Bool.false_eq_true, if_false,
    not_true_eq_false]

/-- The errors count only if the statement is neither done nor late. -/
theorem submitAnswer_of_failed {r : QueryResponse} (h : reply.Brings r) (hdone : ¬reply.Done)
    (hlate : ¬QueryResponse.HasStatus .timeout reply.body) :
    t.submitAnswer (.ok reply) = .error (r.firstError.getD (.protocol reply.statusLine)) := by
  have htimeout := mt (QueryResponse.status_eq_some_iff h.read).mp hlate
  rw [submitAnswer_of_brings h, if_neg (mt h.done_iff.mp hdone), if_neg htimeout]

theorem submitAnswer_of_verdict {result : Result QueryResponse}
    (h : Verdict t.policy reply result) : t.submitAnswer (.ok reply) = result := by
  cases h with
  | refused h => exact submitAnswer_refused h
  | unexpected h => exact submitAnswer_unexpected h
  | broken h hcut => exact submitAnswer_broken h hcut
  | unreadable h complete hread => exact submitAnswer_unreadable h complete hread
  | done brings hdone =>
    rw [submitAnswer_of_brings brings, if_pos (brings.done_iff.mpr hdone)]
  | late brings hlate =>
    -- a statement that is late is not done, for its status has one name only
    have htimeout := (QueryResponse.status_eq_some_iff brings.read).mpr hlate
    rw [submitAnswer_of_brings brings, if_neg (by simp [htimeout]), if_pos htimeout]
  | failed brings hdone hlate herrors =>
    rw [submitAnswer_of_failed brings hdone hlate, QueryResponse.firstError, herrors]
    rfl
  | unexplained brings hdone hlate herrors =>
    rw [submitAnswer_of_failed brings hdone hlate, QueryResponse.firstError, herrors]
    rfl

/-! ### Every reply has a verdict -/

theorem exists_verdict_of_brings {r : QueryResponse} (p : TransientPolicy) (h : reply.Brings r) :
    ∃ result, Verdict p reply result := by
  by_cases hdone : reply.Done
  · exact ⟨_, .done h hdone⟩
  · by_cases hlate : QueryResponse.HasStatus .timeout reply.body
    · exact ⟨_, .late h hlate⟩
    · cases herrors : r.errors with
      | nil => exact ⟨_, .unexplained h hdone hlate herrors⟩
      | cons m rest => exact ⟨_, .failed h hdone hlate herrors⟩

theorem exists_verdict (p : TransientPolicy) (reply : HttpReply) :
    ∃ result, Verdict p reply result := by
  -- the body is asked only behind a status that leaves it the decision
  by_cases hrefused : reply.status ∈ [401, 403]
  · exact ⟨_, .refused hrefused⟩
  · by_cases hstatus : reply.status ∈ [200, 400, 500, 503]
    · cases htruncated : reply.truncated with
      | true => exact ⟨_, .broken hstatus htruncated⟩
      | false =>
        cases hread : QueryResponse.read? reply.body with
        | none => exact ⟨_, .unreadable hstatus htruncated hread⟩
        | some r => exact exists_verdict_of_brings p ⟨hstatus, htruncated, hread⟩
    · refine ⟨_, .unexpected ?_⟩
      simp only [List.mem_cons, List.not_mem_nil, or_false] at hrefused hstatus ⊢
      omega

theorem submitAnswer_eq_iff {result : Result QueryResponse} :
    t.submitAnswer (.ok reply) = result ↔ Verdict t.policy reply result := by
  constructor
  · rintro rfl
    obtain ⟨result, h⟩ := exists_verdict t.policy reply
    rw [submitAnswer_of_verdict h]
    exact h
  · exact submitAnswer_of_verdict

/-- A response is returned if and only if it is one and the service says twice that all is well. -/
theorem submitAnswer_eq_ok_iff {r : QueryResponse} :
    t.submitAnswer (.ok reply) = .ok r ↔
      reply.truncated = false ∧ reply.status = 200 ∧
        QueryResponse.read? reply.body = some r ∧ QueryResponse.HasStatus .success reply.body := by
  rw [submitAnswer_eq_iff]
  constructor
  · intro h
    cases h with
    | done brings hdone => exact ⟨brings.complete, hdone.1, brings.read, hdone.2⟩
  · rintro ⟨complete, hstatus, hread, hsuccess⟩
    exact .done ⟨by simp [hstatus], complete, hread⟩ ⟨hstatus, hsuccess⟩

end HttpTransport

namespace Scenario.Link

/-- **What a submission comes to.** Whatever the status of the reply and whatever its body: the
caller is told what `Verdict` says and nothing else. In particular a response is returned if and
only if the status is 200 and the body has arrived, is a response and gives the status of
success. -/
theorem submit_verdict {l : Link} {sql execution : String} {params : List Param}
    {options : SubmitOptions} {request : HttpRequest} {reply : HttpReply}
    (asked : l.transport.submitRequest sql params execution options = .ok request)
    (answered : l.server.exchange.1 = .ok reply) :
    (∀ result, (l.submit sql params execution options).1 = result ↔
      Verdict l.transport.policy reply result) ∧
    ∀ r, (l.submit sql params execution options).1 = .ok r ↔
      reply.truncated = false ∧ reply.status = 200 ∧
        QueryResponse.read? reply.body = some r ∧
        QueryResponse.HasStatus .success reply.body := by
  have hsubmit : (l.submit sql params execution options).1 =
      l.transport.submitAnswer (.ok reply) := by
    rw [submit, asked, ← answered]
    rfl
  rw [hsubmit]
  exact ⟨fun result => HttpTransport.submitAnswer_eq_iff,
    fun r => HttpTransport.submitAnswer_eq_ok_iff⟩

/-- The body says that all is well and lists an error. -/
def disputedBody : List UInt8 :=
  Text.Utf8.encode
    "\x7b\"status\":\"Success\",\"errors\":[\x7b\"code\":7,\"msg\":\"bad\"\x7d]\x7d".toList

/-- A service that replies so under the status of one that is not available. -/
def disputed : Link where
  transport :=
    let address (path : List String) : Url :=
      ⟨"http", [], [], .domain "localhost".toList, some 19002, path.map String.toList, none, none⟩
    ⟨address ["query", "service"], "http://localhost:19002/query/service/result",
      address ["admin", "requests"], none, none, 0, .never, false⟩
  server := ⟨[⟨503, none, disputedBody, none, false, false, .http10⟩], false⟩

theorem submit_disputed :
    (∃ request, disputed.transport.submitRequest "select 1" [] "e" ⟨none, 0, false, false, false⟩ =
      .ok request) ∧
    disputed.server.exchange.1 = .ok ⟨.http10, 503, none, disputedBody, false⟩ ∧
    (disputed.submit "select 1" [] "e" ⟨none, 0, false, false, false⟩).1 =
      .error (.statement 7 "bad") := by
  have hasked : ∃ request, disputed.transport.submitRequest "select 1" [] "e"
      ⟨none, 0, false, false, false⟩ = .ok request := ⟨_, rfl⟩
  have answered : disputed.server.exchange.1 = .ok ⟨.http10, 503, none, disputedBody, false⟩ := rfl
  have hread : QueryResponse.read? disputedBody =
      some ⟨some .success, none, none, none, [], [⟨7, "bad"⟩], []⟩ := by cbv
  obtain ⟨request, asked⟩ := hasked
  have hlate : ¬QueryResponse.HasStatus .timeout disputedBody := by
    rw [← QueryResponse.status_eq_some_iff hread]
    decide
  refine ⟨⟨request, asked⟩, answered, ((submit_verdict asked answered).1 _).mpr ?_⟩
  exact .failed ⟨by decide, rfl, hread⟩ (fun h => absurd h.1 (by decide)) hlate rfl

end Scenario.Link

end QueryClient
