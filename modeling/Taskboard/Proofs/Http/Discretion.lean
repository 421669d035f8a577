/-
What failures tell. The text that a database gives with a failure never reaches a client: a response goes by no more
of it than whether a constraint failed, and by that only where a new agent is added. Every other failure, and every
row that cannot be read, is reported by one and the same response, and so is every refusal (`answer_discreet`).
-/
import Taskboard.Proofs.Http.Faults
import Taskboard.Proofs.Storage.Muting

namespace Taskboard.Http

open Taskboard.Flow Taskboard.Endpoint

variable {request : Request} {action : Action} {ask : Ask}

/-! ## Reports -/

/-- Whether a row is added. -/
def adds : Ask → Bool
  | .write ⟨.insert, _, _⟩ => true
  | _ => false

/-- Whether a request adds an agent with a payload that can be read. -/
def AddsAgent (request : Request) (action : Action) (ask : Ask) : Prop :=
  action = .createAgent ∧ adds ask ∧ ∃ payload, request.payload NewAgent.ofJson? = .ok payload

/-- A new agent that a constraint refuses is reported by its name. -/
theorem report_of_refused {payload : NewAgent} (hpayload : request.payload NewAgent.ofJson? = .ok payload)
    (hadds : adds ask) (text : String) :
    Response.ofFailure (Action.createAgent.told request ask (.constraint text)) =
      nameTaken (Text.trim payload.name) := by
  unfold adds at hadds
  split at hadds
  · simp only [Action.told, hpayload]
    rfl
  · cases hadds

/-- Any other error is reported as a failure inside. -/
theorem report_of_other {e : StorageError} (h : AddsAgent request action ask → ∀ text, e ≠ .constraint text) :
    Response.ofFailure (action.told request ask e) = internalError := by
  unfold Action.told
  split
  · rename_i payload _ _ hpayload
    exact absurd rfl (h ⟨rfl, rfl, _, by assumption⟩ _)
  · rfl

/-- A report goes by the kind of an error and not by its text. -/
theorem report_muted (e : StorageError) :
    Response.ofFailure (action.told request ask e.muted) = .ofFailure (action.told request ask e) := by
  cases e with
  | decode cause => rfl
  | backend text => rw [report_of_other (by rintro - _ ⟨⟩), report_of_other (by rintro - _ ⟨⟩)]
  | constraint text =>
    by_cases hagent : AddsAgent request action ask
    · obtain ⟨rfl, hadds, payload, hpayload⟩ := hagent
      rw [report_of_refused hpayload hadds]
      exact report_of_refused hpayload hadds _
    · rw [report_of_other fun h => absurd h hagent, report_of_other fun h => absurd h hagent]

/-- Every refusal is reported alike. -/
theorem report_eq_forbidden {failure : Failure} (h : (Response.ofFailure failure).status = 403) :
    Response.ofFailure failure = forbidden := by
  cases failure with
  | forbidden cause => rfl
  | _ => cases h

/-! ## Answers -/

variable {σ : Type} {store : Store σ} {state : σ} {source : Entropy} {config : Config} {boundName : String}

/-- A database is asked only for an action, where it is bound and there is a token. -/
theorem asks_with_token {x : Exchange} (hx : x ∈ (answer config boundName request).history store state source) :
    ∃ action token, request.action? = some action ∧ action ≠ .health ∧ config.databaseBinding = boundName ∧
      request.headers.token? = some token := by
  unfold answer at hx
  split at hx
  · cases hx
  · rename_i place hplace
    split at hx
    · cases hx
    · cases hx
    · rename_i action hagent haction
      unfold serve at hx
      split at hx
      · rename_i hbinding
        cases htoken : request.headers.token? with
        | none =>
          rw [htoken] at hx
          cases hx
        | some token => exact ⟨action, token, Option.bind_eq_some_iff.2 ⟨place, hplace, haction⟩, hagent, hbinding, rfl⟩
      · cases hx

/-- A row is added only by a payload that can be read. -/
theorem exists_payload (hcreate : request.action? = some .createAgent) {x : Exchange}
    (hx : x ∈ (answer config boundName request).history store state source) (hadds : adds x.ask) :
    ∃ payload, request.payload NewAgent.ofJson? = .ok payload := by
  obtain ⟨action, token, haction, hagent, hbinding, htoken⟩ := asks_with_token hx
  cases hcreate.symm.trans haction
  cases hpayload : request.payload NewAgent.ofJson? with
  | ok payload => exact ⟨payload, rfl⟩
  | error e =>
    -- Only the lookup of the caller is left, and it adds nothing.
    have hadmitted : ∀ caller state, (admitted config request .createAgent caller).history store state source = [] := by
      intro caller state
      cases caller with
      | error failure => rfl
      | ok actor =>
        simp only [admitted, perform, hpayload]
        rfl
    rw [answer_of_action haction hagent, serve_of_token hbinding htoken] at hx
    simp only [history, hadmitted, List.mem_singleton] at hx
    subst hx
    cases hadds

/-- What is answered to a caller is a value or the report of a failure. -/
theorem admitted_reports {caller : Except Failure Agent} {response : Response}
    (h : ((admitted config request action caller).run store state source).1 = .ok response) :
    (∃ value, response = .ok value) ∨ ∃ failure, response = .ofFailure failure := by
  cases caller with
  | error failure =>
    cases h
    exact .inr ⟨failure, rfl⟩
  | ok actor =>
    unfold admitted at h
    dsimp only at h
    split at h
    · rename_i flow _
      unfold respond at h
      rw [run_andThen] at h
      rcases hended : (flow.run store state source).1 with failure | value <;> rw [hended] at h <;> cases h
      · exact .inr ⟨failure, rfl⟩
      · exact .inl ⟨value, rfl⟩
    · cases h

/-- A response that says that the caller is refused is always the same. -/
theorem eq_forbidden_of_answer {response : Response}
    (h : ((answer config boundName request).run store state source).1 = .ok response)
    (hstatus : response.status = 403) : response = forbidden := by
  unfold answer at h
  split at h
  · cases h
    cases hstatus
  · split at h
    · cases h
      cases hstatus
    · cases h
      cases hstatus
    · rename_i action _ _
      unfold serve at h
      split at h
      · rw [run_andThen] at h
        have hadmitted : ((admitted config request action _).run store _ _).1 = .ok response := h
        rcases admitted_reports hadmitted with ⟨value, rfl⟩ | ⟨failure, rfl⟩
        · cases hstatus
        · exact report_eq_forbidden hstatus
      · cases h

/-! ## Failures -/

section Failures

variable {remote : Remote} {n : Nat} {x : Exchange}

/-- A parameter that cannot be bound is met in the lookup of the caller, and reported as a failure inside. -/
theorem report_of_bindFault {text : String} (hfault : remote.bindFault? = some text)
    (hx : x ∈ (answer config boundName request).history Remote.store remote source) :
    ((answer config boundName request).run Remote.store remote source).1 = .ok internalError := by
  obtain ⟨action, token, haction, hagent, hbinding, htoken⟩ := asks_with_token hx
  rw [answer_of_action haction hagent, serve_of_token hbinding htoken]
  simp only [run, Remote.select_of_fault hfault]
  rfl

/-- A fault is reported as what the request makes of it. -/
theorem report_of_fault (hx : x ∈ (answer config boundName request).history store state source) {e : StorageError}
    (hfault : x.Fault e) : ((answer config boundName request).run store state source).1 =
      .ok (.ofFailure ((request.action?.getD .health).told request x.ask e)) :=
  run_of_fault (answer_prudent config boundName request) store hx hfault

theorem action?_of_addsAgent (h : AddsAgent request (request.action?.getD .health) ask) :
    request.action? = some .createAgent := by
  cases haction : request.action? with
  | none =>
    rw [haction] at h
    cases h.1
  | some action =>
    rw [haction] at h
    exact congrArg some h.1

variable (hbound : remote.bindFault? = none)
  (hx : ((answer config boundName request).history Remote.store remote source)[n]? = some x)
include hbound hx

theorem trip_of_history : ((answer config boundName request).run Remote.store remote source).2.1.trips[
    remote.trips.length + n]? = some x.ask.trip := by
  rw [(run_makes (answer_prudent config boundName request) hbound source).trips,
    List.getElem?_append_right (Nat.le_add_right ..), Nat.add_sub_cancel_left, List.getElem?_map, hx]
  rfl

theorem answeredBy_of_history : x.AnsweredBy remote.replies[n]? :=
  (run_makes (answer_prudent config boundName request) hbound source).answers n x hx

/-- A refused row of a new agent is reported as a conflict of its name, and any other failure as one inside. -/
theorem report_of_failure {text : String} (hfailure : remote.replies[n]? = some (.failure text)) :
    (request.action? = some .createAgent ∧ adds x.ask ∧ Remote.saysConstraint text →
      ∃ payload, request.payload NewAgent.ofJson? = .ok payload ∧
        ((answer config boundName request).run Remote.store remote source).1 =
          .ok (nameTaken (Text.trim payload.name))) ∧
    (¬ (request.action? = some .createAgent ∧ adds x.ask ∧ Remote.saysConstraint text) →
      ((answer config boundName request).run Remote.store remote source).1 = .ok internalError) := by
  have hmem := List.mem_of_getElem? hx
  have hanswered := answeredBy_of_history hbound hx
  rw [hfailure] at hanswered
  have hreport := report_of_fault hmem (Exchange.fault_of_failure hanswered)
  rw [Remote.errorOf_eq] at hreport
  constructor
  · rintro ⟨hcreate, hadds, hsays⟩
    obtain ⟨payload, hpayload⟩ := exists_payload hcreate hmem hadds
    rw [if_pos hsays, hcreate, Option.getD_some, report_of_refused hpayload hadds] at hreport
    exact ⟨payload, hpayload, hreport⟩
  · intro hother
    rw [report_of_other] at hreport
    · exact hreport
    · intro hagent other hconstraint
      refine hother ⟨action?_of_addsAgent hagent, hagent.2.1, ?_⟩
      by_contra hsays
      rw [if_neg hsays] at hconstraint
      cases hconstraint

/-- A row that cannot be read is reported as a failure inside. -/
theorem report_of_unreadable {plan : Plan} {rows : List Json} (hask : x.ask = .select plan)
    (hrows : remote.replies[n]? = some (.rows rows)) : ∃ entity : Entity, plan.schema = entity.model.schema ∧
      ∀ row ∈ rows, (entity.model.decode? row).isNone →
        ((answer config boundName request).run Remote.store remote source).1 = .ok internalError := by
  have hmem := List.mem_of_getElem? hx
  have hanswered := answeredBy_of_history hbound hx
  rw [hrows] at hanswered
  obtain ⟨_, answer⟩ | _ | _ | _ := x <;> cases hask
  obtain rfl : answer = .ok rows := hanswered
  obtain ⟨entity, hschema⟩ := kind_of_history (answer_prudent config boundName request) Remote.store hmem
  refine ⟨entity, hschema, fun row hrow hdecode => ?_⟩
  rw [report_of_fault hmem (.unreadable hschema hrow hdecode)]
  exact congrArg Except.ok (report_of_other (by rintro - _ ⟨⟩))

end Failures

/-- Whatever a request is, no more of the texts of failures shows in its answer than whether they say that a
constraint failed. Where a parameter cannot be bound, the answer is that something failed inside. Else every request
that is made of the database is one trip. Where one fails, the answer is a conflict that names the agent, trimmed, if
it is the row of a new agent that a constraint refuses, and else that something failed inside; and the same is
answered where a row cannot be read as what its table holds. All answers that refuse a caller are one. -/
theorem answer_discreet (config : Config) (boundName : String) (request : Request) (source : Entropy) :
    (∀ remote other : Remote, remote.muted = other.muted →
      ((answer config boundName request).run Remote.store remote source).1 =
        ((answer config boundName request).run Remote.store other source).1) ∧
    (∀ (remote : Remote) (text : String), remote.bindFault? = some text →
      ∀ x ∈ (answer config boundName request).history Remote.store remote source,
        ((answer config boundName request).run Remote.store remote source).1 = .ok internalError) ∧
    (∀ remote : Remote, remote.bindFault? = none → ∀ (n : Nat) (x : Exchange),
      ((answer config boundName request).history Remote.store remote source)[n]? = some x →
        ((answer config boundName request).run Remote.store remote source).2.1.trips[remote.trips.length + n]? =
          some x.ask.trip ∧
        (∀ text, remote.replies[n]? = some (.failure text) →
          (request.action? = some .createAgent ∧ adds x.ask ∧ Remote.saysConstraint text →
            ∃ payload, request.payload NewAgent.ofJson? = .ok payload ∧
              ((answer config boundName request).run Remote.store remote source).1 =
                .ok (nameTaken (Text.trim payload.name))) ∧
          (¬ (request.action? = some .createAgent ∧ adds x.ask ∧ Remote.saysConstraint text) →
            ((answer config boundName request).run Remote.store remote source).1 = .ok internalError)) ∧
        ∀ plan rows, x.ask = .select plan → remote.replies[n]? = some (.rows rows) →
          ∃ entity : Entity, plan.schema = entity.model.schema ∧ ∀ row ∈ rows, (entity.model.decode? row).isNone →
            ((answer config boundName request).run Remote.store remote source).1 = .ok internalError) ∧
    ∀ {σ : Type} (store : Store σ) (state : σ) (response : Response),
      ((answer config boundName request).run store state source).1 = .ok response → response.status = 403 →
        response = forbidden := by
  refine ⟨fun remote other hmuted => ?_, fun remote text hfault x hx => report_of_bindFault hfault hx,
    fun remote hbound n x hx => ⟨trip_of_history hbound hx, fun text hfailure => report_of_failure hbound hx hfailure,
      fun plan rows hask hrows => report_of_unreadable hbound hx hask hrows⟩,
    fun store state response => eq_forbidden_of_answer⟩
  have hsame := run_muted (answer_prudent config boundName request) fun ask e => congrArg Except.ok (report_muted e)
  rw [← hsame remote, hmuted, hsame other]

/-- A lead asks for a new agent. -/
def newcomer : Request where
  method := .post
  url := "/agent/agents"
  headers := [("X-Agent-Token", "secret")]
  body? := some "\x7b\"name\": \" Bo \"\x7d"
  now := "2024-01-02"

/-- A database that knows the lead, has no agent of the name, and reports a failure when a row is added. -/
def refusing (text : String) : Remote where
  replies := [.rows [.object lead.record], .rows [], .failure text]
  bindFault? := none
  trips := []

theorem answer_discreet_newcomer :
    ((answer .standard "DB" newcomer).run Remote.store (refusing "UNIQUE constraint failed: agents.name")
      Entropy.counting).1 = .ok (nameTaken "Bo") ∧
    ((answer .standard "DB" newcomer).run Remote.store (refusing "constraint failed") Entropy.counting).1 =
      ((answer .standard "DB" newcomer).run Remote.store (refusing "UNIQUE constraint failed: agents.name")
        Entropy.counting).1 ∧
    ((answer .standard "DB" newcomer).run Remote.store (refusing "no such table: agents") Entropy.counting).1 =
      .ok internalError ∧
    ((answer .standard "DB" newcomer).run Remote.store ⟨[.rows [.null]], none, []⟩ Entropy.counting).1 =
      .ok internalError := by
  have hcreate : newcomer.action? = some .createAgent := by decide +kernel
  have hread : (newcomer.body?.bind Json.parse?).bind NewAgent.ofJson? = some ⟨" Bo ", none⟩ := by decide +kernel
  have hpayload : newcomer.payload NewAgent.ofJson? = .ok ⟨" Bo ", none⟩ := by
    unfold Request.payload
    rw [hread]
  obtain ⟨hmuted, -, hfailures, -⟩ := answer_discreet .standard "DB" newcomer Entropy.counting
  refine ⟨?_, hmuted _ _ rfl, ?_, ?_⟩
  · have hthird : (((answer .standard "DB" newcomer).history Remote.store
        (refusing "UNIQUE constraint failed: agents.name") Entropy.counting)[2]?.any (adds ·.ask)) = true := by
      decide +kernel
    obtain ⟨x, hx, hadds⟩ := (Option.any_eq_true _ _).1 hthird
    obtain ⟨-, hfailure, -⟩ := hfailures _ rfl 2 x hx
    obtain ⟨payload, hsame, hanswer⟩ := (hfailure _ rfl).1 ⟨hcreate, hadds, by decide +kernel⟩
    cases hpayload.symm.trans hsame
    exact hanswer
  · have hthird : (((answer .standard "DB" newcomer).history Remote.store
        (refusing "no such table: agents") Entropy.counting)[2]?.any (adds ·.ask)) = true := by
      decide +kernel
    obtain ⟨x, hx, hadds⟩ := (Option.any_eq_true _ _).1 hthird
    obtain ⟨-, hfailure, -⟩ := hfailures _ rfl 2 x hx
    exact (hfailure _ rfl).2 fun h => absurd h.2.2 (by decide +kernel)
  · obtain ⟨-, -, hunreadable⟩ := hfailures ⟨[.rows [.null]], none, []⟩ rfl 0 (.select _ (.ok [.null])) rfl
    obtain ⟨entity, hschema, hinside⟩ := hunreadable _ _ rfl rfl
    obtain rfl : entity = .agent := Entity.schema_injective hschema.symm
    exact hinside .null (List.mem_singleton.2 rfl) rfl

end Taskboard.Http
