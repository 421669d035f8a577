/-
Runs. A step is a request of a caller that a token stands for on the tables as they are; any failure may
wait, and the identifiers that are drawn are new (`Handled`), or the tokens as well (`Served`). A step changes
nothing, or it had its grounds and has carried out its writes (`Handled.cases`), and then the tables have only
grown (`grows_of_grounds`): so identifiers stay unique along every run, and keys where tokens are new.
-/
import Taskboard.Proofs.Endpoint.Callers
import Taskboard.Proofs.Endpoint.Grounds
import Taskboard.Proofs.Storage.Growth
import Mathlib.Logic.Relation

namespace Taskboard

open Taskboard.Flow Tables

/-! ## What is drawn -/

/-- The tokens that a run generates: its draws of 32 bytes, as text. -/
def Flow.tokens {ε α σ : Type} (store : Store σ) (flow : Flow ε α) (state : σ) (source : Entropy) : List String :=
  ((flow.draws store state source).filter (·.1 = 32)).map fun draw => Text.hex draw.2

namespace Endpoint

/-- The tokens that a request of a caller generates on tables. -/
def Request.tokens (actor : Agent) (tables : Tables) (source : Entropy) (request : Request) : List String :=
  (request.serve actor).tokens store tables source

/-- No agent has the digest of a token. -/
def TokenNew (tables : Tables) (token : String) : Prop :=
  ∀ row ∈ tables.rows "agents", row.text? "agent_token_hash" ≠ some (Token.hash token)

/-- Random bytes of which identifiers and tokens are made that are not in the tables. -/
structure Fresh (drawn : Nat → List UInt8 → Prop) (tables : Tables) : Prop where
  id : ∀ id, Generated drawn id → tables.IsNew id
  token : ∀ bytes, drawn 32 bytes → TokenNew tables (Text.hex bytes)

/-! ## Steps -/

variable {allowed : Tables → Agent → Request → Prop} {drawn : Nat → List UInt8 → Prop} {actor : Agent}
  {before after start now s : Tables}

/-- A request, of those that are looked at, of a caller that was authenticated on the tables as they are, whose
identifiers are new. -/
inductive Handled (allowed : Tables → Agent → Request → Prop) (before : Tables) : Tables → Prop
  | serve {actor : Agent} (hcaller : Resolves before actor) (request : Request) (hallowed : allowed before actor request)
    (fault? : Option Fault) (source : Entropy)
    (hids : ∀ id ∈ request.identifiers actor { before with fault? := fault? } source, before.IsNew id) :
    Handled allowed before (request.run actor { before with fault? := fault? } source).2.1

/-- A request, of those that are looked at, of a caller that was authenticated on the tables as they are, whose
identifiers and tokens are new. -/
inductive Served (allowed : Tables → Agent → Request → Prop) (before : Tables) : Tables → Prop
  | serve {actor : Agent} (hcaller : Resolves before actor) (request : Request) (hallowed : allowed before actor request)
    (fault? : Option Fault) (source : Entropy)
    (hids : ∀ id ∈ request.identifiers actor { before with fault? := fault? } source, before.IsNew id)
    (htokens : ∀ token ∈ request.tokens actor { before with fault? := fault? } source, TokenNew before token) :
    Served allowed before (request.run actor { before with fault? := fault? } source).2.1

theorem Served.handled (h : Served allowed before after) : Handled allowed before after := by
  obtain ⟨hcaller, request, hallowed, fault?, source, hids, -⟩ := h
  exact .serve hcaller request hallowed fault? source hids

/-- A request changes nothing, or it had its grounds and has carried out its writes. What is known of the random
bytes is that its run draws them. -/
theorem Request.cases_run (request : Request) (fault? : Option Fault) (source : Entropy) :
    (request.run actor { before with fault? := fault? } source).2.1.rows = before.rows ∨ ∃ reply writes,
      request.Grounds ((request.serve actor).Drawn store { before with fault? := fault? } source) actor before reply
        writes ∧
      (request.run actor { before with fault? := fault? } source).2.1.rows = (writes.foldl carryOut before).rows := by
  have hstep := @serve_grounds ((request.serve actor).Drawn store { before with fault? := fault? } source) actor before
    request
  rcases hstep.rows_run (a := { before with fault? := fault? }) rfl source fun _ h => h with
    hrows | ⟨reply, writes, ⟨-, hgrounds⟩, hrows⟩
  · exact .inl hrows
  · exact .inr ⟨reply, writes, hgrounds, hrows⟩

/-- What a step may do: nothing, or what a request has grounds for. -/
theorem Handled.cases (h : Handled allowed before after) :
    after.rows = before.rows ∨ ∃ (drawn : Nat → List UInt8 → Prop) (actor : Agent) (request : Request)
      (reply : request.Reply) (writes : List Write), (∀ id, Generated drawn id → before.IsNew id) ∧
        Agent.model.StoredIn before actor ∧ allowed before actor request ∧
        request.Grounds drawn actor before reply writes ∧ after.rows = (writes.foldl carryOut before).rows := by
  obtain ⟨hcaller, request, hallowed, fault?, source, hids⟩ := h
  refine (request.cases_run fault? source).imp_right fun ⟨reply, writes, hgrounds, hrows⟩ => ?_
  exact ⟨_, _, request, reply, writes, fun id h => hids id h.mem_identifiers, stored_of_resolves hcaller, hallowed,
    hgrounds, hrows⟩

/-- The same of a step whose tokens are new, too. -/
theorem Served.cases (h : Served allowed before after) :
    after.rows = before.rows ∨ ∃ (drawn : Nat → List UInt8 → Prop) (actor : Agent) (request : Request)
      (reply : request.Reply) (writes : List Write), Fresh drawn before ∧ Agent.model.StoredIn before actor ∧
        allowed before actor request ∧ request.Grounds drawn actor before reply writes ∧
        after.rows = (writes.foldl carryOut before).rows := by
  obtain ⟨hcaller, request, hallowed, fault?, source, hids, htokens⟩ := h
  rename_i actor
  have hfresh : Fresh ((request.serve actor).Drawn store { before with fault? := fault? } source) before := by
    refine ⟨fun id h => hids id h.mem_identifiers, fun bytes hdrawn => htokens _ ?_⟩
    exact List.mem_map.2 ⟨(32, bytes), List.mem_filter.2 ⟨hdrawn, rfl⟩, rfl⟩
  refine (request.cases_run fault? source).imp_right fun ⟨reply, writes, hgrounds, hrows⟩ => ?_
  exact ⟨_, actor, request, reply, writes, hfresh, stored_of_resolves hcaller, hallowed, hgrounds, hrows⟩

/-! ## Growth -/

/-- A comment says something, and is new. -/
theorem arrival_of_comment {id taskId message now : String} {boardId? author? : Option String} (hnew : s.IsNew id)
    {text : String} (hmessage : Text.nonBlank? text = some message) :
    Arrival s ⟨.insert, TaskComment.schema, (TaskComment.mk id taskId boardId? author? message now).record⟩ :=
  .insert .comment rfl hnew ⟨"message", message, rfl, rfl, Text.trimmed_of_nonBlank? hmessage⟩

/-- What a request writes on its grounds renews rows and adds new ones, and does nothing else. -/
theorem grows_of_grounds (hnew : ∀ id, Generated drawn id → s.IsNew id) (hactor : Agent.model.StoredIn s actor)
    {request : Request} {reply : request.Reply} {writes : List Write}
    (h : request.Grounds drawn actor s reply writes) : Grows s writes := by
  cases request with
  | updateTask boardId taskId update now =>
    obtain ⟨-, task, status, assignee?, ⟨⟨old, hold, hdecode⟩, -, -⟩, -, -, rfl, rest, hrest, rfl⟩ := h
    have hrenewal : Renewal s ⟨.update, Task.schema, Task.record { task with
        status := status, assignee? := assigneeInProgress actor status assignee?, updatedAt := now }⟩ :=
      .update .task hold (Task.text?_of_ofRecord? hdecode).1 (Task.keeps hdecode rfl rfl)
    rcases hcomment : update.comment?.bind Text.nonBlank? with _ | message <;> rw [hcomment] at hrest
    · obtain rfl := hrest
      exact .renew hrenewal
    · obtain ⟨id, hgenerated, rfl⟩ := hrest
      obtain ⟨text, -, hmessage⟩ := Option.bind_eq_some_iff.1 hcomment
      exact .renewAndAdd hrenewal (arrival_of_comment (hnew id hgenerated) hmessage)
  | createTaskComment boardId taskId payload now =>
    obtain ⟨-, task, message, id, -, hmessage, hgenerated, rfl, rfl⟩ := h
    exact .add (arrival_of_comment (hnew id hgenerated) hmessage)
  | createMemory boardId payload now =>
    obtain ⟨-, entry, -, hcontent, hgenerated, -, -, rfl⟩ := h
    exact .add (.insert .memory rfl (hnew _ hgenerated) ⟨"content", _, rfl, rfl, Text.trimmed_of_nonBlank? hcontent⟩)
  | createApproval boardId payload now =>
    obtain ⟨-, approval, -, haction, -, -, -, hgenerated, -, -, rfl⟩ := h
    exact .add (.insert .approval rfl (hnew _ hgenerated)
      ⟨"action_type", _, rfl, rfl, Text.trimmed_of_nonBlank? haction⟩)
  | updateOnboarding boardId payload now =>
    obtain ⟨-, session, answer, messages, -, ⟨old, hold, hdecode⟩, -, -, -, -, rfl⟩ := h
    exact .renew (.update .session hold (OnboardingSession.text?_of_ofRecord? hdecode).1
      (OnboardingSession.keeps hdecode rfl rfl))
  | createAgent payload now =>
    obtain ⟨boardId, name, token, id, -, hname, -, -, hgenerated, -, rfl⟩ := h
    exact .add (.insert .agent rfl (hnew id hgenerated) ⟨"name", name, rfl, rfl, Text.trimmed_of_nonBlank? hname⟩)
  | heartbeat payload now =>
    obtain ⟨-, -, rfl⟩ := h
    obtain ⟨old, hold, hdecode⟩ := hactor
    exact .renew (.update .agent hold (Agent.text?_of_ofRecord? hdecode).1 (Agent.keeps hdecode rfl rfl rfl rfl))
  | _ =>
    obtain rfl : writes = [] := h
    exact .nothing

/-! ## Keys -/

/-- A new agent has a name that no other agent of its board has, and a token that no agent has. -/
theorem keysNew_freshAgent {id boardId name token now : String}
    (hfree : ∀ row ∈ s.rows "agents", row.text? "board_id" = some boardId → row.text? "name" ≠ some name)
    (htoken : TokenNew s token) : s.KeysNew .agent (freshAgent id boardId name token now).record := by
  have hname : Record.key? ["board_id", "name"] (freshAgent id boardId name token now).record = some [boardId, name] :=
    rfl
  have hhash : Record.key? ["agent_token_hash"] (freshAgent id boardId name token now).record =
      some [Token.hash token] :=
    rfl
  intro key hkey texts htexts stored hstored hsame
  rcases List.mem_pair.1 hkey with rfl | rfl
  · obtain rfl := Option.some.inj (hname.symm.trans htexts)
    obtain ⟨hboard, hsame⟩ := Record.key?_pair_iff.1 hsame
    exact hfree stored hstored hboard hsame
  · obtain rfl := Option.some.inj (hhash.symm.trans htexts)
    exact htoken stored hstored (Record.key?_single_iff.1 hsame)

/-- The rows that a request adds have new keys, for of them only agents have any. -/
theorem addsNewKeys_of_grounds (htoken : ∀ bytes, drawn 32 bytes → TokenNew s (Text.hex bytes)) {request : Request}
    {reply : request.Reply} {writes : List Write} (h : request.Grounds drawn actor s reply writes) :
    s.AddsNewKeys writes := by
  intro entity row hrow
  rcases agentWrites_of_grounds h with hothers | ⟨boardId, name, id, now, bytes, hfree, hdrawn, -, rfl⟩ |
    ⟨status?, now, rfl⟩
  · have htable : entity.table ∉ ["boards", "agents"] := hothers _ hrow
    have hkeyless : entity.uniqueKeys = [] := by
      cases entity with
      | board | agent => exact absurd (by decide) htable
      | task | comment | approval | memory | session => rfl
    exact keysNew_of_keyless hkeyless
  · have hwrite := List.mem_singleton.1 hrow
    obtain rfl : entity = .agent := Entity.table_injective (congrArg (·.schema.table) hwrite)
    obtain rfl : row = _ := congrArg Write.row hwrite
    exact keysNew_freshAgent hfree (htoken bytes hdrawn)
  · cases List.mem_singleton.1 hrow

end Endpoint

end Taskboard
