/-
What is kept of tokens is a secret. No request looks at the digest of a token, neither at its caller's nor at a stored
one (`serve_matches`). So on states that are equal but for digests, callers that are equal but for theirs are answered
alike, one after another, and leave states that are again equal but for digests (`serveAll_secret`).
-/
import Taskboard.Proofs.Endpoint.Callers
import Taskboard.Proofs.Endpoint.Grounds
import Taskboard.Proofs.Flow.Matching

namespace Taskboard.Endpoint

open Taskboard.Flow

variable {α β : Type}

/-! ## Queries and writes -/

section Others

variable {entity : Entity} (hother : entity ≠ .agent) {plan : Plan} (hschema : plan.schema = entity.model.schema)
include hother hschema

theorem table_ne_of_other : plan.schema.table ≠ "agents" := by
  rw [hschema]
  exact fun htable => hother (Entity.table_injective htable)

theorem all_matches : Matches Eq (liftM (entity.model.all plan) : Serving (List entity.Value))
    (liftM (entity.model.all plan)) :=
  .mapError _ (.all_of_other (table_ne_of_other hother hschema))

theorem first_matches : Matches Eq (liftM (entity.model.first plan) : Serving (Option entity.Value))
    (liftM (entity.model.first plan)) :=
  .mapError _ (.first_of_other (table_ne_of_other hother hschema))

theorem hasAny_matches : Matches Eq (liftM (entity.model.hasAny plan) : Serving Bool)
    (liftM (entity.model.hasAny plan)) :=
  .mapError _ (.hasAny_of_other (table_ne_of_other hother hschema))

end Others

theorem send_matches (saving : Saving) :
    Matches Eq (liftM (saving.entity.model.send saving.kind saving.value) : Serving Unit)
      (liftM (saving.entity.model.send saving.kind saving.value)) :=
  .mapError _ (.send saving saving rfl)

/-- A plan whose columns are declared is gone on with. -/
theorem resolved_matches {seen : β → β → Prop} {result : Except UnknownField α} {k : α → Serving β}
    (h : ∀ x, result = .ok x → Matches seen (k x) (k x)) :
    Matches seen ((liftM result : Serving α) >>= k) ((liftM result : Serving α) >>= k) := by
  cases result with
  | ok x => exact h x rfl
  | error e => exact .fail _

/-! ## Lookups -/

theorem findBoard_matches (boardId : String) : Matches Eq (findBoard boardId) (findBoard boardId) :=
  .bindSame (first_matches (by decide : Entity.board ≠ .agent) rfl) fun _ => .ofExcept _

theorem boardFor_matches (actor : Agent) (boardId : String) :
    Matches Eq (boardFor actor boardId) (boardFor actor boardId) :=
  .bindSame (findBoard_matches boardId) fun _ => .bindSame (.ofExcept _) fun _ => .value rfl

theorem taskFor_matches (actor : Agent) (boardId taskId : String) :
    Matches Eq (taskFor actor boardId taskId) (taskFor actor boardId taskId) := by
  refine .bindSame (findBoard_matches boardId) fun board => ?_
  refine .bindSame ?_ fun task => ?_
  · exact .bindSame (first_matches (by decide : Entity.task ≠ .agent) rfl) fun _ => .ofExcept _
  · exact .bindSame (.ofExcept _) fun _ => .value rfl

theorem freshHex_matches (size : Nat) : Matches Eq (freshHex size) (freshHex size) :=
  .random fun bytes? => by cases bytes? <;> exact .ofExcept _

/-! ## Requests -/

theorem listBoards_matches (actor : Agent) : Matches Eq (listBoards actor) (listBoards actor) := by
  unfold listBoards
  split
  · exact all_matches (by decide : Entity.board ≠ .agent) rfl
  · exact all_matches (by decide : Entity.board ≠ .agent) rfl

theorem tasksOfBoard_matches (board : Board) (filter : TaskFilter) (pageMax : Nat) :
    Matches Eq (tasksOfBoard board filter pageMax) (tasksOfBoard board filter pageMax) := by
  refine .bindSame (.ofExcept _) fun statuses => ?_
  refine resolved_matches fun plan hplan => ?_
  refine .bindSame (.ofExcept _) fun limit => ?_
  have hschema : plan.schema = Task.schema := (equals_mem_of_taskPlan hplan).1
  exact all_matches (by decide : Entity.task ≠ .agent) hschema

/-- Of the agent that a task is assigned to, the identifier and the board are looked at. -/
theorem resolveAssignee_matches (task : Task) (assignment : Assignment) :
    Matches Eq (resolveAssignee task assignment) (resolveAssignee task assignment) := by
  cases assignment with
  | keep | clear => exact .value rfl
  | assign agentId =>
    have hplan : (Agent.schema.withId (.string (Text.trim agentId))).Discreet := by
      rintro name hname -
      rw [List.mem_singleton.1 hname]
      decide
    refine .bind (.mapError _ (.first_agents rfl hplan)) fun agent? agent?' hagent => ?_
    rcases agent? with _ | agent <;> rcases agent?' with _ | agent'
    · exact .fail _
    · cases hagent
    · cases hagent
    · obtain ⟨digest?, rfl⟩ := Agent.eq_of_masked (Option.some.inj hagent)
      show Matches Eq (ite (agent.boardId? = task.boardId?) _ _) (ite (agent.boardId? = task.boardId?) _ _)
      split <;> exact .ofExcept _

theorem applyUpdate_matches (actor : Agent) (task : Task) (update : TaskUpdate) (now : String) :
    Matches Eq (applyUpdate actor task update now) (applyUpdate actor task update now) := by
  unfold applyUpdate
  dsimp only
  split
  · exact .fail _
  · refine .bindSame (.ofExcept _) fun status => ?_
    refine .bindSame (resolveAssignee_matches task _) fun assignee? => ?_
    cases update.comment?.bind Text.nonBlank? with
    | none => exact .bindSame (send_matches ⟨.update, .task, _⟩) fun _ => .value rfl
    | some message =>
      refine .bindSame (.bindSame (freshHex_matches 16) fun _ => .value rfl) fun comment => ?_
      exact .bindSame (.mapError _ (.sendAll [⟨.update, .task, _⟩, ⟨.insert, .comment, comment⟩])) fun _ => .value rfl

theorem createTaskComment_matches (actor : Agent) (boardId taskId : String) (payload : NewComment) (now : String) :
    Matches Eq (createTaskComment actor boardId taskId payload now)
      (createTaskComment actor boardId taskId payload now) := by
  refine .bindSame (taskFor_matches actor boardId taskId) fun task => ?_
  refine .bindSame (.ofExcept _) fun message => ?_
  refine .bindSame (.bindSame (freshHex_matches 16) fun _ => .value rfl) fun comment => ?_
  exact .bindSame (send_matches ⟨.insert, .comment, comment⟩) fun _ => .value rfl

theorem createMemory_matches (actor : Agent) (boardId : String) (payload : NewMemoryEntry) (now : String) :
    Matches Eq (createMemory actor boardId payload now) (createMemory actor boardId payload now) := by
  refine .bindSame (boardFor_matches actor boardId) fun board => ?_
  refine .bindSame (.ofExcept _) fun content => ?_
  refine .bindSame (freshHex_matches 16) fun id => ?_
  exact .bindSame (send_matches ⟨.insert, .memory, _⟩) fun _ => .value rfl

theorem requireTask_matches (board : Board) (taskId? : Option String) :
    Matches Eq (requireTask board taskId?) (requireTask board taskId?) := by
  cases taskId? with
  | none => exact .value rfl
  | some taskId =>
    refine .bindSame (hasAny_matches (by decide : Entity.task ≠ .agent) rfl) fun onBoard => ?_
    cases onBoard <;> exact .ofExcept _

theorem createApproval_matches (actor : Agent) (boardId : String) (payload : NewApproval) (now : String) :
    Matches Eq (createApproval actor boardId payload now) (createApproval actor boardId payload now) := by
  refine .bindSame (boardFor_matches actor boardId) fun board => ?_
  refine .bindSame (.ofExcept _) fun actionType => ?_
  split
  · exact .fail _
  · refine .bindSame (requireTask_matches board _) fun _ => ?_
    refine .bindSame (freshHex_matches 16) fun id => ?_
    exact .bindSame (send_matches ⟨.insert, .approval, _⟩) fun _ => .value rfl

theorem latestActiveSession_matches (board : Board) :
    Matches Eq (latestActiveSession board) (latestActiveSession board) := by
  refine resolved_matches fun plan hplan => ?_
  cases hplan
  exact .bindSame (first_matches (by decide : Entity.session ≠ .agent) rfl) fun _ => .ofExcept _

theorem updateOnboarding_matches (actor : Agent) (boardId : String) (payload : Json) (now : String) :
    Matches Eq (updateOnboarding actor boardId payload now) (updateOnboarding actor boardId payload now) := by
  refine .bindSame (boardFor_matches actor boardId) fun board => ?_
  cases payload with
  | object answer =>
    refine .bindSame (latestActiveSession_matches board) fun session => ?_
    dsimp only
    split
    · exact .fail _
    · exact .bindSame (send_matches ⟨.update, .session, _⟩) fun _ => .value rfl
  | _ => exact .fail _

theorem approvalsOfBoard_matches (board : Board) (text? : Option String) :
    Matches Eq (approvalsOfBoard board text?) (approvalsOfBoard board text?) := by
  refine resolved_matches fun plan hplan => ?_
  cases hplan
  refine .bindSame (.ofExcept _) fun status? => ?_
  refine .bindSame (all_matches (by decide : Entity.approval ≠ .agent) ?_) fun _ => .value rfl
  cases status? <;> rfl

/-- A new agent is told from the others by its board and its name. -/
theorem createAgentOn_matches (boardId : String) (payload : NewAgent) (now : String) :
    Matches Eq (createAgentOn boardId payload now) (createAgentOn boardId payload now) := by
  refine .bindSame (.ofExcept _) fun name => resolved_matches fun plan hplan => ?_
  cases hplan
  refine .bindSame (.mapError _ (.hasAny_agents rfl ?_)) fun taken => ?_
  · rintro column hcolumn -
    rcases List.mem_pair.1 hcolumn with rfl | rfl <;> decide
  split
  · exact .fail _
  · refine .bindSame (freshHex_matches 32) fun token => .bindSame (freshHex_matches 16) fun id => ?_
    let saving : Saving := ⟨.insert, .agent, freshAgent id boardId name token now⟩
    have hsent : Matches Eq (insertAgent saving.value) (insertAgent saving.value) :=
      .mapError _ (.send saving saving rfl)
    exact .bindSame hsent fun _ => .value rfl

/-- Callers that are equal but for their digests are served alike. -/
theorem serve_matches {actor actor' : Agent} (h : actor.masked = actor'.masked) (request : Request) :
    Matches Eq (request.serve actor) (request.serve actor') := by
  obtain ⟨digest?, rfl⟩ := Agent.eq_of_masked h
  cases request with
  | listBoards => exact listBoards_matches actor
  | getBoard boardId => exact boardFor_matches actor boardId
  | listTasks boardId filter config =>
    exact .bindSame (boardFor_matches actor boardId) fun board => tasksOfBoard_matches board filter _
  | updateTask boardId taskId update now =>
    exact .bindSame (taskFor_matches actor boardId taskId) fun task => applyUpdate_matches actor task update now
  | listTaskComments boardId taskId =>
    refine .bindSame (taskFor_matches actor boardId taskId) fun task => resolved_matches fun plan hplan => ?_
    cases hplan
    exact all_matches (by decide : Entity.comment ≠ .agent) rfl
  | createTaskComment boardId taskId payload now => exact createTaskComment_matches actor boardId taskId payload now
  | listMemory boardId page =>
    refine .bindSame (boardFor_matches actor boardId) fun board => resolved_matches fun plan hplan => ?_
    cases hplan
    exact .bindSame (all_matches (by decide : Entity.memory ≠ .agent) rfl) fun _ => .value rfl
  | createMemory boardId payload now => exact createMemory_matches actor boardId payload now
  | listApprovals boardId status? =>
    exact .bindSame (boardFor_matches actor boardId) fun board => approvalsOfBoard_matches board status?
  | createApproval boardId payload now => exact createApproval_matches actor boardId payload now
  | updateOnboarding boardId payload now => exact updateOnboarding_matches actor boardId payload now
  | createAgent payload now => exact .bindSame (.ofExcept _) fun boardId => createAgentOn_matches boardId payload now
  | heartbeat payload now =>
    -- The row of the caller is written back, and with it the digest.
    let saving (caller : Agent) : Saving := ⟨.update, .agent, Agent.seen caller payload.status? now⟩
    refine .bindSame (.ofExcept _) fun _ => .bindSame (.mapError _ (.send (saving actor) (saving _) rfl)) fun _ => ?_
    exact .value rfl

/-- Calls that are equal but for the digests of their callers. -/
def CallsAlike (call call' : Agent × Request) : Prop :=
  call.1.masked = call'.1.masked ∧ call.2 = call'.2

/-- On states that are equal but for digests, callers that are equal but for theirs are answered alike, one after
another, and leave states that are equal but for digests. -/
theorem serveAll_secret {calls calls' : List (Agent × Request)} (hcalls : List.Forall₂ CallsAlike calls calls')
    {s t : Tables} (h : s.AlikeButDigests t) (source : Entropy) :
    (serveAll Tables.store calls s source).1 = (serveAll Tables.store calls' t source).1 ∧
      (serveAll Tables.store calls s source).2.1.AlikeButDigests (serveAll Tables.store calls' t source).2.1 ∧
      (serveAll Tables.store calls s source).2.2 = (serveAll Tables.store calls' t source).2.2 := by
  induction hcalls generalizing s t source with
  | nil => exact ⟨rfl, h, rfl⟩
  | @cons call call' calls calls' hcall _ ih =>
    obtain ⟨actor, request⟩ := call
    obtain ⟨actor', request'⟩ := call'
    obtain ⟨hcaller, hrequest⟩ := hcall
    obtain rfl : request = request' := hrequest
    obtain ⟨hends, hafter, hsource⟩ := run_of_matches (serve_matches hcaller request) h source
    have hresult : ((request.serve actor).run Tables.store s source).1 =
        ((request.serve actor').run Tables.store t source).1 := hends.eq
    rw [serveAll_cons, serveAll_cons, hresult, hsource]
    obtain ⟨hresults, hrest⟩ := ih hafter _
    exact ⟨congrArg (List.cons _) hresults, hrest⟩

/-- The lead with the digest of another token. -/
def rekeyedLead : Agent :=
  { lead with tokenHash? := some (Token.hash "changed") }

/-- The small office with the digest of another token. -/
def rekeyedOffice : Tables :=
  (office []).setRows "agents" [rekeyedLead.record]

/-- A caller creates an agent and gives a sign of life. -/
def shift (caller : Agent) : List (Agent × Request) :=
  [(caller, .createAgent ⟨"Bob", none⟩ "2024-01-02"), (caller, .heartbeat ⟨"Ada", some "busy"⟩ "2024-01-03")]

theorem office_alike_rekeyed : (office []).AlikeButDigests rekeyedOffice where
  digested := by
    have hrecord : ∀ agent : Agent, agent.record.Digested "agents" :=
      fun agent => (Saving.discreet ⟨.insert, .agent, agent⟩).digested
    constructor <;> rintro table row hrow rfl <;> rw [List.mem_singleton.1 hrow]
    · exact hrecord lead rfl
    · exact hrecord rekeyedLead rfl
  masked := by
    unfold rekeyedOffice
    rw [Tables.masked_setRows]
    refine congrArg (fun rows => (⟨rows, [], none⟩ : Tables)) (funext fun table => ?_)
    split
    · rename_i htable
      rw [htable]
      exact congrArg (fun agent : Agent => [agent.record]) (lead.masked_of_digest (some (Token.hash "changed"))).symm
    · rfl

theorem serveAll_secret_shift : List.Forall₂ CallsAlike (shift lead) (shift rekeyedLead) ∧
    (office []).AlikeButDigests rekeyedOffice ∧
    (serveAll Tables.store (shift rekeyedLead) rekeyedOffice Entropy.counting).1.map (·.result.isOk) = [true, true] ∧
    (serveAll Tables.store (shift lead) (office []) Entropy.counting).1 =
      (serveAll Tables.store (shift rekeyedLead) rekeyedOffice Entropy.counting).1 := by
  have hcaller : lead.masked = rekeyedLead.masked := (lead.masked_of_digest _).symm
  have hcalls : List.Forall₂ CallsAlike (shift lead) (shift rekeyedLead) :=
    .cons ⟨hcaller, rfl⟩ (.cons ⟨hcaller, rfl⟩ .nil)
  refine ⟨hcalls, office_alike_rekeyed, ?_, (serveAll_secret hcalls office_alike_rekeyed Entropy.counting).1⟩
  decide +kernel

end Taskboard.Endpoint
