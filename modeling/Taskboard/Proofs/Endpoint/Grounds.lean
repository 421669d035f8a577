/-
What requests go on. A request that ends with a reply has found on the tables what it builds on, and has
written what follows from that and from its arguments. `Request.Grounds` says both, once for each kind of
request (`serve_grounds`); what is kept along runs is derived from it.
-/
import Taskboard.Proofs.Endpoint.Effects

namespace Taskboard

/-- A value that some row stands for. -/
def Model.StoredIn {α : Type} (model : Model α) (tables : Tables) (x : α) : Prop :=
  ∃ row ∈ tables.rows model.schema.table, model.decode? (.object row) = some x

namespace Endpoint

open Taskboard.Flow Tables

variable {drawn : Nat → List UInt8 → Prop} {actor : Agent} {s : Tables}

/-! ## Grounds -/

/-- The assignee that a change asks for; one that it names is an agent of the board of the task. -/
def AssigneeGrounds (s : Tables) (task : Task) : Assignment → Option String → Prop
  | .keep, assignee? => assignee? = task.assignee?
  | .clear, assignee? => assignee? = none
  | .assign agentId, assignee? => ∃ agent : Agent, assignee? = some agent.id ∧ agent.id = Text.trim agentId ∧
      agent.boardId? = task.boardId? ∧ Agent.model.StoredIn s agent

/-- A task of a board. -/
def TaskOn (s : Tables) (boardId taskId : String) (task : Task) : Prop :=
  Task.model.StoredIn s task ∧ task.id = taskId ∧ task.boardId? = some boardId

/-- What a request that ends with a reply has found on the tables, and what it has written. -/
def Request.Grounds (drawn : Nat → List UInt8 → Prop) (actor : Agent) (s : Tables) :
    (request : Request) → request.Reply → List Write → Prop
  | .updateTask boardId taskId update now, task, writes => Permits actor boardId ∧ ∃ before status assignee?,
      TaskOn s boardId taskId before ∧ resolveStatus before update.status? = .ok status ∧
      AssigneeGrounds s before update.assignment assignee? ∧
      task = { before with
        status := status, assignee? := assigneeInProgress actor status assignee?, updatedAt := now } ∧
      ∃ rest, CommentWrites drawn actor task now (update.comment?.bind Text.nonBlank?) rest ∧
        writes = ⟨.update, Task.schema, Task.record task⟩ :: rest
  | .createTaskComment boardId taskId payload now, comment, writes => Permits actor boardId ∧ ∃ task message id,
      TaskOn s boardId taskId task ∧ Text.nonBlank? payload.message = some message ∧ Generated drawn id ∧
      comment = ⟨id, task.id, task.boardId?, some actor.id, message, now⟩ ∧
      writes = [⟨.insert, TaskComment.schema, TaskComment.record comment⟩]
  | .createMemory boardId payload now, view, writes => Permits actor boardId ∧ ∃ entry : MemoryEntry,
      s.Has "boards" boardId ∧ Text.nonBlank? payload.content = some entry.content ∧ Generated drawn entry.id ∧
      entry = ⟨entry.id, boardId, entry.content, payload.tags?.map fun tags => (Json.ofTexts tags).render,
        payload.source?.bind Text.nonBlank?, now⟩ ∧
      view = entry.view ∧ writes = [⟨.insert, MemoryEntry.schema, entry.record⟩]
  | .createApproval boardId payload now, view, writes => Permits actor boardId ∧ ∃ approval : Approval,
      s.Has "boards" boardId ∧ Text.nonBlank? payload.actionType = some approval.actionType ∧
      0 ≤ payload.confidence ∧ payload.confidence ≤ 100 ∧
      (∀ taskId, approval.taskId? = some taskId → s.Places "tasks" taskId (some boardId)) ∧
      Generated drawn approval.id ∧
      approval = ⟨approval.id, boardId, payload.taskId?.bind Text.nonBlank?, some actor.id, approval.actionType,
        payload.payload?.map Json.render, payload.confidence, payload.rationale?, .pending, now, none⟩ ∧
      view = approval.view ∧ writes = [⟨.insert, Approval.schema, approval.record⟩]
  | .updateOnboarding boardId payload now, view, writes => Permits actor boardId ∧ ∃ before answer messages,
      s.Has "boards" boardId ∧ OnboardingSession.model.StoredIn s before ∧ before.boardId = boardId ∧
      payload = .object answer ∧ OnboardingSession.messagesOf? before.messages = some messages ∧
      view = (OnboardingSession.answered before messages actor answer now).view ∧
      writes = [⟨.update, OnboardingSession.schema,
        (OnboardingSession.answered before messages actor answer now).record⟩]
  | .createAgent payload now, issued, writes => ∃ boardId name token id,
      actor.leadBoard = .ok boardId ∧ Text.nonBlank? payload.name = some name ∧
      (∀ row ∈ s.rows "agents", row.text? "board_id" = some boardId → row.text? "name" ≠ some name) ∧
      (∃ bytes, drawn 32 bytes ∧ token = Text.hex bytes) ∧ Generated drawn id ∧
      issued = ⟨(freshAgent id boardId name token now).view, token⟩ ∧
      writes = [⟨.insert, Agent.schema, (freshAgent id boardId name token now).record⟩]
  | .heartbeat payload now, view, writes => payload.name = actor.name ∧
      view = (Agent.seen actor payload.status? now).view ∧
      writes = [⟨.update, Agent.schema, (Agent.seen actor payload.status? now).record⟩]
  | .listBoards, _, writes | .getBoard _, _, writes | .listTasks .., _, writes | .listTaskComments .., _, writes
  | .listMemory .., _, writes | .listApprovals .., _, writes => writes = []

/-! ## Lookups -/

theorem boardFor_grounds (boardId : String) :
    InStep drawn s s (boardFor actor boardId) (boardFor actor boardId) fun x y writes => writes = [] ∧
      x = y ∧ x.id = boardId ∧ Permits actor boardId ∧ s.Has "boards" boardId := by
  refine .bindSame (found_of_same rfl "board") fun board hfound => ?_
  have hid := board_of_found hfound.1
  refine .bindSame (.access _) fun _ hok => .value ⟨rfl, rfl, hid, ?_, ?_⟩
  · exact permits_of_requireAccess hok (congrArg some hid)
  · obtain ⟨row, hrow, hmeets, -⟩ := hfound.1
    exact ⟨row, hrow, meets_boardPlan.1 hmeets⟩

theorem taskFor_grounds (boardId taskId : String) :
    InStep drawn s s (taskFor actor boardId taskId) (taskFor actor boardId taskId) fun x y writes => writes = [] ∧
      x = y ∧ Permits actor boardId ∧ TaskOn s boardId taskId x := by
  refine (taskFor_of_same rfl rfl).mono fun x y writes hx => ?_
  obtain ⟨hwrites, hsame, hid, hboard, hstored, hpermits⟩ := hx
  exact ⟨hwrites, hsame, hpermits, hstored.1, hid, hboard⟩

theorem resolveAssignee_grounds (task : Task) (assignment : Assignment) :
    InStep drawn s s (resolveAssignee task assignment) (resolveAssignee task assignment)
      fun x y writes => writes = [] ∧ x = y ∧ AssigneeGrounds s task assignment x := by
  cases assignment with
  | keep => exact .value ⟨rfl, rfl, rfl⟩
  | clear => exact .value ⟨rfl, rfl, rfl⟩
  | assign agentId =>
    refine .bindSame (.query (.first_of_same rfl)) fun agent? hfound => ?_
    refine .bindSame (.checked _) fun agent hagent => ?_
    split
    · rename_i hboard
      rcases agent? with _ | agent
      · cases hagent
      · cases hagent
        obtain ⟨hfound, -⟩ := hfound agent rfl
        refine .value ⟨rfl, rfl, agent, rfl, agent_of_found hfound, hboard, ?_⟩
        obtain ⟨row, hrow, -, hdecode⟩ := hfound
        exact ⟨row, hrow, hdecode⟩
    · exact .fail _

theorem requireTask_grounds (board : Board) (taskId? : Option String) :
    InStep drawn s s (requireTask board taskId?) (requireTask board taskId?) fun x y writes => writes = [] ∧
      x = y ∧ ∀ taskId, taskId? = some taskId → s.Places "tasks" taskId (some board.id) := by
  rcases taskId? with _ | taskId
  · exact .value ⟨rfl, rfl, by simp⟩
  · have hany := @InStep.hasAny_decided _ Task.model (taskOnBoardPlan board.id taskId) s drawn rfl rfl
    refine .bindSame (.query hany) fun onBoard hany => ?_
    split
    · rename_i hon
      refine .value ⟨rfl, rfl, ?_⟩
      rintro _ ⟨⟩
      obtain ⟨row, hrow, hmeets⟩ := hany.1 hon
      exact ⟨row, hrow, meets_taskOnBoardPlan.1 hmeets⟩
    · exact .fail _

theorem nonBlank?_of_requireText {field text trimmed : String} (h : requireText field text = .ok trimmed) :
    Text.nonBlank? text = some trimmed := by
  unfold requireText at h
  split at h
  · rename_i htext
    cases h
    exact htext
  · cases h

/-! ## Requests that write -/

theorem applyUpdate_grounds {boardId taskId : String} (hpermits : Permits actor boardId) {task : Task}
    (htask : TaskOn s boardId taskId task) (update : TaskUpdate) (now : String) :
    InStep drawn s s (applyUpdate actor task update now) (applyUpdate actor task update now)
      fun x y writes => x = y ∧ (Request.updateTask boardId taskId update now).Grounds drawn actor s x writes := by
  unfold applyUpdate
  dsimp only
  split
  · exact .fail _
  · refine .bindSame (.checked _) fun status hstatus => ?_
    refine .bindSame (resolveAssignee_grounds task update.assignment) fun assignee? hassignee => ?_
    rcases hcomment : update.comment?.bind Text.nonBlank? with _ | message
    · refine .andReturn ((InStep.storage (.send rfl)).mono fun _ _ writes hwrites => ?_)
      exact ⟨rfl, hpermits, task, status, assignee?, htask, hstatus, hassignee, rfl, [], by rw [hcomment]; rfl, hwrites⟩
    · refine .bindSame (freshComment_inStep _ message now) fun comment hgenerated => ?_
      obtain ⟨id, hgenerated, rfl⟩ := hgenerated
      refine .andReturn ((InStep.storage (.sendAll [_, _])).mono fun _ _ writes hwrites => ?_)
      exact ⟨rfl, hpermits, task, status, assignee?, htask, hstatus, hassignee, rfl, _,
        by rw [hcomment]; exact ⟨id, hgenerated, rfl⟩, hwrites⟩

theorem createTaskComment_grounds (boardId taskId : String) (payload : NewComment) (now : String) :
    InStep drawn s s (createTaskComment actor boardId taskId payload now)
      (createTaskComment actor boardId taskId payload now) fun x y writes => x = y ∧
        (Request.createTaskComment boardId taskId payload now).Grounds drawn actor s x writes := by
  refine .bindSame (taskFor_grounds boardId taskId) fun task htask => ?_
  refine .bindSame (.checked _) fun message hmessage => ?_
  refine .bindSame (freshComment_inStep task message now) fun comment hcomment => ?_
  obtain ⟨id, hgenerated, rfl⟩ := hcomment
  refine .andReturn ((InStep.storage (.send rfl)).mono fun _ _ writes hwrites => ?_)
  exact ⟨rfl, htask.1, task, message, id, htask.2, nonBlank?_of_requireText hmessage, hgenerated, rfl, hwrites⟩

theorem createMemory_grounds (boardId : String) (payload : NewMemoryEntry) (now : String) :
    InStep drawn s s (createMemory actor boardId payload now) (createMemory actor boardId payload now)
      fun x y writes => x = y ∧ (Request.createMemory boardId payload now).Grounds drawn actor s x writes := by
  refine .bindSame (boardFor_grounds boardId) fun board hboard => ?_
  obtain ⟨rfl, hpermits, hboard⟩ := hboard
  refine .bindSame (.checked _) fun content hcontent => ?_
  refine .bindSame freshId_inStep fun id hgenerated => ?_
  refine .andReturn ((InStep.storage (.send rfl)).mono fun _ _ writes hwrites => ?_)
  exact ⟨rfl, hpermits, _, hboard, nonBlank?_of_requireText hcontent, hgenerated, rfl, rfl, hwrites⟩

theorem createApproval_grounds (boardId : String) (payload : NewApproval) (now : String) :
    InStep drawn s s (createApproval actor boardId payload now) (createApproval actor boardId payload now)
      fun x y writes => x = y ∧ (Request.createApproval boardId payload now).Grounds drawn actor s x writes := by
  refine .bindSame (boardFor_grounds boardId) fun board hboard => ?_
  obtain ⟨rfl, hpermits, hboard⟩ := hboard
  refine .bindSame (.checked _) fun actionType haction => ?_
  split
  · exact .fail _
  · rename_i hrange
    refine .bindSame (requireTask_grounds board _) fun _ htask => ?_
    refine .bindSame freshId_inStep fun id hgenerated => ?_
    refine .andReturn ((InStep.storage (.send rfl)).mono fun _ _ writes hwrites => ?_)
    exact ⟨rfl, hpermits, _, hboard, nonBlank?_of_requireText haction, by omega, by omega, htask, hgenerated, rfl, rfl,
      hwrites⟩

theorem latestActiveSession_grounds (board : Board) :
    InStep drawn s s (latestActiveSession board) (latestActiveSession board) fun x y writes => writes = [] ∧
      x = y ∧ OnboardingSession.model.StoredIn s x ∧ x.boardId = board.id := by
  refine .bindSame (.resolved _) fun plan hplan => ?_
  cases hplan
  refine (found_of_same rfl _).mono fun x y writes hx => ⟨hx.1, hx.2.1, ?_⟩
  obtain ⟨row, hrow, hmeets, hdecode⟩ := hx.2.2.1
  refine ⟨⟨row, hrow, hdecode⟩, ?_⟩
  have hboard := Predicate.holds_equals_string.1 (hmeets _ (List.mem_cons_self ..))
  exact Option.some.inj ((OnboardingSession.text?_of_ofRecord? hdecode).2.symm.trans hboard)

theorem updateOnboarding_grounds (boardId : String) (payload : Json) (now : String) :
    InStep drawn s s (updateOnboarding actor boardId payload now) (updateOnboarding actor boardId payload now)
      fun x y writes => x = y ∧ (Request.updateOnboarding boardId payload now).Grounds drawn actor s x writes := by
  refine .bindSame (boardFor_grounds boardId) fun board hboard => ?_
  obtain ⟨rfl, hpermits, hboard⟩ := hboard
  cases payload with
  | object answer =>
    refine .bindSame (latestActiveSession_grounds board) fun session hsession => ?_
    dsimp only
    split
    · exact .fail _
    · rename_i messages hmessages
      refine .andReturn ((InStep.storage (.send rfl)).mono fun _ _ writes hwrites => ?_)
      exact ⟨rfl, hpermits, session, answer, messages, hboard, hsession.1, hsession.2, rfl, hmessages, rfl, hwrites⟩
  | _ => exact .fail _

/-- The plan of the agents of a board with a name is met by just those. -/
theorem meets_agentsNamed {boardId name : String} {plan : Plan} (h : agentsNamed boardId name = .ok plan) {row : Record} :
    plan.Meets row ↔ row.text? "board_id" = some boardId ∧ row.text? "name" = some name := by
  cases h
  show (∀ part ∈ [Predicate.equals "board_id" (.string boardId), .equals "name" (.string name)],
    part.holds row = true) ↔ _
  rw [List.forall_mem_cons, List.forall_mem_singleton, Predicate.holds_equals_string, Predicate.holds_equals_string]

theorem createAgent_grounds (payload : NewAgent) (now : String) :
    InStep drawn s s (createAgent actor payload now) (createAgent actor payload now)
      fun x y writes => x = y ∧ (Request.createAgent payload now).Grounds drawn actor s x writes := by
  refine .bindSame (.access _) fun boardId hlead => ?_
  unfold createAgentOn
  refine .bindSame (.checked _) fun name hname => ?_
  refine .bindSame (.resolved _) fun plan hplan => ?_
  have hmeets := @meets_agentsNamed boardId name plan hplan
  cases hplan
  refine .bindSame (.query (.hasAny_decided rfl rfl)) fun taken htaken => ?_
  split
  · exact .fail _
  · rename_i hfree
    refine .bindSame (freshHex_inStep 32) fun token htoken => ?_
    refine .bindSame freshId_inStep fun id hgenerated => ?_
    refine .andReturn (((InStep.send rfl).mapError _).mono fun _ _ writes hwrites => ?_)
    refine ⟨rfl, boardId, name, token, id, hlead, nonBlank?_of_requireText hname, ?_, htoken, hgenerated, rfl, hwrites⟩
    intro row hrow hboard hsame
    exact hfree (htaken.2 ⟨row, hrow, hmeets.2 ⟨hboard, hsame⟩⟩)

theorem heartbeat_grounds (payload : Heartbeat) (now : String) :
    InStep drawn s s (heartbeat actor payload now) (heartbeat actor payload now)
      fun x y writes => x = y ∧ (Request.heartbeat payload now).Grounds drawn actor s x writes := by
  refine .bindSame (.access _) fun _ hidentity => ?_
  have hname : payload.name = actor.name := by
    unfold Agent.requireIdentity at hidentity
    split at hidentity
    · rename_i hsame
      exact hsame.symm
    · cases hidentity
  refine .andReturn ((InStep.storage (.send rfl)).mono fun _ _ writes hwrites => ?_)
  exact ⟨rfl, hname, rfl, hwrites⟩

/-! ## Every request -/

/-- A request that ends with a reply has had its grounds for it. -/
theorem serve_grounds (request : Request) :
    InStep drawn s s (request.serve actor) (request.serve actor)
      fun x y writes => x = y ∧ request.Grounds drawn actor s x writes := by
  -- A request that only reads has written nothing, which is known of it already.
  have hwrites := serve_inStep (SeenAlike.refl drawn actor s) request
  cases request with
  | updateTask boardId taskId update now =>
    exact .bindSame (taskFor_grounds boardId taskId) fun task htask =>
      applyUpdate_grounds htask.1 htask.2 update now
  | createTaskComment boardId taskId payload now => exact createTaskComment_grounds _ _ _ _
  | createMemory boardId payload now => exact createMemory_grounds _ _ _
  | createApproval boardId payload now => exact createApproval_grounds _ _ _
  | updateOnboarding boardId payload now => exact updateOnboarding_grounds _ _ _
  | createAgent payload now => exact createAgent_grounds _ _
  | heartbeat payload now => exact heartbeat_grounds _ _
  | _ => exact hwrites

/-- What requests do to boards and agents: one adds an agent with a name that is free on its board, one overwrites
the row of its caller with a sign of life, and all the others write to other tables. -/
theorem agentWrites_of_grounds {request : Request} {reply : request.Reply} {writes : List Write}
    (h : request.Grounds drawn actor s reply writes) :
    (∀ w ∈ writes, w.schema.table ∉ ["boards", "agents"]) ∨
      (∃ boardId name id now bytes,
        (∀ row ∈ s.rows "agents", row.text? "board_id" = some boardId → row.text? "name" ≠ some name) ∧
        drawn 32 bytes ∧ Generated drawn id ∧
        writes = [⟨.insert, Agent.schema, (freshAgent id boardId name (Text.hex bytes) now).record⟩]) ∨
      ∃ status? now, writes = [⟨.update, Agent.schema, (Agent.seen actor status? now).record⟩] := by
  cases request with
  | updateTask boardId taskId update now =>
    obtain ⟨-, task, status, assignee?, -, -, -, -, rest, hrest, rfl⟩ := h
    have htask : Task.schema.table ∉ ["boards", "agents"] := by decide
    refine .inl (List.forall_mem_cons.2 ⟨htask, ?_⟩)
    generalize update.comment?.bind Text.nonBlank? = message? at hrest
    rcases message? with _ | message
    · obtain rfl := hrest
      simp
    · obtain ⟨id, -, rfl⟩ := hrest
      exact List.forall_mem_singleton.2 (by decide : TaskComment.schema.table ∉ ["boards", "agents"])
  | createTaskComment boardId taskId payload now =>
    obtain ⟨-, task, message, id, -, -, -, -, rfl⟩ := h
    exact .inl (List.forall_mem_singleton.2 (by decide : TaskComment.schema.table ∉ ["boards", "agents"]))
  | createMemory boardId payload now =>
    obtain ⟨-, entry, -, -, -, -, -, rfl⟩ := h
    exact .inl (List.forall_mem_singleton.2 (by decide : MemoryEntry.schema.table ∉ ["boards", "agents"]))
  | createApproval boardId payload now =>
    obtain ⟨-, approval, -, -, -, -, -, -, -, -, rfl⟩ := h
    exact .inl (List.forall_mem_singleton.2 (by decide : Approval.schema.table ∉ ["boards", "agents"]))
  | updateOnboarding boardId payload now =>
    obtain ⟨-, session, answer, messages, -, -, -, -, -, -, rfl⟩ := h
    exact .inl (List.forall_mem_singleton.2 (by decide : OnboardingSession.schema.table ∉ ["boards", "agents"]))
  | createAgent payload now =>
    obtain ⟨boardId, name, token, id, -, -, hfree, ⟨bytes, hdrawn, rfl⟩, hgenerated, -, rfl⟩ := h
    exact .inr (.inl ⟨boardId, name, id, now, bytes, hfree, hdrawn, hgenerated, rfl⟩)
  | heartbeat payload now =>
    obtain ⟨-, -, rfl⟩ := h
    exact .inr (.inr ⟨_, _, rfl⟩)
  | _ =>
    obtain rfl : writes = [] := h
    exact .inl nofun

end Endpoint

end Taskboard
