/-
What requests read and write. Two states that a caller cannot tell apart (`SeenAlike`) answer every
request of it alike, and the request changes them by the same writes, which `Request.Writes` lists
for each kind of request (`serve_inStep`). Every state is like itself, so this also says of one state
what a request that ends with a reply has written.
-/
import Taskboard.Proofs.Endpoint.Lookup

namespace Taskboard.Endpoint

open Taskboard.Flow

variable {drawn : Nat → List UInt8 → Prop} {actor : Agent} {s t : Tables}

/-! ## States that look alike -/

/-- The kinds of entities that callers list by their board. -/
def listedByBoard : List Entity :=
  [.task, .agent, .approval, .memory, .session]

/-- Two states that a caller cannot tell apart: its lookups go in step, and what it may list has one
answer in both. -/
structure SeenAlike (drawn : Nat → List UInt8 → Prop) (actor : Agent) (s t : Tables) : Prop where
  boards : InStep drawn s t (listBoards actor) (listBoards actor) fun x y writes => writes = [] ∧ x = y
  board (boardId : String) :
    InStep drawn s t (boardFor actor boardId) (boardFor actor boardId) fun x y writes => writes = [] ∧
      x = y ∧ x.id = boardId ∧ Permits actor boardId
  task (boardId taskId : String) :
    InStep drawn s t (taskFor actor boardId taskId) (taskFor actor boardId taskId) fun x y writes => writes = [] ∧
      x = y ∧ x.id = taskId ∧ x.boardId? = some boardId ∧ Task.model.Stored s t x ∧ Permits actor boardId
  assignee (task : Task) (assignment : Assignment) :
    InStep drawn s t (resolveAssignee task assignment) (resolveAssignee task assignment)
      fun x y writes => writes = [] ∧ x = y
  onBoard {boardId : String} (hpermits : Permits actor boardId) {plan : Plan} {entity : Entity}
    (hentity : entity ∈ listedByBoard) (hschema : plan.schema = entity.model.schema)
    (hboard : .equals "board_id" (.string boardId) ∈ plan.predicates) : s.answer plan = t.answer plan
  onTask {boardId : String} (hpermits : Permits actor boardId) {plan : Plan} {task : Task}
    (hschema : plan.schema = TaskComment.schema) (hboard : task.boardId? = some boardId)
    (hstored : Task.model.Stored s t task) (htask : .equals "task_id" (.string task.id) ∈ plan.predicates) :
    s.answer plan = t.answer plan

theorem SeenAlike.refl (drawn : Nat → List UInt8 → Prop) (actor : Agent) (s : Tables) :
    SeenAlike drawn actor s s where
  boards := by
    unfold listBoards
    split <;> exact (InStep.query (.all_of_same rfl)).mono fun x y writes h => ⟨h.1, h.2.1⟩
  board _ := boardFor_of_same rfl
  task _ _ := taskFor_of_same rfl rfl
  assignee task assignment := resolveAssignee_of_same task assignment fun _ => rfl
  onBoard := by intros; rfl
  onTask := by intros; rfl

/-! ## New identifiers -/

/-- An identifier made of random bytes. -/
def Generated (drawn : Nat → List UInt8 → Prop) (id : String) : Prop :=
  ∃ bytes, drawn 16 bytes ∧ id = Text.hex bytes

/-- What is made of the bytes that a run draws is one of its identifiers. -/
theorem Generated.mem_identifiers {ε α : Type} {flow : Flow ε α} {state : Tables} {source : Entropy} {id : String}
    (h : Generated (flow.Drawn Tables.store state source) id) :
    id ∈ flow.identifiers Tables.store state source := by
  obtain ⟨bytes, hdrawn, rfl⟩ := h
  exact Flow.mem_identifiers hdrawn

theorem freshHex_inStep (size : Nat) : InStep drawn s t (freshHex size) (freshHex size)
    fun x y writes => writes = [] ∧ x = y ∧ ∃ bytes, drawn size bytes ∧ x = Text.hex bytes :=
  .random (.fail _) fun bytes hdrawn => .value ⟨rfl, rfl, bytes, hdrawn, rfl⟩

theorem freshId_inStep : InStep drawn s t freshId freshId
    fun x y writes => writes = [] ∧ x = y ∧ Generated drawn x :=
  freshHex_inStep 16

/-! ## Writes of requests -/

/-- The write of a comment, if there is one, that a caller leaves on a task. -/
def CommentWrites (drawn : Nat → List UInt8 → Prop) (actor : Agent) (task : Task) (now : String) :
    Option String → List Write → Prop
  | none, writes => writes = []
  | some message, writes => ∃ id, Generated drawn id ∧
      writes = [⟨.insert, TaskComment.schema,
        (TaskComment.mk id task.id task.boardId? (some actor.id) message now).record⟩]

/-- What a request that ends with a reply has written. -/
def Request.Writes (drawn : Nat → List UInt8 → Prop) (actor : Agent) (s t : Tables) :
    (request : Request) → request.Reply → List Write → Prop
  | .updateTask boardId taskId update now, task, writes => Permits actor boardId ∧
      task.id = taskId ∧ task.boardId? = some boardId ∧
      (∃ before, Task.model.Stored s t before ∧ before.id = taskId ∧ before.boardId? = some boardId) ∧
      ∃ rest, CommentWrites drawn actor task now (update.comment?.bind Text.nonBlank?) rest ∧
        writes = ⟨.update, Task.schema, task.record⟩ :: rest
  | .createTaskComment boardId taskId _ _, comment, writes => Permits actor boardId ∧
      comment.taskId = taskId ∧ comment.boardId? = some boardId ∧ Generated drawn comment.id ∧
      writes = [⟨.insert, TaskComment.schema, comment.record⟩]
  | .createMemory boardId _ _, view, writes => Permits actor boardId ∧
      ∃ entry : MemoryEntry, entry.view = view ∧ entry.boardId = boardId ∧ Generated drawn entry.id ∧
        writes = [⟨.insert, MemoryEntry.schema, entry.record⟩]
  | .createApproval boardId _ _, view, writes => Permits actor boardId ∧
      ∃ approval : Approval, approval.view = view ∧ approval.boardId = boardId ∧
        0 ≤ approval.confidence ∧ approval.confidence ≤ 100 ∧ Generated drawn approval.id ∧
        writes = [⟨.insert, Approval.schema, approval.record⟩]
  | .updateOnboarding boardId _ _, view, writes => Permits actor boardId ∧
      ∃ session : OnboardingSession, session.view = view ∧ session.boardId = boardId ∧
        (∃ before, OnboardingSession.model.Stored s t before ∧ before.id = session.id ∧
          before.boardId = boardId) ∧
        writes = [⟨.update, OnboardingSession.schema, session.record⟩]
  | .createAgent _ _, issued, writes =>
      ∃ agent : Agent, agent.view = issued.agent ∧ (∃ boardId, actor.boundBoard? = some boardId ∧
        agent.boardId? = some boardId) ∧ Generated drawn agent.id ∧
        writes = [⟨.insert, Agent.schema, agent.record⟩]
  | .heartbeat payload now, view, writes => (Agent.seen actor payload.status? now).view = view ∧
      writes = [⟨.update, Agent.schema, (Agent.seen actor payload.status? now).record⟩]
  | .listBoards, _, writes | .getBoard _, _, writes | .listTasks .., _, writes | .listTaskComments .., _, writes
  | .listMemory .., _, writes | .listApprovals .., _, writes => writes = []

/-! ## The plan of a listing of tasks -/

/-- A plan narrowed to the tasks of a board and to what a filter says of their assignees. -/
def narrowed (board : Board) (filter : TaskFilter) (plan : Plan) : Plan :=
  let onBoard := plan.filter (.is "board_id" (.string board.id))
  let ofAssignee := match filter.assignee? with
    | some agent => onBoard.filter (.is "assigned_agent_id" (.string agent))
    | none => onBoard
  if filter.unassigned? = some true then ofAssignee.filter (.missing "assigned_agent_id") else ofAssignee

/-- Another condition takes none of the conditions away. -/
theorem mem_predicates_filter {plan : Plan} {part : Predicate} (h : part ∈ plan.predicates) (added : Predicate) :
    part ∈ (plan.filter added).predicates :=
  List.mem_append_left _ h

theorem equals_mem_narrowed (board : Board) (filter : TaskFilter) (plan : Plan) :
    (narrowed board filter plan).schema = plan.schema ∧
      .equals "board_id" (.string board.id) ∈ (narrowed board filter plan).predicates := by
  have hboard : .equals "board_id" (.string board.id) ∈
      (plan.filter (.is "board_id" (.string board.id))).predicates :=
    List.mem_append_right _ (List.mem_singleton.2 rfl)
  unfold narrowed
  cases filter.assignee? <;> by_cases hunassigned : filter.unassigned? = some true
  all_goals simp only [hunassigned, if_true, if_false]
  · exact ⟨rfl, mem_predicates_filter hboard _⟩
  · exact ⟨rfl, hboard⟩
  · exact ⟨rfl, mem_predicates_filter (mem_predicates_filter hboard _) _⟩
  · exact ⟨rfl, mem_predicates_filter hboard _⟩

theorem taskPlan_eq_ok {board : Board} {statuses : List TaskStatus} {filter : TaskFilter} {plan : Plan}
    (h : taskPlan board statuses filter = .ok plan) :
    ∃ everyStatus : Plan, everyStatus.schema = Task.schema ∧ narrowed board filter everyStatus = plan := by
  by_cases hstatus : statuses.isEmpty = true
  · have heq : taskPlan board statuses filter = .ok (narrowed board filter Task.schema.all) := by
      unfold taskPlan
      rw [if_pos hstatus]
      rfl
    exact ⟨_, rfl, Except.ok.inj (heq.symm.trans h)⟩
  · have heq : taskPlan board statuses filter =
        (Task.schema.withValueIn "status" (statuses.map fun status => .string status.word)).map
          (narrowed board filter) := by
      unfold taskPlan
      rw [if_neg hstatus]
      rfl
    refine ⟨_, ?_, Except.ok.inj (heq.symm.trans h)⟩
    split <;> rfl

/-- A listing of tasks asks for tasks of its board. -/
theorem equals_mem_of_taskPlan {board : Board} {statuses : List TaskStatus} {filter : TaskFilter} {plan : Plan}
    (h : taskPlan board statuses filter = .ok plan) :
    plan.schema = Task.schema ∧ .equals "board_id" (.string board.id) ∈ plan.predicates := by
  obtain ⟨everyStatus, hschema, rfl⟩ := taskPlan_eq_ok h
  obtain ⟨hsame, hboard⟩ := equals_mem_narrowed board filter everyStatus
  exact ⟨hsame.trans hschema, hboard⟩

section Requests

variable (h : SeenAlike drawn actor s t)
include h

/-- A listing of what is on a board that a caller may touch. -/
theorem SeenAlike.all {α : Type} (model : Model α) (plan : Plan) {boardId : String} {entity : Entity}
    (hpermits : Permits actor boardId) (hentity : entity ∈ listedByBoard)
    (hschema : plan.schema = entity.model.schema)
    (hboard : .equals "board_id" (.string boardId) ∈ plan.predicates) :
    InStep drawn s t (liftM (model.all plan) : Serving (List α)) (liftM (model.all plan))
      fun x y writes => writes = [] ∧ x = y :=
  (InStep.query (.all_of_same (h.onBoard hpermits hentity hschema hboard))).mono fun _ _ _ hx => ⟨hx.1, hx.2.1⟩

theorem SeenAlike.hasAny {α : Type} (model : Model α) (plan : Plan) {boardId : String} {entity : Entity}
    (hpermits : Permits actor boardId) (hentity : entity ∈ listedByBoard)
    (hschema : plan.schema = entity.model.schema)
    (hboard : .equals "board_id" (.string boardId) ∈ plan.predicates) :
    InStep drawn s t (liftM (model.hasAny plan) : Serving Bool) (liftM (model.hasAny plan))
      fun x y writes => writes = [] ∧ x = y := by
  have hanswer : s.answer (plan.take 1) = t.answer (plan.take 1) := h.onBoard hpermits hentity hschema hboard
  exact (InStep.query (.hasAny_of_same hanswer)).mono fun _ _ _ hx => ⟨hx.1, hx.2.1⟩

/-! ## Listings -/

theorem listTasks_inStep (boardId : String) (filter : TaskFilter) (config : Config) :
    InStep drawn s t (listTasks actor boardId filter config) (listTasks actor boardId filter config)
      fun x y writes => writes = [] ∧ x = y := by
  refine .bindSame (h.board boardId) fun board hboard => ?_
  obtain ⟨rfl, hpermits⟩ := hboard
  unfold tasksOfBoard
  refine .bindSame (.checked _) fun statuses _ => ?_
  refine .bindSame (.resolved _) fun plan hplan => ?_
  refine .bindSame (.checked _) fun limit _ => ?_
  obtain ⟨hschema, hmem⟩ := equals_mem_of_taskPlan hplan
  exact h.all Task.model _ hpermits (show .task ∈ listedByBoard by decide) hschema hmem

theorem listTaskComments_inStep (boardId taskId : String) :
    InStep drawn s t (listTaskComments actor boardId taskId) (listTaskComments actor boardId taskId)
      fun x y writes => writes = [] ∧ x = y := by
  refine .bindSame (h.task boardId taskId) fun task htask => ?_
  obtain ⟨rfl, hboard, hstored, hpermits⟩ := htask
  refine .bindSame (.resolved _) fun plan hplan => ?_
  cases hplan
  refine (InStep.query (.all_of_same ?_)).mono fun x y writes hx => ⟨hx.1, hx.2.1⟩
  exact h.onTask hpermits rfl hboard hstored (List.mem_singleton.2 rfl)

theorem listMemory_inStep (boardId : String) (page : Page) :
    InStep drawn s t (listMemory actor boardId page) (listMemory actor boardId page)
      fun x y writes => writes = [] ∧ x = y := by
  refine .bindSame (h.board boardId) fun board hboard => ?_
  obtain ⟨rfl, hpermits⟩ := hboard
  refine .bindSame (.resolved _) fun plan hplan => ?_
  cases hplan
  refine .bindEqual (h.all _ _ hpermits (show .memory ∈ listedByBoard by decide) rfl ?_)
    fun entries => .value ⟨rfl, rfl⟩
  exact List.mem_singleton.2 rfl

theorem listApprovals_inStep (boardId : String) (status? : Option String) :
    InStep drawn s t (listApprovals actor boardId status?) (listApprovals actor boardId status?)
      fun x y writes => writes = [] ∧ x = y := by
  refine .bindSame (h.board boardId) fun board hboard => ?_
  obtain ⟨rfl, hpermits⟩ := hboard
  unfold approvalsOfBoard
  refine .bindSame (.resolved _) fun plan hplan => ?_
  cases hplan
  refine .bindSame (.checked _) fun status? _ => ?_
  refine .bindEqual (h.all _ _ hpermits (show .approval ∈ listedByBoard by decide) ?_ ?_)
    fun approvals => .value ⟨rfl, rfl⟩
  · cases status? <;> rfl
  · cases status? <;> exact List.mem_cons_self ..

/-! ## Additions -/

omit h in
theorem freshComment_inStep (task : Task) (message now : String) :
    InStep drawn s t (freshComment actor task message now) (freshComment actor task message now)
      fun x y writes => writes = [] ∧ x = y ∧ ∃ id, Generated drawn id ∧
        x = ⟨id, task.id, task.boardId?, some actor.id, message, now⟩ := by
  refine .bindSame freshId_inStep fun id hgenerated => ?_
  exact .value ⟨rfl, rfl, id, hgenerated, rfl⟩

theorem createTaskComment_inStep (boardId taskId : String) (payload : NewComment) (now : String) :
    InStep drawn s t (createTaskComment actor boardId taskId payload now)
      (createTaskComment actor boardId taskId payload now) fun x y writes => x = y ∧
        (Request.createTaskComment boardId taskId payload now).Writes drawn actor s t x writes := by
  refine .bindSame (h.task boardId taskId) fun task htask => ?_
  obtain ⟨hid, hboard, -, hpermits⟩ := htask
  refine .bindSame (.checked _) fun message _ => ?_
  refine .bindSame (freshComment_inStep task message now) fun comment hcomment => ?_
  obtain ⟨id, hgenerated, rfl⟩ := hcomment
  refine .andReturn ((InStep.storage (.send rfl)).mono fun _ _ writes hwrites => ?_)
  exact ⟨rfl, hpermits, hid, hboard, hgenerated, hwrites⟩

theorem createMemory_inStep (boardId : String) (payload : NewMemoryEntry) (now : String) :
    InStep drawn s t (createMemory actor boardId payload now) (createMemory actor boardId payload now)
      fun x y writes => x = y ∧ (Request.createMemory boardId payload now).Writes drawn actor s t x writes := by
  refine .bindSame (h.board boardId) fun board hboard => ?_
  obtain ⟨hid, hpermits⟩ := hboard
  refine .bindSame (.checked _) fun content _ => ?_
  refine .bindSame freshId_inStep fun id hgenerated => ?_
  refine .andReturn ((InStep.storage (.send rfl)).mono fun _ _ writes hwrites => ?_)
  exact ⟨rfl, hpermits, _, rfl, hid, hgenerated, hwrites⟩

/-- The task that an approval names is looked for on the board. -/
theorem requireTask_inStep {board : Board} (hpermits : Permits actor board.id) (taskId? : Option String) :
    InStep drawn s t (requireTask board taskId?) (requireTask board taskId?)
      fun x y writes => writes = [] ∧ x = y := by
  rcases taskId? with _ | taskId
  · exact .value ⟨rfl, rfl⟩
  · have hany := h.hasAny Task.model (taskOnBoardPlan board.id taskId) hpermits
      (show .task ∈ listedByBoard by decide) rfl (List.mem_cons_of_mem _ (List.mem_singleton.2 rfl))
    refine .bindEqual hany fun onBoard => ?_
    split
    · exact .value ⟨rfl, rfl⟩
    · exact .fail _

theorem createApproval_inStep (boardId : String) (payload : NewApproval) (now : String) :
    InStep drawn s t (createApproval actor boardId payload now) (createApproval actor boardId payload now)
      fun x y writes => x = y ∧ (Request.createApproval boardId payload now).Writes drawn actor s t x writes := by
  refine .bindSame (h.board boardId) fun board hboard => ?_
  obtain ⟨rfl, hpermits⟩ := hboard
  refine .bindSame (.checked _) fun actionType _ => ?_
  split
  · exact .fail _
  · rename_i hrange
    refine .bindEqual (requireTask_inStep h hpermits _) fun _ => ?_
    refine .bindSame freshId_inStep fun id hgenerated => ?_
    refine .andReturn ((InStep.storage (.send rfl)).mono fun _ _ writes hwrites => ?_)
    exact ⟨rfl, hpermits, _, rfl, rfl, by dsimp only; omega, by dsimp only; omega, hgenerated, hwrites⟩

theorem createAgent_inStep (payload : NewAgent) (now : String) :
    InStep drawn s t (createAgent actor payload now) (createAgent actor payload now)
      fun x y writes => x = y ∧ (Request.createAgent payload now).Writes drawn actor s t x writes := by
  refine .bindSame (.access _) fun boardId hlead => ?_
  -- The new agent is placed on the board of the lead, so its names are looked for there.
  have hbound := boundBoard?_of_leadBoard hlead
  unfold createAgentOn
  refine .bindSame (.checked _) fun name _ => ?_
  refine .bindSame (.resolved _) fun plan hplan => ?_
  cases hplan
  have hpermits := permits_of_bound hbound
  refine .bindEqual (h.hasAny _ _ hpermits (show .agent ∈ listedByBoard by decide) rfl ?_) fun taken => ?_
  · exact List.mem_cons_self ..
  split
  · exact .fail _
  · refine .bindSame (freshHex_inStep 32) fun token _ => ?_
    refine .bindSame freshId_inStep fun id hgenerated => ?_
    refine .andReturn (((InStep.send rfl).mapError _).mono fun _ _ writes hwrites => ?_)
    exact ⟨rfl, _, rfl, ⟨boardId, hbound, rfl⟩, hgenerated, hwrites⟩

/-! ## Changes -/

theorem applyUpdate_inStep {boardId : String} (hpermits : Permits actor boardId) {task : Task}
    (hboard : task.boardId? = some boardId) (hstored : Task.model.Stored s t task) (update : TaskUpdate)
    (now : String) :
    InStep drawn s t (applyUpdate actor task update now) (applyUpdate actor task update now)
      fun x y writes => x = y ∧ (Request.updateTask boardId task.id update now).Writes drawn actor s t x writes := by
  unfold applyUpdate
  dsimp only
  split
  · exact .fail _
  · refine .bindSame (.checked _) fun status _ => ?_
    refine .bindEqual (h.assignee task update.assignment) fun assignee? => ?_
    have hbefore : ∃ before, Task.model.Stored s t before ∧ before.id = task.id ∧ before.boardId? = some boardId :=
      ⟨task, hstored, rfl, hboard⟩
    -- Without a comment the task is written alone, and with one both are sent in one batch.
    rcases hcomment : update.comment?.bind Text.nonBlank? with _ | message
    · refine .andReturn ((InStep.storage (.send rfl)).mono fun _ _ writes hwrites => ?_)
      exact ⟨rfl, hpermits, rfl, hboard, hbefore, [], by rw [hcomment]; rfl, hwrites⟩
    · refine .bindSame (freshComment_inStep _ message now) fun comment hgenerated => ?_
      obtain ⟨id, hgenerated, rfl⟩ := hgenerated
      refine .andReturn ((InStep.storage (.sendAll [_, _])).mono fun _ _ writes hwrites => ?_)
      exact ⟨rfl, hpermits, rfl, hboard, hbefore, _, by rw [hcomment]; exact ⟨id, hgenerated, rfl⟩, hwrites⟩

theorem updateTask_inStep (boardId taskId : String) (update : TaskUpdate) (now : String) :
    InStep drawn s t (updateTask actor boardId taskId update now) (updateTask actor boardId taskId update now)
      fun x y writes => x = y ∧ (Request.updateTask boardId taskId update now).Writes drawn actor s t x writes := by
  refine .bindSame (h.task boardId taskId) fun task htask => ?_
  obtain ⟨rfl, hboard, hstored, hpermits⟩ := htask
  exact applyUpdate_inStep h hpermits hboard hstored update now

theorem latestActiveSession_inStep {board : Board} (hpermits : Permits actor board.id) :
    InStep drawn s t (latestActiveSession board) (latestActiveSession board) fun x y writes => writes = [] ∧
      x = y ∧ x.boardId = board.id ∧ OnboardingSession.model.Stored s t x := by
  refine .bindSame (.resolved _) fun plan hplan => ?_
  cases hplan
  refine (found_of_same ?_ _).mono fun x y writes hx => ?_
  · exact h.onBoard hpermits (show .session ∈ listedByBoard by decide) rfl (List.mem_cons_self ..)
  obtain ⟨hwrites, hsame, hs, ht⟩ := hx
  refine ⟨hwrites, hsame, ?_, Model.stored_of_found rfl hs ht⟩
  obtain ⟨row, -, hmeets, hdecode⟩ := hs
  have hboard := Predicate.holds_equals_string.1 (hmeets _ (List.mem_cons_self ..))
  exact Option.some.inj ((OnboardingSession.text?_of_ofRecord? hdecode).2.symm.trans hboard)

theorem updateOnboarding_inStep (boardId : String) (payload : Json) (now : String) :
    InStep drawn s t (updateOnboarding actor boardId payload now) (updateOnboarding actor boardId payload now)
      fun x y writes => x = y ∧ (Request.updateOnboarding boardId payload now).Writes drawn actor s t x writes := by
  refine .bindSame (h.board boardId) fun board hboard => ?_
  obtain ⟨rfl, hpermits⟩ := hboard
  cases payload with
  | object answer =>
    refine .bindSame (latestActiveSession_inStep h hpermits) fun session hsession => ?_
    obtain ⟨hboard, hstored⟩ := hsession
    dsimp only
    split
    · exact .fail _
    · refine .andReturn ((InStep.storage (.send rfl)).mono fun _ _ writes hwrites => ?_)
      exact ⟨rfl, hpermits, _, rfl, hboard, ⟨session, hstored, rfl, hboard⟩, hwrites⟩
  | _ => exact .fail _

omit h in
theorem heartbeat_inStep (payload : Heartbeat) (now : String) :
    InStep drawn s t (heartbeat actor payload now) (heartbeat actor payload now)
      fun x y writes => x = y ∧ (Request.heartbeat payload now).Writes drawn actor s t x writes := by
  refine .bindSame (.access _) fun _ _ => ?_
  refine .andReturn ((InStep.storage (.send rfl)).mono fun _ _ writes hwrites => ?_)
  exact ⟨rfl, rfl, hwrites⟩

/-! ## Every request -/

/-- Two states that a caller cannot tell apart answer every request of it alike, and are changed by
the same writes. -/
theorem serve_inStep (request : Request) :
    InStep drawn s t (request.serve actor) (request.serve actor)
      fun x y writes => x = y ∧ request.Writes drawn actor s t x writes := by
  cases request with
  | listBoards => exact h.boards.mono fun _ _ _ hx => ⟨hx.2, hx.1⟩
  | getBoard boardId => exact (h.board boardId).mono fun _ _ _ hx => ⟨hx.2.1, hx.1⟩
  | listTasks boardId filter config => exact (listTasks_inStep h _ _ _).mono fun _ _ _ hx => ⟨hx.2, hx.1⟩
  | updateTask boardId taskId update now => exact updateTask_inStep h _ _ _ _
  | listTaskComments boardId taskId => exact (listTaskComments_inStep h _ _).mono fun _ _ _ hx => ⟨hx.2, hx.1⟩
  | createTaskComment boardId taskId payload now => exact createTaskComment_inStep h _ _ _ _
  | listMemory boardId page => exact (listMemory_inStep h _ _).mono fun _ _ _ hx => ⟨hx.2, hx.1⟩
  | createMemory boardId payload now => exact createMemory_inStep h _ _ _
  | listApprovals boardId status? => exact (listApprovals_inStep h _ _).mono fun _ _ _ hx => ⟨hx.2, hx.1⟩
  | createApproval boardId payload now => exact createApproval_inStep h _ _ _
  | updateOnboarding boardId payload now => exact updateOnboarding_inStep h _ _ _
  | createAgent payload now => exact createAgent_inStep h _ _
  | heartbeat payload now => exact heartbeat_inStep _ _

end Requests

end Taskboard.Endpoint
