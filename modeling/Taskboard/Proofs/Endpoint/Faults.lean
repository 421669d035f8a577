/-
What requests make of faults. Every request is prudent: it sends only writes that have statements, and at the
first error of the store, or the first row that cannot be read, it ends as `Request.told` says (`serve_blames`).
-/
import Taskboard.Proofs.Endpoint.Grounds
import Taskboard.Proofs.Flow.History
import Taskboard.Proofs.Text.Trim

namespace Taskboard.Endpoint

open Taskboard.Flow

variable {α β : Type}

/-! ## What is told -/

/-- An error of the store, told as one inside. -/
def inside (_ : Ask) (e : StorageError) : Failure :=
  .query (.storage e)

/-- What a request tells of an error of the store: only a refused row of a new agent says that the name is taken. -/
def Request.told : Request → Ask → StorageError → Failure
  | .createAgent payload _, .write ⟨.insert, _, _⟩, .constraint _ => .conflict (.nameTaken (Text.trim payload.name))
  | _, ask, e => inside ask e

/-- A plan whose columns are declared is gone on with. -/
theorem resolved_blames {blame : Ask → StorageError → Failure} {result : Except UnknownField α}
    {next : α → Serving β} (h : ∀ x, result = .ok x → (next x).Blames blame) :
    ((liftM result : Serving α) >>= next).Blames blame := by
  cases result with
  | ok x => exact h x rfl
  | error e => exact .done _

theorem checked_blames {blame : Ask → StorageError → Failure} {result : Except Failure α}
    {next : α → Serving β} (h : ∀ x, result = .ok x → (next x).Blames blame) :
    ((liftM result : Serving α) >>= next).Blames blame := by
  cases result with
  | ok x => exact h x rfl
  | error e => exact .done _

/-! ## Queries and writes -/

theorem all_blames (entity : Entity) {plan : Plan} (hschema : plan.schema = entity.model.schema) :
    (liftM (entity.model.all plan) : Serving (List entity.Value)).Blames inside :=
  .all (fun _ _ => rfl) entity hschema

theorem first_blames (entity : Entity) {plan : Plan} (hschema : plan.schema = entity.model.schema) :
    (liftM (entity.model.first plan) : Serving (Option entity.Value)).Blames inside :=
  .first (fun _ _ => rfl) entity hschema

theorem send_blames (saving : Saving) :
    (liftM (saving.entity.model.send saving.kind saving.value) : Serving Unit).Blames inside :=
  .send saving fun _ => rfl

theorem sendAll_blames {savings : List Saving} (hne : savings ≠ []) :
    (liftM (Flow.sendAll (savings.map Saving.asked)) : Serving Unit).Blames inside :=
  .sendAll (fun _ => rfl) hne

/-! ## Lookups -/

theorem findBoard_blames (boardId : String) : (findBoard boardId).Blames inside :=
  .bind (first_blames .board rfl) fun _ => .done _

theorem boardFor_blames (actor : Agent) (boardId : String) : (boardFor actor boardId).Blames inside :=
  .bind (findBoard_blames boardId) fun _ => .bind (.done _) fun _ => .done _

theorem taskFor_blames (actor : Agent) (boardId taskId : String) : (taskFor actor boardId taskId).Blames inside := by
  refine .bind (findBoard_blames boardId) fun board => ?_
  refine .bind (.bind (first_blames .task rfl) fun _ => .done _) fun task => ?_
  exact .bind (.done _) fun _ => .done _

theorem freshHex_blames {blame : Ask → StorageError → Failure} (size : Nat) : (freshHex size).Blames blame :=
  .random fun bytes? => by cases bytes? <;> exact .done _

/-! ## Requests -/

theorem listBoards_blames (actor : Agent) : (listBoards actor).Blames inside := by
  unfold listBoards
  split
  · exact all_blames .board rfl
  · exact all_blames .board rfl

theorem tasksOfBoard_blames (board : Board) (filter : TaskFilter) (pageMax : Nat) :
    (tasksOfBoard board filter pageMax).Blames inside := by
  refine .bind (.done _) fun statuses => ?_
  refine resolved_blames fun plan hplan => ?_
  refine .bind (.done _) fun limit => ?_
  have hschema : plan.schema = Task.schema := (equals_mem_of_taskPlan hplan).1
  exact all_blames .task hschema

theorem resolveAssignee_blames (task : Task) (assignment : Assignment) :
    (resolveAssignee task assignment).Blames inside := by
  cases assignment with
  | keep | clear => exact .done _
  | assign agentId =>
    refine .bind (first_blames .agent rfl) fun agent? => ?_
    refine .bind (.done _) fun agent => ?_
    split <;> exact .done _

/-- A task and a comment that are written together. -/
theorem taskAndComment_blames (task : Task) (comment : TaskComment) :
    (liftM (Flow.sendAll [Write.ofJson .update Task.schema (Task.model.encode task),
      Write.ofJson .insert TaskComment.schema (TaskComment.model.encode comment)]) : Serving Unit).Blames inside :=
  sendAll_blames (List.cons_ne_nil (⟨.update, .task, task⟩ : Saving) [⟨.insert, .comment, comment⟩])

theorem applyUpdate_blames (actor : Agent) (task : Task) (update : TaskUpdate) (now : String) :
    (applyUpdate actor task update now).Blames inside := by
  unfold applyUpdate
  dsimp only
  split
  · exact .done _
  · refine .bind (.done _) fun status => ?_
    refine .bind (resolveAssignee_blames task _) fun assignee? => ?_
    cases update.comment?.bind Text.nonBlank? with
    | none =>
      exact .bind (send_blames ⟨.update, .task, _⟩) fun _ => .done _
    | some message =>
      refine .bind (.bind (freshHex_blames 16) fun _ => .done _) fun comment => ?_
      exact .bind (taskAndComment_blames _ comment) fun _ => .done _

theorem createTaskComment_blames (actor : Agent) (boardId taskId : String) (payload : NewComment) (now : String) :
    (createTaskComment actor boardId taskId payload now).Blames inside := by
  refine .bind (taskFor_blames actor boardId taskId) fun task => ?_
  refine .bind (.done _) fun message => ?_
  refine .bind (.bind (freshHex_blames 16) fun _ => .done _) fun comment => ?_
  exact .bind (send_blames ⟨.insert, .comment, comment⟩) fun _ => .done _

theorem createMemory_blames (actor : Agent) (boardId : String) (payload : NewMemoryEntry) (now : String) :
    (createMemory actor boardId payload now).Blames inside := by
  refine .bind (boardFor_blames actor boardId) fun board => ?_
  refine .bind (.done _) fun content => ?_
  refine .bind (freshHex_blames 16) fun id => ?_
  exact .bind (send_blames ⟨.insert, .memory, _⟩) fun _ => .done _

theorem requireTask_blames (board : Board) (taskId? : Option String) : (requireTask board taskId?).Blames inside := by
  cases taskId? with
  | none => exact .done _
  | some taskId =>
    refine .bind (.hasAny (fun _ _ => rfl) .task rfl) fun onBoard => ?_
    cases onBoard <;> exact .done _

theorem createApproval_blames (actor : Agent) (boardId : String) (payload : NewApproval) (now : String) :
    (createApproval actor boardId payload now).Blames inside := by
  refine .bind (boardFor_blames actor boardId) fun board => ?_
  refine .bind (.done _) fun actionType => ?_
  split
  · exact .done _
  · refine .bind ?_ fun _ => ?_
    · exact requireTask_blames board _
    · refine .bind (freshHex_blames 16) fun id => ?_
      exact .bind (send_blames ⟨.insert, .approval, _⟩) fun _ => .done _

theorem latestActiveSession_blames (board : Board) : (latestActiveSession board).Blames inside := by
  refine resolved_blames fun plan hplan => ?_
  cases hplan
  exact .bind (first_blames .session rfl) fun _ => .done _

theorem updateOnboarding_blames (actor : Agent) (boardId : String) (payload : Json) (now : String) :
    (updateOnboarding actor boardId payload now).Blames inside := by
  refine .bind (boardFor_blames actor boardId) fun board => ?_
  cases payload with
  | object answer =>
    refine .bind (latestActiveSession_blames board) fun session => ?_
    dsimp only
    split
    · exact .done _
    · exact .bind (send_blames ⟨.update, .session, _⟩) fun _ => .done _
  | _ => exact .done _

theorem approvalsOfBoard_blames (board : Board) (text? : Option String) :
    (approvalsOfBoard board text?).Blames inside := by
  refine resolved_blames fun plan hplan => ?_
  cases hplan
  refine .bind (.done _) fun status? => ?_
  refine .bind (all_blames .approval ?_) fun _ => .done _
  cases status? <;> rfl

/-- Only the row that is added can say that the name is taken. -/
theorem createAgentOn_blames (boardId : String) (payload : NewAgent) (now : String) :
    (createAgentOn boardId payload now).Blames (Request.createAgent payload now).told := by
  refine checked_blames fun name hname => resolved_blames fun plan hplan => ?_
  cases hplan
  refine .bind (.hasAny (fun _ _ => rfl) .agent rfl) fun taken => ?_
  split
  · exact .done _
  · refine .bind (freshHex_blames 32) fun token => .bind (freshHex_blames 16) fun id => ?_
    obtain rfl := Text.eq_trim_of_nonBlank? (nonBlank?_of_requireText hname)
    let saving : Saving := ⟨.insert, .agent, freshAgent id boardId (Text.trim payload.name) token now⟩
    have hsent : (insertAgent saving.value).Blames (Request.createAgent payload now).told :=
      .send saving fun e => by cases e <;> rfl
    exact .bind hsent fun _ => .done _

/-- Every request is prudent, and says of the first fault what it tells of it. -/
theorem serve_blames (actor : Agent) (request : Request) : (request.serve actor).Blames request.told := by
  cases request with
  | listBoards => exact listBoards_blames actor
  | getBoard boardId => exact boardFor_blames actor boardId
  | listTasks boardId filter config =>
    exact .bind (boardFor_blames actor boardId) fun board => tasksOfBoard_blames board filter _
  | updateTask boardId taskId update now =>
    exact .bind (taskFor_blames actor boardId taskId) fun task => applyUpdate_blames actor task update now
  | listTaskComments boardId taskId =>
    refine .bind (taskFor_blames actor boardId taskId) fun task => resolved_blames fun plan hplan => ?_
    cases hplan
    exact all_blames .comment rfl
  | createTaskComment boardId taskId payload now => exact createTaskComment_blames actor boardId taskId payload now
  | listMemory boardId page =>
    refine .bind (boardFor_blames actor boardId) fun board => resolved_blames fun plan hplan => ?_
    cases hplan
    exact .bind (all_blames .memory rfl) fun _ => .done _
  | createMemory boardId payload now => exact createMemory_blames actor boardId payload now
  | listApprovals boardId status? =>
    exact .bind (boardFor_blames actor boardId) fun board => approvalsOfBoard_blames board status?
  | createApproval boardId payload now => exact createApproval_blames actor boardId payload now
  | updateOnboarding boardId payload now => exact updateOnboarding_blames actor boardId payload now
  | createAgent payload now =>
    exact .bind (.done _) fun boardId => createAgentOn_blames boardId payload now
  | heartbeat payload now =>
    refine .bind (.done _) fun _ => ?_
    exact .bind (send_blames ⟨.update, .agent, _⟩) fun _ => .done _

end Taskboard.Endpoint
