/-
Tasks of a board: listing them, changing them, and the comments on them. An assignee that is named must be
an agent of the board of the task; a task that goes into progress without an assignee falls to the caller,
whose board is not looked at.
-/
import Taskboard.Endpoint.Boards
import Taskboard.Endpoint.Creation
import Taskboard.Params

namespace Taskboard.Endpoint

/-! ## Listing -/

/-- The pieces of a text between commas. -/
def commaPieces (s : String) : List String :=
  (s.toList.splitOn ',').map String.ofList

/-- The statuses that a text names with commas between; blank pieces do not count. -/
def namedStatuses (text : String) : Except Failure (List TaskStatus) :=
  ((commaPieces text).filterMap Text.nonBlank?).mapM fun piece =>
    match TaskStatus.parse? piece with
    | some status => .ok status
    | none => .error (.badRequest (.unknownTaskStatus piece))

/-- The plan of a listing before its limit is known. -/
def taskPlan (board : Board) (statuses : List TaskStatus) (filter : TaskFilter) :
    Except UnknownField Plan := do
  let everyStatus ←
    if statuses.isEmpty then .ok Task.schema.all
    else Task.schema.withValueIn "status" (statuses.map fun status => .string status.word)
  let onBoard := everyStatus.filter (.is "board_id" (.string board.id))
  let ofAssignee := match filter.assignee? with
    | some agent => onBoard.filter (.is "assigned_agent_id" (.string agent))
    | none => onBoard
  return if filter.unassigned? = some true then ofAssignee.filter (.missing "assigned_agent_id")
    else ofAssignee

/-- The tasks of a board, the newest first. Without a status every status is listed. -/
def tasksOfBoard (board : Board) (filter : TaskFilter) (pageMax : Nat) :
    Serving (List Task) := do
  let statuses ← namedStatuses (filter.status?.getD "")
  let plan ← taskPlan board statuses filter
  let limit ← Params.limitWithin filter.limit? pageMax pageMax
  return ← Task.model.all ((plan.sortBy "created_at" .descending).take limit)

/-- The tasks of a board, for a caller who may touch it. -/
def listTasks (actor : Agent) (boardId : String) (filter : TaskFilter) (config : Config) :
    Serving (List Task) := do
  let board ← boardFor actor boardId
  tasksOfBoard board filter config.pageMax

/-! ## Changing -/

/-- A new comment of a caller on a task, on the board of the task. -/
def freshComment (actor : Agent) (task : Task) (message now : String) : Serving TaskComment := do
  let id ← freshId
  return {
    id := id
    taskId := task.id
    boardId? := task.boardId?
    author? := some actor.id
    message := message
    createdAt := now }

/-- The assignee that a change leaves a task with; a named agent must exist and be on its board. -/
def resolveAssignee (task : Task) : Assignment → Serving (Option String)
  | .keep => pure task.assignee?
  | .clear => pure none
  | .assign agentId => do
    let agent? ← Agent.model.first (Agent.schema.withId (.string (Text.trim agentId)))
    let agent ← found "agent" agent?
    if agent.boardId? = task.boardId? then return some agent.id
    else Flow.fail (.badRequest .assigneeElsewhere)

/-- The status that a change leaves a task with. -/
def resolveStatus (task : Task) : Option String → Except Failure TaskStatus
  | none => .ok task.status
  | some text =>
    match TaskStatus.parse? text with
    | some status => .ok status
    | none => .error (.badRequest (.unknownTaskStatus text))

/-- A task in progress has an assignee, the caller if there is no other. -/
def assigneeInProgress (actor : Agent) (status : TaskStatus) (assignee? : Option String) :
    Option String :=
  if status = .inProgress ∧ assignee?.isNone then some actor.id else assignee?

/-- Applies changes to a task. With a comment, task and comment are written together. -/
def applyUpdate (actor : Agent) (task : Task) (update : TaskUpdate) (now : String) :
    Serving Task := do
  let comment? := update.comment?.bind Text.nonBlank?
  if update.status? = none ∧ update.assignment = .keep ∧ comment? = none then
    Flow.fail (.badRequest .noChanges)
  else
    let status ← resolveStatus task update.status?
    let assignee? ← resolveAssignee task update.assignment
    let changed := { task with
      status := status
      assignee? := assigneeInProgress actor status assignee?
      updatedAt := now }
    match comment? with
    | some message =>
      let comment ← freshComment actor changed message now
      Flow.sendAll [Write.ofJson .update Task.schema (Task.model.encode changed),
        Write.ofJson .insert TaskComment.schema (TaskComment.model.encode comment)]
    | none => Task.model.update changed
    return changed

/-- Changes a task, for a caller who may touch it. -/
def updateTask (actor : Agent) (boardId taskId : String) (update : TaskUpdate) (now : String) :
    Serving Task := do
  let task ← taskFor actor boardId taskId
  applyUpdate actor task update now

/-! ## Comments -/

/-- The comments on a task, the oldest first, for a caller who may touch it. -/
def listTaskComments (actor : Agent) (boardId taskId : String) : Serving (List TaskComment) := do
  let task ← taskFor actor boardId taskId
  let plan ← TaskComment.schema.withValues [("task_id", .string task.id)]
  return ← TaskComment.model.all (plan.sortBy "created_at" .ascending)

/-- Adds a comment to a task, for a caller who may touch it. -/
def createTaskComment (actor : Agent) (boardId taskId : String) (payload : NewComment)
    (now : String) : Serving TaskComment := do
  let task ← taskFor actor boardId taskId
  let message ← requireText "message" payload.message
  let comment ← freshComment actor task message now
  TaskComment.model.insert comment
  return comment

end Taskboard.Endpoint
