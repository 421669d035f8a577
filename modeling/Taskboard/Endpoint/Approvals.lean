/-
Approvals of a board: listing them and asking for one.
-/
import Taskboard.Endpoint.Boards
import Taskboard.Endpoint.Creation

namespace Taskboard.Endpoint

/-! ## Listing -/

/-- The status that a listing is narrowed to; a blank text narrows nothing. -/
def approvalStatus? (text? : Option String) : Except Failure (Option ApprovalStatus) :=
  match text?.bind Text.nonBlank? with
  | none => .ok none
  | some text =>
    match ApprovalStatus.parse? text with
    | some status => .ok (some status)
    | none => .error (.badRequest (.unknownApprovalStatus text))

/-- The approvals of a board, the newest first, of one status or of all. -/
def approvalsOfBoard (board : Board) (text? : Option String) : Serving (List ApprovalView) := do
  let ofBoard ← Approval.schema.withValues [("board_id", .string board.id)]
  let status? ← approvalStatus? text?
  let plan := match status? with
    | some status => ofBoard.filter (.is "status" (.string status.word))
    | none => ofBoard
  let approvals ← Approval.model.all (plan.sortBy "created_at" .descending)
  return approvals.map Approval.view

/-- The approvals of a board, for a caller who may touch it. -/
def listApprovals (actor : Agent) (boardId : String) (status? : Option String) :
    Serving (List ApprovalView) := do
  let board ← boardFor actor boardId
  approvalsOfBoard board status?

/-! ## Asking -/

/-- Checks that the task an approval names is on the board. -/
def requireTask (board : Board) : Option String → Serving Unit
  | none => pure ()
  | some taskId => do
    let onBoard ← Task.model.hasAny
      ((Task.schema.withId (.string taskId)).filter (.is "board_id" (.string board.id)))
    if onBoard then pure () else Flow.fail (.notFound "task")

/-- Asks for an approval on a board, for a caller who may touch it. -/
def createApproval (actor : Agent) (boardId : String) (payload : NewApproval) (now : String) :
    Serving ApprovalView := do
  let board ← boardFor actor boardId
  let actionType ← requireText "action_type" payload.actionType
  if payload.confidence < 0 ∨ 100 < payload.confidence then
    Flow.fail (.badRequest .confidenceOutOfRange)
  else
    let taskId? := payload.taskId?.bind Text.nonBlank?
    requireTask board taskId?
    let id ← freshId
    let approval : Approval := {
      id := id
      boardId := board.id
      taskId? := taskId?
      agentId? := some actor.id
      actionType := actionType
      payload? := payload.payload?.map Json.render
      confidence := payload.confidence
      rationale? := payload.rationale?
      status := .pending
      createdAt := now
      resolvedAt? := none }
    Approval.model.insert approval
    return approval.view

end Taskboard.Endpoint
