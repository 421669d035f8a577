/-
Approvals: actions that an agent asks leave for. The payload is stored as JSON text and shown as the
value it stands for; one that cannot be read is shown as absent.
-/
import Taskboard.Storage.Model
import Taskboard.Json.Parser
import Taskboard.Text.Blank
import Taskboard.Text.Ascii

namespace Taskboard

/-! ## Status -/

/-- What has become of a request. -/
inductive ApprovalStatus where
  | pending
  | approved
  | rejected
deriving DecidableEq

namespace ApprovalStatus

/-- The word for a status. -/
def word : ApprovalStatus → String
  | .pending => "pending"
  | .approved => "approved"
  | .rejected => "rejected"

/-- The status that a word stands for, exactly as written. -/
def ofWord? : String → Option ApprovalStatus
  | "pending" => some .pending
  | "approved" => some .approved
  | "rejected" => some .rejected
  | _ => none

/-- The status that a text names, whatever blanks are around the word and whatever its case. -/
def parse? (s : String) : Option ApprovalStatus :=
  ofWord? (Text.lower (Text.trim s))

end ApprovalStatus

/-! ## Approvals -/

/-- A request for approval. -/
structure Approval where
  id : String
  boardId : String
  taskId? : Option String
  agentId? : Option String
  actionType : String
  /-- JSON text. -/
  payload? : Option String
  confidence : Int
  rationale? : Option String
  status : ApprovalStatus
  createdAt : String
  resolvedAt? : Option String
deriving DecidableEq

namespace Approval

/-- The table of approvals. -/
def schema : Schema where
  table := "approvals"
  idField := "id"
  fields := ["id", "board_id", "task_id", "agent_id", "action_type", "payload", "confidence",
    "rationale", "status", "created_at", "resolved_at"]

/-- The columns of an approval, by name. -/
def record (approval : Approval) : Record :=
  [("action_type", .string approval.actionType),
   ("agent_id", .ofText? approval.agentId?),
   ("board_id", .string approval.boardId),
   ("confidence", .int approval.confidence),
   ("created_at", .string approval.createdAt),
   ("id", .string approval.id),
   ("payload", .ofText? approval.payload?),
   ("rationale", .ofText? approval.rationale?),
   ("resolved_at", .ofText? approval.resolvedAt?),
   ("status", .string approval.status.word),
   ("task_id", .ofText? approval.taskId?)]

/-- Reads an approval from its columns. -/
def ofRecord? (row : Record) : Option Approval := do
  return {
    id := ← row.text? "id"
    boardId := ← row.text? "board_id"
    taskId? := ← row.optionalText? "task_id"
    agentId? := ← row.optionalText? "agent_id"
    actionType := ← row.text? "action_type"
    payload? := ← row.optionalText? "payload"
    confidence := ← row.integer? "confidence"
    rationale? := ← row.optionalText? "rationale"
    status := ← (← row.word? "status") |> ApprovalStatus.ofWord?
    createdAt := ← row.text? "created_at"
    resolvedAt? := ← row.optionalText? "resolved_at" }

/-- Approvals as rows. -/
def model : Model Approval where
  schema := schema
  encode approval := .object approval.record
  decode? value := (Record.ofJson? schema.fields value).bind ofRecord?

end Approval

/-! ## Answers -/

/-- An approval as it is shown, with its payload as a value. -/
structure ApprovalView where
  id : String
  boardId : String
  taskId? : Option String
  agentId? : Option String
  actionType : String
  payload? : Option Json
  confidence : Int
  rationale? : Option String
  status : ApprovalStatus
  createdAt : String
  resolvedAt? : Option String

/-- What is shown of an approval. -/
def Approval.view (approval : Approval) : ApprovalView where
  id := approval.id
  boardId := approval.boardId
  taskId? := approval.taskId?
  agentId? := approval.agentId?
  actionType := approval.actionType
  payload? := approval.payload?.bind Json.parse?
  confidence := approval.confidence
  rationale? := approval.rationale?
  status := approval.status
  createdAt := approval.createdAt
  resolvedAt? := approval.resolvedAt?

/-- A shown approval as JSON. -/
def ApprovalView.json (approval : ApprovalView) : Json :=
  .object
    [("action_type", .string approval.actionType),
     ("agent_id", .ofText? approval.agentId?),
     ("board_id", .string approval.boardId),
     ("confidence", .int approval.confidence),
     ("created_at", .string approval.createdAt),
     ("id", .string approval.id),
     ("payload", approval.payload?.getD .null),
     ("rationale", .ofText? approval.rationale?),
     ("resolved_at", .ofText? approval.resolvedAt?),
     ("status", .string approval.status.word),
     ("task_id", .ofText? approval.taskId?)]

/-! ## Requests -/

/-- An approval to ask for. -/
structure NewApproval where
  actionType : String
  payload? : Option Json
  confidence : Int
  rationale? : Option String
  taskId? : Option String

/-- Reads an approval to ask for; a null payload is an absent one. -/
def NewApproval.ofJson? (value : Json) : Option NewApproval := do
  let row ← Record.ofJson? ["action_type", "payload", "confidence", "rationale", "task_id"] value
  return {
    actionType := ← row.text? "action_type"
    payload? := row.value? "payload"
    confidence := ← row.integer? "confidence"
    rationale? := ← row.optionalText? "rationale"
    taskId? := ← row.optionalText? "task_id" }

end Taskboard
