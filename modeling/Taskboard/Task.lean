/-
Tasks, the comments on them, and what can be asked of them.
-/
import Taskboard.Storage.Model
import Taskboard.Text.Blank
import Taskboard.Text.Ascii

namespace Taskboard

/-! ## Status -/

/-- How far a task has come. -/
inductive TaskStatus where
  | inbox
  | inProgress
  | review
  | done
deriving DecidableEq

namespace TaskStatus

/-- The word for a status. -/
def word : TaskStatus → String
  | .inbox => "inbox"
  | .inProgress => "in_progress"
  | .review => "review"
  | .done => "done"

/-- The status that a word stands for, exactly as written. -/
def ofWord? : String → Option TaskStatus
  | "inbox" => some .inbox
  | "in_progress" => some .inProgress
  | "review" => some .review
  | "done" => some .done
  | _ => none

/-- The status that a text names, whatever blanks are around the word and whatever its case. -/
def parse? (s : String) : Option TaskStatus :=
  ofWord? (Text.lower (Text.trim s))

end TaskStatus

/-! ## Tasks -/

/-- A task. One without a board is not placed yet. -/
structure Task where
  id : String
  boardId? : Option String
  title : String
  description? : Option String
  status : TaskStatus
  priority : String
  assignee? : Option String
  creator? : Option String
  createdAt : String
  updatedAt : String
deriving DecidableEq

namespace Task

/-- The table of tasks. -/
def schema : Schema where
  table := "tasks"
  idField := "id"
  fields := ["id", "board_id", "title", "description", "status", "priority", "assigned_agent_id",
    "created_by_agent_id", "created_at", "updated_at"]

/-- The columns of a task, by name. -/
def record (task : Task) : Record :=
  [("assigned_agent_id", .ofText? task.assignee?),
   ("board_id", .ofText? task.boardId?),
   ("created_at", .string task.createdAt),
   ("created_by_agent_id", .ofText? task.creator?),
   ("description", .ofText? task.description?),
   ("id", .string task.id),
   ("priority", .string task.priority),
   ("status", .string task.status.word),
   ("title", .string task.title),
   ("updated_at", .string task.updatedAt)]

/-- Reads a task from its columns. -/
def ofRecord? (row : Record) : Option Task := do
  return {
    id := ← row.text? "id"
    boardId? := ← row.optionalText? "board_id"
    title := ← row.text? "title"
    description? := ← row.optionalText? "description"
    status := ← (← row.word? "status") |> TaskStatus.ofWord?
    priority := ← row.text? "priority"
    assignee? := ← row.optionalText? "assigned_agent_id"
    creator? := ← row.optionalText? "created_by_agent_id"
    createdAt := ← row.text? "created_at"
    updatedAt := ← row.text? "updated_at" }

/-- Tasks as rows. -/
def model : Model Task where
  schema := schema
  encode task := .object task.record
  decode? value := (Record.ofJson? schema.fields value).bind ofRecord?

end Task

/-! ## Comments -/

/-- A comment on a task. -/
structure TaskComment where
  id : String
  taskId : String
  boardId? : Option String
  author? : Option String
  message : String
  createdAt : String
deriving DecidableEq

namespace TaskComment

/-- The table of comments. -/
def schema : Schema where
  table := "task_comments"
  idField := "id"
  fields := ["id", "task_id", "board_id", "author_agent_id", "message", "created_at"]

/-- The columns of a comment, by name. -/
def record (comment : TaskComment) : Record :=
  [("author_agent_id", .ofText? comment.author?),
   ("board_id", .ofText? comment.boardId?),
   ("created_at", .string comment.createdAt),
   ("id", .string comment.id),
   ("message", .string comment.message),
   ("task_id", .string comment.taskId)]

/-- Reads a comment from its columns. -/
def ofRecord? (row : Record) : Option TaskComment := do
  return {
    id := ← row.text? "id"
    taskId := ← row.text? "task_id"
    boardId? := ← row.optionalText? "board_id"
    author? := ← row.optionalText? "author_agent_id"
    message := ← row.text? "message"
    createdAt := ← row.text? "created_at" }

/-- Comments as rows. -/
def model : Model TaskComment where
  schema := schema
  encode comment := .object comment.record
  decode? value := (Record.ofJson? schema.fields value).bind ofRecord?

end TaskComment

/-! ## Requests -/

/-- What an update says about who a task is assigned to. -/
inductive Assignment where
  | keep
  | clear
  | assign (agent : String)
deriving DecidableEq

/-- The changes asked of a task. -/
structure TaskUpdate where
  status? : Option String
  assignment : Assignment
  comment? : Option String
deriving DecidableEq

/-- Reads changes: a missing assignee keeps the one there is, null clears it. -/
def TaskUpdate.ofJson? (value : Json) : Option TaskUpdate := do
  let row ← Record.ofJson? ["status", "assigned_agent_id", "comment"] value
  return {
    status? := ← row.optionalText? "status"
    assignment := ← match row.lookup "assigned_agent_id" with
      | none => some .keep
      | some .null => some .clear
      | some (.string agent) => some (.assign agent)
      | some _ => none
    comment? := ← row.optionalText? "comment" }

/-- A comment to add to a task. -/
structure NewComment where
  message : String
deriving DecidableEq

/-- Reads a comment to add. -/
def NewComment.ofJson? (value : Json) : Option NewComment := do
  let row ← Record.ofJson? ["message"] value
  return { message := ← row.text? "message" }

/-- What narrows a listing of tasks; the status text may name several statuses with commas between. -/
structure TaskFilter where
  status? : Option String
  assignee? : Option String
  unassigned? : Option Bool
  limit? : Option Nat
deriving DecidableEq

end Taskboard
