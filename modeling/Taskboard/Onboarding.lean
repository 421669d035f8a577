/-
Onboarding sessions: the conversation that settles the goal of a board. The message log is stored as
the JSON text of an array, the draft goal as JSON text; what cannot be read is shown as no messages
and as no goal.
-/
import Taskboard.Storage.Model
import Taskboard.Json.Parser

namespace Taskboard

/-! ## Status -/

/-- Whether a session still takes answers. -/
inductive OnboardingStatus where
  | active
  | completed
deriving DecidableEq

namespace OnboardingStatus

/-- The word for a status. -/
def word : OnboardingStatus → String
  | .active => "active"
  | .completed => "completed"

/-- The status that a word stands for, exactly as written. -/
def ofWord? : String → Option OnboardingStatus
  | "active" => some .active
  | "completed" => some .completed
  | _ => none

end OnboardingStatus

/-! ## Sessions -/

/-- An onboarding session of a board. -/
structure OnboardingSession where
  id : String
  boardId : String
  status : OnboardingStatus
  /-- JSON text of an array of messages. -/
  messages : String
  /-- JSON text. -/
  draftGoal? : Option String
  createdAt : String
  updatedAt : String
deriving DecidableEq

namespace OnboardingSession

/-- The table of sessions. -/
def schema : Schema where
  table := "board_onboarding_sessions"
  idField := "id"
  fields := ["id", "board_id", "status", "messages", "draft_goal", "created_at", "updated_at"]

/-- The columns of a session, by name. -/
def record (session : OnboardingSession) : Record :=
  [("board_id", .string session.boardId),
   ("created_at", .string session.createdAt),
   ("draft_goal", .ofText? session.draftGoal?),
   ("id", .string session.id),
   ("messages", .string session.messages),
   ("status", .string session.status.word),
   ("updated_at", .string session.updatedAt)]

/-- Reads a session from its columns. -/
def ofRecord? (row : Record) : Option OnboardingSession := do
  return {
    id := ← row.text? "id"
    boardId := ← row.text? "board_id"
    status := ← (← row.word? "status") |> OnboardingStatus.ofWord?
    messages := ← row.text? "messages"
    draftGoal? := ← row.optionalText? "draft_goal"
    createdAt := ← row.text? "created_at"
    updatedAt := ← row.text? "updated_at" }

/-- Sessions as rows. -/
def model : Model OnboardingSession where
  schema := schema
  encode session := .object session.record
  decode? value := (Record.ofJson? schema.fields value).bind ofRecord?

/-- The messages that a log holds; none when it is not the text of an array. -/
def messagesOf? (log : String) : Option (List Json) :=
  match Json.parse? log with
  | some (.array messages) => some messages
  | _ => none

end OnboardingSession

/-! ## Answers -/

/-- A session as it is shown, with its messages and its goal as values. -/
structure OnboardingView where
  id : String
  boardId : String
  status : OnboardingStatus
  messages : List Json
  draftGoal? : Option Json
  createdAt : String
  updatedAt : String

/-- What is shown of a session. -/
def OnboardingSession.view (session : OnboardingSession) : OnboardingView where
  id := session.id
  boardId := session.boardId
  status := session.status
  messages := (messagesOf? session.messages).getD []
  draftGoal? := session.draftGoal?.bind Json.parse?
  createdAt := session.createdAt
  updatedAt := session.updatedAt

/-- A shown session as JSON. -/
def OnboardingView.json (session : OnboardingView) : Json :=
  .object
    [("board_id", .string session.boardId),
     ("created_at", .string session.createdAt),
     ("draft_goal", session.draftGoal?.getD .null),
     ("id", .string session.id),
     ("messages", .array session.messages),
     ("status", .string session.status.word),
     ("updated_at", .string session.updatedAt)]

end Taskboard
