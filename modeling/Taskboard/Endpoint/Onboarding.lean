/-
Answers to the onboarding of a board. An answer goes to the session that is active and was touched
last; one whose status is "complete" closes the session and becomes its draft goal.
-/
import Taskboard.Endpoint.Boards

namespace Taskboard.Endpoint

/-- The active session of a board that was touched last. -/
def latestActiveSession (board : Board) : Serving OnboardingSession := do
  let plan ← OnboardingSession.schema.withValues
    [("board_id", .string board.id), ("status", .string OnboardingStatus.active.word)]
  let session? ← OnboardingSession.model.first (plan.sortBy "updated_at" .descending)
  found "onboarding session" session?

/-- The message that records an answer of a caller. -/
def answerMessage (actor : Agent) (payload : Json) (now : String) : Json :=
  .object
    [("agent_id", .string actor.id),
     ("content", .string payload.render),
     ("role", .string "assistant"),
     ("timestamp", .string now)]

/-- Whether an answer ends the onboarding. -/
def isComplete (answer : Record) : Bool :=
  answer.text? "status" == some "complete"

/-- A session with an answer added to its messages. -/
def OnboardingSession.answered (session : OnboardingSession) (messages : List Json) (actor : Agent)
    (answer : Record) (now : String) : OnboardingSession :=
  let payload := Json.object answer
  let complete := isComplete answer
  { session with
    messages := (Json.array (messages ++ [answerMessage actor payload now])).render
    status := if complete then .completed else session.status
    draftGoal? := if complete then some payload.render else session.draftGoal?
    updatedAt := now }

/-- Records an answer, for a caller who may touch the board. -/
def updateOnboarding (actor : Agent) (boardId : String) (payload : Json) (now : String) :
    Serving OnboardingView := do
  let board ← boardFor actor boardId
  match payload with
  | .object answer =>
    let session ← latestActiveSession board
    match OnboardingSession.messagesOf? session.messages with
    | none => Flow.fail (.query (.storage (.decode (.malformedMessages session.id))))
    | some messages =>
      let changed := OnboardingSession.answered session messages actor answer now
      OnboardingSession.model.update changed
      return changed.view
  | _ => Flow.fail (.badRequest .onboardingNotObject)

end Taskboard.Endpoint
