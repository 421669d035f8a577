/-
Who may touch what. An agent bound to a board may touch only what belongs to that board; an agent
without a board, and what is not placed on a board, are not restricted. Creating agents needs a lead
that is bound to a board, and a heartbeat may be sent only in the caller's own name.
-/
import Taskboard.Board
import Taskboard.Task
import Taskboard.Agent
import Taskboard.Approval
import Taskboard.MemoryEntry
import Taskboard.Onboarding

namespace Taskboard

/-! ## Resources -/

/-- Something that may belong to a board: what it is, and the board, if it is placed on one. -/
structure Resource where
  kind : String
  board? : Option String
deriving DecidableEq

/-- A board belongs to itself. -/
def Board.resource (board : Board) : Resource :=
  ⟨"board", some board.id⟩

/-- A task belongs to the board it is placed on. -/
def Task.resource (task : Task) : Resource :=
  ⟨"task", task.boardId?⟩

/-- A comment belongs to the board of its task. -/
def TaskComment.resource (comment : TaskComment) : Resource :=
  ⟨"task_comment", comment.boardId?⟩

/-- An agent belongs to the board it is bound to. -/
def Agent.resource (agent : Agent) : Resource :=
  ⟨"agent", agent.boardId?⟩

/-- An approval belongs to its board. -/
def Approval.resource (approval : Approval) : Resource :=
  ⟨"approval", some approval.boardId⟩

/-- An entry belongs to the board whose memory it is in. -/
def MemoryEntry.resource (entry : MemoryEntry) : Resource :=
  ⟨"board_memory", some entry.boardId⟩

/-- A session belongs to its board. -/
def OnboardingSession.resource (session : OnboardingSession) : Resource :=
  ⟨"onboarding_session", some session.boardId⟩

/-! ## Refusals -/

/-- Why a caller is refused. -/
inductive AccessError where
  | otherBoard (actorBoard resourceBoard kind : String)
  | notLead
  | unbound
  | otherName (declared actual : String)
deriving DecidableEq

/-- The wording of a refusal, which the caller is not shown. -/
def AccessError.message : AccessError → String
  | .otherBoard actorBoard resourceBoard kind =>
    "agent bound to board " ++ actorBoard ++ " cannot access " ++ kind ++ " on board " ++ resourceBoard
  | .notLead => "board lead capability required"
  | .unbound => "agent must be bound to a board"
  | .otherName declared actual =>
    "heartbeat name " ++ declared ++ " does not match authenticated agent " ++ actual

/-! ## Rules -/

/-- The kind of every caller. -/
def Agent.actorKind : String := "agent"

/-- The board that a caller is bound to; an empty name is no board. -/
def Agent.boundBoard? (agent : Agent) : Option String :=
  agent.boardId?.filter (· ≠ "")

/-- Callers without a board and resources without a board pass; otherwise the boards must be equal. -/
def boardsAgree : Option String → Option String → Bool
  | some actor, some resource => actor == resource
  | _, _ => true

/-- Lets a caller at a resource, or refuses. -/
def Agent.requireAccess (actor : Agent) (resource : Resource) : Except AccessError Unit :=
  if boardsAgree actor.boundBoard? resource.board? then .ok ()
  else .error (.otherBoard (actor.boundBoard?.getD "") (resource.board?.getD "") resource.kind)

/-- The board on which a lead may create agents. -/
def Agent.leadBoard (actor : Agent) : Except AccessError String :=
  if actor.isBoardLead then
    match actor.boundBoard? with
    | some board => .ok board
    | none => .error .unbound
  else .error .notLead

/-- Lets a caller speak under a name, which must be its own to the letter. -/
def Agent.requireIdentity (actor : Agent) (declared : String) : Except AccessError Unit :=
  if actor.name = declared then .ok () else .error (.otherName declared actor.name)

end Taskboard
