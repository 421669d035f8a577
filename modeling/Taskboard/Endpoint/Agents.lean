/-
Agents: creating them and their signs of life. A new agent lands on the board of the lead that
creates it, under a name that no other agent of the board has.
-/
import Taskboard.Endpoint.Creation
import Taskboard.Token

namespace Taskboard.Endpoint

/-! ## Creating -/

/-- The plan for the agents of a board with a name. -/
def agentsNamed (boardId name : String) : Except UnknownField Plan :=
  Agent.schema.withValues [("board_id", .string boardId), ("name", .string name)]

/-- The row of a new agent. -/
def freshAgent (id boardId name token now : String) : Agent where
  id := id
  boardId? := some boardId
  name := name
  status := "provisioning"
  isBoardLead := false
  tokenHash? := some (Token.hash token)
  lastSeenAt? := none
  createdAt := now
  updatedAt := now

/-- Adds a new agent; a constraint that refuses the row says that the name was taken meanwhile. -/
def insertAgent (agent : Agent) : Serving Unit :=
  (Agent.model.insert agent).mapError fun
    | .constraint _ => .conflict (.nameTaken agent.name)
    | e => .query (.storage e)

/-- Creates an agent on a board. -/
def createAgentOn (boardId : String) (payload : NewAgent) (now : String) :
    Serving IssuedAgent := do
  let name ← requireText "name" payload.name
  let taken ← Agent.model.hasAny (← agentsNamed boardId name)
  if taken then Flow.fail (.conflict (.nameTaken name))
  else
    let token ← freshToken
    let id ← freshId
    let agent := freshAgent id boardId name token now
    insertAgent agent
    return { agent := agent.view, token := token }

/-- Creates an agent on the board of a lead. -/
def createAgent (actor : Agent) (payload : NewAgent) (now : String) : Serving IssuedAgent := do
  let boardId ← actor.leadBoard
  createAgentOn boardId payload now

/-! ## Signs of life -/

/-- An agent after a sign of life; without a status it is online. -/
def Agent.seen (agent : Agent) (status? : Option String) (now : String) : Agent :=
  { agent with
    status := (status?.bind Text.nonBlank?).getD "online"
    lastSeenAt? := some now
    updatedAt := now }

/-- Records a sign of life of the caller. -/
def heartbeat (actor : Agent) (payload : Heartbeat) (now : String) : Serving AgentView := do
  actor.requireIdentity payload.name
  let agent := Agent.seen actor payload.status? now
  Agent.model.update agent
  return agent.view

end Taskboard.Endpoint
