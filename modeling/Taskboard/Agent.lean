/-
Agents: who calls. Only the digest of an agent's token is stored, and no answer shows it.
-/
import Taskboard.Storage.Model

namespace Taskboard

/-! ## Agents -/

/-- An agent. A lead may create agents on its board. -/
structure Agent where
  id : String
  boardId? : Option String
  name : String
  status : String
  isBoardLead : Bool
  tokenHash? : Option String
  lastSeenAt? : Option String
  createdAt : String
  updatedAt : String
deriving DecidableEq

namespace Agent

/-- The table of agents. -/
def schema : Schema where
  table := "agents"
  idField := "id"
  fields := ["id", "board_id", "name", "status", "is_board_lead", "agent_token_hash",
    "last_seen_at", "created_at", "updated_at"]

/-- The columns of an agent, by name. -/
def record (agent : Agent) : Record :=
  [("agent_token_hash", .ofText? agent.tokenHash?),
   ("board_id", .ofText? agent.boardId?),
   ("created_at", .string agent.createdAt),
   ("id", .string agent.id),
   ("is_board_lead", .bool agent.isBoardLead),
   ("last_seen_at", .ofText? agent.lastSeenAt?),
   ("name", .string agent.name),
   ("status", .string agent.status),
   ("updated_at", .string agent.updatedAt)]

/-- Reads an agent from its columns; databases hold the lead flag as a number. -/
def ofRecord? (row : Record) : Option Agent := do
  return {
    id := ← row.text? "id"
    boardId? := ← row.optionalText? "board_id"
    name := ← row.text? "name"
    status := ← row.text? "status"
    isBoardLead := ← row.flag? "is_board_lead"
    tokenHash? := ← row.optionalText? "agent_token_hash"
    lastSeenAt? := ← row.optionalText? "last_seen_at"
    createdAt := ← row.text? "created_at"
    updatedAt := ← row.text? "updated_at" }

/-- Agents as rows. -/
def model : Model Agent where
  schema := schema
  encode agent := .object agent.record
  decode? value := (Record.ofJson? schema.fields value).bind ofRecord?

end Agent

/-! ## Answers -/

/-- An agent as it is shown: all but the digest of its token. -/
structure AgentView where
  id : String
  boardId? : Option String
  name : String
  status : String
  isBoardLead : Bool
  lastSeenAt? : Option String
  createdAt : String
  updatedAt : String
deriving DecidableEq

/-- What is shown of an agent. -/
def Agent.view (agent : Agent) : AgentView where
  id := agent.id
  boardId? := agent.boardId?
  name := agent.name
  status := agent.status
  isBoardLead := agent.isBoardLead
  lastSeenAt? := agent.lastSeenAt?
  createdAt := agent.createdAt
  updatedAt := agent.updatedAt

namespace AgentView

/-- The fields of a shown agent, by name. -/
def record (agent : AgentView) : Record :=
  [("board_id", .ofText? agent.boardId?),
   ("created_at", .string agent.createdAt),
   ("id", .string agent.id),
   ("is_board_lead", .bool agent.isBoardLead),
   ("last_seen_at", .ofText? agent.lastSeenAt?),
   ("name", .string agent.name),
   ("status", .string agent.status),
   ("updated_at", .string agent.updatedAt)]

/-- Reads a shown agent. -/
def ofRecord? (row : Record) : Option AgentView := do
  return {
    id := ← row.text? "id"
    boardId? := ← row.optionalText? "board_id"
    name := ← row.text? "name"
    status := ← row.text? "status"
    isBoardLead := ← row.bool? "is_board_lead"
    lastSeenAt? := ← row.optionalText? "last_seen_at"
    createdAt := ← row.text? "created_at"
    updatedAt := ← row.text? "updated_at" }

/-- A shown agent as JSON. -/
def json (agent : AgentView) : Json :=
  .object agent.record

end AgentView

/-- A new agent and its token, which is shown this once. -/
structure IssuedAgent where
  agent : AgentView
  token : String
deriving DecidableEq

namespace IssuedAgent

/-- A new agent as JSON, the token among the fields of the agent. -/
def json (created : IssuedAgent) : Json :=
  .object (Record.insert "token" (.string created.token) created.agent.record)

/-- Reads a new agent from an object. -/
def ofJson? (value : Json) : Option IssuedAgent := do
  let row ← value.record?
  return { agent := ← AgentView.ofRecord? row, token := ← row.text? "token" }

end IssuedAgent

/-! ## Requests -/

/-- An agent to create. The board named here does not count: the agent lands on the caller's. -/
structure NewAgent where
  name : String
  boardId? : Option String
deriving DecidableEq

/-- Reads an agent to create. -/
def NewAgent.ofJson? (value : Json) : Option NewAgent := do
  let row ← Record.ofJson? ["name", "board_id"] value
  return { name := ← row.text? "name", boardId? := ← row.optionalText? "board_id" }

/-- A sign of life: the name that the caller claims and the status it is in. -/
structure Heartbeat where
  name : String
  status? : Option String
deriving DecidableEq

/-- Reads a sign of life. -/
def Heartbeat.ofJson? (value : Json) : Option Heartbeat := do
  let row ← Record.ofJson? ["name", "status"] value
  return { name := ← row.text? "name", status? := ← row.optionalText? "status" }

end Taskboard
