/-
Requests as data: what a caller can ask for, what it is answered, the flow that serves it, and what
becomes of it on tables.
-/
import Taskboard.Endpoint.Agents
import Taskboard.Endpoint.Approvals
import Taskboard.Endpoint.Memory
import Taskboard.Endpoint.Onboarding
import Taskboard.Endpoint.Tasks
import Taskboard.Proofs.Flow.Run
import Taskboard.Storage.Tables

namespace Taskboard.Endpoint

/-- What a caller can ask for. -/
inductive Request where
  | listBoards
  | getBoard (boardId : String)
  | listTasks (boardId : String) (filter : TaskFilter) (config : Config)
  | updateTask (boardId taskId : String) (update : TaskUpdate) (now : String)
  | listTaskComments (boardId taskId : String)
  | createTaskComment (boardId taskId : String) (payload : NewComment) (now : String)
  | listMemory (boardId : String) (page : Page)
  | createMemory (boardId : String) (payload : NewMemoryEntry) (now : String)
  | listApprovals (boardId : String) (status? : Option String)
  | createApproval (boardId : String) (payload : NewApproval) (now : String)
  | updateOnboarding (boardId : String) (payload : Json) (now : String)
  | createAgent (payload : NewAgent) (now : String)
  | heartbeat (payload : Heartbeat) (now : String)

namespace Request

/-- What a request that does not fail is answered. -/
def Reply : Request → Type
  | .listBoards => List Board
  | .getBoard _ => Board
  | .listTasks .. => List Task
  | .updateTask .. => Task
  | .listTaskComments .. => List TaskComment
  | .createTaskComment .. => TaskComment
  | .listMemory .. => List MemoryEntryView
  | .createMemory .. => MemoryEntryView
  | .listApprovals .. => List ApprovalView
  | .createApproval .. => ApprovalView
  | .updateOnboarding .. => OnboardingView
  | .createAgent .. => IssuedAgent
  | .heartbeat .. => AgentView

/-- The flow that serves a request of a caller. -/
def serve (actor : Agent) : (request : Request) → Serving request.Reply
  | .listBoards => Endpoint.listBoards actor
  | .getBoard boardId => Endpoint.getBoard actor boardId
  | .listTasks boardId filter config => Endpoint.listTasks actor boardId filter config
  | .updateTask boardId taskId update now => Endpoint.updateTask actor boardId taskId update now
  | .listTaskComments boardId taskId => Endpoint.listTaskComments actor boardId taskId
  | .createTaskComment boardId taskId payload now =>
    Endpoint.createTaskComment actor boardId taskId payload now
  | .listMemory boardId page => Endpoint.listMemory actor boardId page
  | .createMemory boardId payload now => Endpoint.createMemory actor boardId payload now
  | .listApprovals boardId status? => Endpoint.listApprovals actor boardId status?
  | .createApproval boardId payload now => Endpoint.createApproval actor boardId payload now
  | .updateOnboarding boardId payload now => Endpoint.updateOnboarding actor boardId payload now
  | .createAgent payload now => Endpoint.createAgent actor payload now
  | .heartbeat payload now => Endpoint.heartbeat actor payload now

/-- What a request of a caller is answered on tables, and what it leaves of them and of the random source. -/
def run (actor : Agent) (tables : Tables) (source : Entropy) (request : Request) :
    Except Failure request.Reply × Tables × Entropy :=
  (request.serve actor).run Tables.store tables source

/-- The identifiers that a request of a caller generates on tables. -/
def identifiers (actor : Agent) (tables : Tables) (source : Entropy) (request : Request) : List String :=
  (request.serve actor).identifiers Tables.store tables source

end Request

/-! ## One request after another -/

/-- A request and what it was answered. -/
structure Outcome where
  request : Request
  result : Except Failure request.Reply

/-- Serves requests of callers on a store, one after another: what each is answered, and what they leave of the store
and of the random source. -/
def serveAll {σ : Type} (store : Flow.Store σ) : List (Agent × Request) → σ → Entropy → List Outcome × σ × Entropy
  | [], state, source => ([], state, source)
  | (actor, request) :: calls, state, source =>
    let (result, state, source) := (request.serve actor).run store state source
    let (outcomes, state, source) := serveAll store calls state source
    (⟨request, result⟩ :: outcomes, state, source)

theorem serveAll_cons {σ : Type} (store : Flow.Store σ) (actor : Agent) (request : Request)
    (calls : List (Agent × Request)) (state : σ) (source : Entropy) :
    serveAll store ((actor, request) :: calls) state source =
      (⟨request, ((request.serve actor).run store state source).1⟩ ::
          (serveAll store calls ((request.serve actor).run store state source).2.1
            ((request.serve actor).run store state source).2.2).1,
        (serveAll store calls ((request.serve actor).run store state source).2.1
          ((request.serve actor).run store state source).2.2).2) :=
  rfl

end Taskboard.Endpoint
