/-
The server: from a request to an answer. The database is opened before the token is read, the
caller is known before path, query or body are looked at, and every failure of a request becomes an
answer. Only a database that is not bound, or a query on a text that is no URL, leaves no answer.
-/
import Taskboard.Http.Route
import Taskboard.Http.Url
import Taskboard.Endpoint.Tasks
import Taskboard.Endpoint.Memory
import Taskboard.Endpoint.Approvals
import Taskboard.Endpoint.Onboarding
import Taskboard.Endpoint.Agents

namespace Taskboard.Http

/-! ## Requests and answers -/

/-- A request, and the clock's text for the moment it is served. -/
structure Request where
  method : Method
  url : String
  headers : Headers
  body? : Option String
  now : String

/-- The body of an answer. -/
inductive Body where
  | json (value : Json)
  | text (text : String)

/-- An answer. -/
structure Response where
  status : Nat
  body : Body

/-- Why there is no answer. -/
inductive ServerError where
  | unboundDatabase (name : String)
  | unparsableUrl (url : String)
deriving DecidableEq

/-- What the platform is told. -/
def ServerError.message : ServerError → String
  | .unboundDatabase name => "Binding `" ++ name ++ "` is undefined."
  | .unparsableUrl url => "failed to parse Url from relative URL without a base: " ++ url

/-- The answer that carries a value. -/
def Response.ok (value : Json) : Response :=
  ⟨200, .json value⟩

/-- The answer that reports a failure. -/
def Response.ofFailure (failure : Failure) : Response :=
  ⟨failure.status, .json failure.body⟩

/-! ## Parts of a request -/

/-- The pairs of the query. -/
def Request.params (request : Request) : Except ServerError Params :=
  match Url.parse? request.url with
  | some url => .ok ((url.query?.map Form.pairs).getD [])
  | none => .error (.unparsableUrl request.url)

/-- The body as a payload: JSON text of the form that is asked for. -/
def Request.payload {α : Type} (request : Request) (read? : Json → Option α) : Except Failure α :=
  match (request.body?.bind Json.parse?).bind read? with
  | some payload => .ok payload
  | none => .error (.badRequest .unreadableBody)

/-! ## Actions -/

/-- A list of values as JSON. -/
def listing {α : Type} (json : α → Json) (values : List α) : Json :=
  .array (values.map json)

/-- What is answered to a request for the health of the server. -/
def healthReport : Json :=
  .object [("service", .string "board-coordination"), ("status", .string "ok")]

open Endpoint in
/-- What a caller is served for an action. Only listings with parameters look at the query. -/
def perform (config : Config) (request : Request) (actor : Agent) :
    Action → Except ServerError (Serving Json)
  | .health => return pure healthReport
  | .listBoards => return listing Board.model.encode <$> listBoards actor
  | .getBoard board => return Board.model.encode <$> getBoard actor board
  | .listTasks board => do
    let params ← request.params
    return do
      let filter ← params.taskFilter
      listing Task.model.encode <$> listTasks actor board filter config
  | .updateTask board task => return do
    let payload ← request.payload TaskUpdate.ofJson?
    Task.model.encode <$> updateTask actor board task payload request.now
  | .listTaskComments board task =>
    return listing TaskComment.model.encode <$> listTaskComments actor board task
  | .createTaskComment board task => return do
    let payload ← request.payload NewComment.ofJson?
    TaskComment.model.encode <$> createTaskComment actor board task payload request.now
  | .listMemory board => do
    let params ← request.params
    return do
      let page ← params.page config
      listing MemoryEntryView.json <$> listMemory actor board page
  | .createMemory board => return do
    let payload ← request.payload NewMemoryEntry.ofJson?
    MemoryEntryView.json <$> createMemory actor board payload request.now
  | .listApprovals board => do
    let params ← request.params
    return listing ApprovalView.json <$> listApprovals actor board (params.raw? "status")
  | .createApproval board => return do
    let payload ← request.payload NewApproval.ofJson?
    ApprovalView.json <$> createApproval actor board payload request.now
  | .updateOnboarding board => return do
    let payload ← request.payload some
    OnboardingView.json <$> updateOnboarding actor board payload request.now
  | .createAgent => return do
    let payload ← request.payload NewAgent.ofJson?
    IssuedAgent.json <$> createAgent actor payload request.now
  | .heartbeat => return do
    let payload ← request.payload Heartbeat.ofJson?
    AgentView.json <$> heartbeat actor payload request.now

/-! ## Answering -/

/-- Turns what is served into an answer. -/
def respond (flow : Serving Json) : Flow ServerError Response :=
  flow.andThen fun
    | .ok value => pure (.ok value)
    | .error failure => pure (.ofFailure failure)

/-- Serves an action: the database must be bound, and the caller known. -/
def serve (config : Config) (boundName : String) (request : Request) (action : Action) :
    Flow ServerError Response :=
  if config.databaseBinding = boundName then
    (Token.authenticate request.headers.token?).andThen fun
      | .error failure => pure (.ofFailure failure)
      | .ok actor =>
        match perform config request actor action with
        | .ok flow => respond flow
        | .error e => .fail e
  else .fail (.unboundDatabase config.databaseBinding)

/-- Answers a request, given the settings and the name that the database is bound to. -/
def answer (config : Config) (boundName : String) (request : Request) :
    Flow ServerError Response :=
  match Place.ofPath? (Url.pathOfText request.url) with
  | none => pure ⟨404, .text "Not Found"⟩
  | some place =>
    match place.action? request.method with
    | none => pure ⟨405, .text "Method Not Allowed"⟩
    | some .health => pure (.ok healthReport)
    | some action => serve config boundName request action

end Taskboard.Http
