/-
Answers and faults of a store. An answer is prudent from the lookup of its caller to the end (`serve_prudent`): at
the first fault it reports what the request makes of it (`Action.told`).
-/
import Taskboard.Http.Server
import Taskboard.Proofs.Endpoint.Callers
import Taskboard.Proofs.Endpoint.Faults

namespace Taskboard.Http

open Taskboard.Flow Taskboard.Endpoint

/-! ## Responses -/

/-- The response to a caller that is not known. -/
def unauthorized : Response :=
  ⟨401, .json (.object [("error", .string "unauthorized")])⟩

/-- The response to a caller that is refused. -/
def forbidden : Response :=
  ⟨403, .json (.object [("error", .string "forbidden")])⟩

/-- The response to an agent whose name another agent of its board has. -/
def nameTaken (name : String) : Response :=
  ⟨409, .json (.object [("error", .string ("agent " ++ name ++ " already exists on this board"))])⟩

/-- The response to any failure inside. -/
def internalError : Response :=
  ⟨500, .json (.object [("error", .string "internal error")])⟩

/-! ## Requests that lead to an action -/

/-- What a request asks for, if its path and its method lead anywhere. -/
def Request.action? (request : Request) : Option Action :=
  (Place.ofPath? (Url.pathOfText request.url)).bind fun place => place.action? request.method

theorem answer_of_action {config : Config} {boundName : String} {request : Request} {action : Action}
    (haction : request.action? = some action) (hagent : action ≠ .health) :
    answer config boundName request = serve config boundName request action := by
  obtain ⟨place, hplace, haction⟩ := Option.bind_eq_some_iff.1 haction
  unfold answer
  rw [hplace]
  simp only [haction]

/-! ## Callers -/

/-- What becomes of the rows that were found for a token. -/
def callerOf (answer : Except StorageError (List Json)) : Except Failure Agent :=
  match answer.bind Agent.model.decodeAll with
  | .error e => .error (.query (.storage e))
  | .ok [] => .error .unauthorized
  | .ok (agent :: _) => .ok agent

/-- A caller is looked up by its token in one request. -/
theorem authenticate_eq (token : String) : Token.authenticate (some token) =
    .select ((tokenPlan token).take 1) fun answer => .done (callerOf answer) := by
  refine congrArg (Flow.select ((tokenPlan token).take 1)) (funext fun answer => ?_)
  unfold callerOf
  beta_reduce
  rcases answer.bind Agent.model.decodeAll with _ | _ | _ <;> rfl

theorem authenticate_blames {blame : Ask → StorageError → Failure}
    (h : ∀ plan e, blame (.select plan) e = inside (.select plan) e) (token? : Option String) :
    (Token.authenticate token?).Blames blame := by
  cases token? with
  | none => exact .done _
  | some token =>
    refine resolved_blames fun plan hplan => ?_
    cases hplan
    refine .bind (.first h .agent rfl) fun agent? => ?_
    cases agent? <;> exact .done _

/-! ## Answers -/

/-- What is told of an error of the store that an action meets: only a refused row of a new agent says that the name
is taken. -/
def Action.told (request : Request) (action : Action) (ask : Ask) (e : StorageError) : Failure :=
  match action, ask, e, request.payload NewAgent.ofJson? with
  | .createAgent, .write ⟨.insert, _, _⟩, .constraint _, .ok payload => .conflict (.nameTaken (Text.trim payload.name))
  | _, ask, e, _ => inside ask e

/-- What is shown of a value that is served. -/
theorem shown_blames {α : Type} {blame : Ask → StorageError → Failure} {flow : Serving α} (h : flow.Blames blame)
    (encode : α → Json) : (encode <$> flow).Blames blame :=
  .bind h fun _ => .done _

theorem payload_blames {α : Type} {blame : Ask → StorageError → Failure} {request : Request} {read? : Json → Option α}
    {next : α → Serving Json} (h : ∀ payload, request.payload read? = .ok payload → (next payload).Blames blame) :
    (do next (← request.payload read?) : Serving Json).Blames blame :=
  checked_blames h

/-- A request whose query is read is served with the pairs of it. -/
theorem exists_params {request : Request} {next : Params → Except ServerError (Serving Json)} {flow : Serving Json}
    (h : (request.params >>= next) = .ok flow) : ∃ params, next params = .ok flow := by
  cases hparams : request.params with
  | error e =>
    rw [hparams] at h
    cases h
  | ok params =>
    rw [hparams] at h
    exact ⟨params, h⟩

theorem told_createAgent {request : Request} {payload : NewAgent}
    (hpayload : request.payload NewAgent.ofJson? = .ok payload) :
    Action.createAgent.told request = (Endpoint.Request.createAgent payload request.now).told := by
  funext ask e
  rcases ask with _ | _ | ⟨_ | _, _, _⟩ | _ <;> cases e <;>
    simp only [Action.told, hpayload, Endpoint.Request.told]

theorem perform_blames {config : Config} {request : Request} {actor : Agent} {action : Action} {flow : Serving Json}
    (hflow : perform config request actor action = .ok flow) : flow.Blames (action.told request) := by
  cases action with
  | health =>
    cases hflow
    exact .done _
  | listBoards =>
    cases hflow
    exact shown_blames (serve_blames actor .listBoards) _
  | getBoard board =>
    cases hflow
    exact shown_blames (serve_blames actor (.getBoard board)) _
  | listTasks board =>
    obtain ⟨params, hserved⟩ := exists_params hflow
    cases hserved
    exact checked_blames fun filter _ => shown_blames (serve_blames actor (.listTasks board filter config)) _
  | updateTask board task =>
    cases hflow
    exact payload_blames fun payload _ => shown_blames (serve_blames actor (.updateTask board task payload _)) _
  | listTaskComments board task =>
    cases hflow
    exact shown_blames (serve_blames actor (.listTaskComments board task)) _
  | createTaskComment board task =>
    cases hflow
    exact payload_blames fun payload _ => shown_blames (serve_blames actor (.createTaskComment board task payload _)) _
  | listMemory board =>
    obtain ⟨params, hserved⟩ := exists_params hflow
    cases hserved
    exact checked_blames fun page _ => shown_blames (serve_blames actor (.listMemory board page)) _
  | createMemory board =>
    cases hflow
    exact payload_blames fun payload _ => shown_blames (serve_blames actor (.createMemory board payload _)) _
  | listApprovals board =>
    obtain ⟨params, hserved⟩ := exists_params hflow
    cases hserved
    exact shown_blames (serve_blames actor (.listApprovals board _)) _
  | createApproval board =>
    cases hflow
    exact payload_blames fun payload _ => shown_blames (serve_blames actor (.createApproval board payload _)) _
  | updateOnboarding board =>
    cases hflow
    exact payload_blames fun payload _ => shown_blames (serve_blames actor (.updateOnboarding board payload _)) _
  | createAgent =>
    cases hflow
    refine payload_blames fun payload hpayload => shown_blames ?_ _
    rw [told_createAgent hpayload]
    exact serve_blames actor (.createAgent payload request.now)
  | heartbeat =>
    cases hflow
    exact payload_blames fun payload _ => shown_blames (serve_blames actor (.heartbeat payload _)) _

/-- What is served to a caller, known by a token or not, and to one that is not known. -/
def admitted (config : Config) (request : Request) (action : Action) : Except Failure Agent → Flow ServerError Response
  | .error failure => pure (.ofFailure failure)
  | .ok actor =>
    match perform config request actor action with
    | .ok flow => respond flow
    | .error e => .fail e

theorem serve_of_token {config : Config} {boundName : String} {request : Request} {action : Action}
    (hbinding : config.databaseBinding = boundName) {token : String}
    (htoken : request.headers.token? = some token) : serve config boundName request action =
      .select ((tokenPlan token).take 1) fun answer => admitted config request action (callerOf answer) := by
  unfold serve
  rw [if_pos hbinding, htoken, authenticate_eq]
  rfl

/-- An answer ends at the first fault with the report of what is told of it. -/
theorem serve_prudent (config : Config) (boundName : String) (request : Request) (action : Action) :
    (serve config boundName request action).Prudent fun ask e => .ok (.ofFailure (action.told request ask e)) := by
  have hreads : ∀ plan e, action.told request (.select plan) e = inside (.select plan) e := by
    intro plan e
    cases action <;> rfl
  unfold serve
  split
  · refine Prudent.andThen (authenticate_blames hreads _) (fun _ _ => rfl) fun caller => ?_
    cases caller with
    | error failure => exact .done _
    | ok actor =>
      dsimp only
      split
      · rename_i flow hflow
        refine Prudent.andThen (perform_blames hflow) (fun _ _ => rfl) fun result => ?_
        cases result <;> exact .done _
      · exact .done _
  · exact .done _

theorem answer_prudent (config : Config) (boundName : String) (request : Request) :
    (answer config boundName request).Prudent fun ask e =>
      .ok (.ofFailure ((request.action?.getD .health).told request ask e)) := by
  unfold answer Request.action?
  split
  · exact .done _
  · rename_i place hplace
    rw [hplace]
    split
    · exact .done _
    · exact .done _
    · rename_i action _ haction
      simp only [Option.bind_some, haction, Option.getD_some]
      exact serve_prudent config boundName request action

end Taskboard.Http
