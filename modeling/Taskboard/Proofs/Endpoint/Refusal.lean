/-
Refusals. A request is refused just when what it names exists and its caller is bound to another board,
or when the caller is no lead or speaks under another name (`serve_refused_iff`). A refusal comes right
behind the lookup: it changes no row, draws no random bytes, and has made the round trips of the lookup
and no other. The argument has two halves: behind its guard no request refuses anybody
(`NeverRefuses`), and what a guard answers is known exactly (`boardFor_refused`, `taskFor_refused`).
-/
import Taskboard.Proofs.Endpoint.Callers
import Taskboard.Proofs.Flow.Errors

namespace Taskboard

/-- Whether a failure says that the caller is refused. -/
def Failure.Refuses (e : Failure) : Prop :=
  ∃ cause, e = .forbidden cause

namespace Endpoint

open Taskboard.Flow Tables

variable {α β : Type} {actor : Agent} {tables : Tables} {source : Entropy} {boardId taskId : String}

/-! ## Flows that refuse nobody -/

/-- Whatever the flow is answered, it does not end with a refusal. -/
def NeverRefuses (flow : Serving α) : Prop :=
  flow.FailsOnly fun e => ¬ e.Refuses

namespace NeverRefuses

theorem pure (x : α) : NeverRefuses (pure x) :=
  .ok x

theorem bind {flow : Serving α} {next : α → Serving β} (h : NeverRefuses flow)
    (hnext : ∀ x, NeverRefuses (next x)) : NeverRefuses (flow >>= next) :=
  FailsOnly.bind h hnext

theorem fail {e : Failure} (h : ¬ e.Refuses) : NeverRefuses (Flow.fail e : Serving α) :=
  .error h

theorem query (flow : Flow QueryError α) : NeverRefuses (liftM flow : Serving α) :=
  FailsOnly.mapError flow fun _ ⟨_, h⟩ => nomatch h

theorem storage (flow : Flow StorageError α) : NeverRefuses (liftM flow : Serving α) :=
  FailsOnly.mapError flow fun _ ⟨_, h⟩ => nomatch h

theorem checked {result : Except Failure α} (h : ∀ e, result = .error e → ¬ e.Refuses) :
    NeverRefuses (liftM result : Serving α) :=
  FailsOnly.ofExcept h

theorem resolved (result : Except UnknownField α) : NeverRefuses (liftM result : Serving α) := by
  cases result with
  | ok x => exact .ok x
  | error e => exact .error fun ⟨_, h⟩ => nomatch h

end NeverRefuses

/-! ## Checks -/

theorem not_refuses_badRequest (complaint : Complaint) : ¬ (Failure.badRequest complaint).Refuses :=
  fun ⟨_, h⟩ => nomatch h

/-- An error of several checks in a row is the error of one of them. -/
theorem exists_error_of_mapM {ε : Type} {check : α → Except ε β} {xs : List α} {e : ε}
    (h : xs.mapM check = .error e) : ∃ x ∈ xs, check x = .error e := by
  induction xs with
  | nil => cases h
  | cons x rest ih =>
    rw [List.mapM_cons] at h
    rcases hx : check x with e' | y <;> rw [hx] at h
    · cases h
      exact ⟨x, List.mem_cons_self .., hx⟩
    · rcases hrest : rest.mapM check with e' | ys <;> rw [hrest] at h
      · cases h
        obtain ⟨other, hother, herror⟩ := ih hrest
        exact ⟨other, List.mem_cons_of_mem _ hother, herror⟩
      · cases h

theorem neverRefuses_found (what : String) (x? : Option α) :
    NeverRefuses (liftM (found what x?) : Serving α) := by
  cases x? with
  | none => exact .error fun ⟨_, h⟩ => nomatch h
  | some x => exact .ok x

theorem neverRefuses_requireText (field text : String) :
    NeverRefuses (liftM (requireText field text) : Serving String) := by
  refine .checked fun e he => ?_
  unfold requireText at he
  split at he
  · cases he
  · cases he
    exact not_refuses_badRequest _

theorem neverRefuses_namedStatuses (text : String) :
    NeverRefuses (liftM (namedStatuses text) : Serving (List TaskStatus)) := by
  refine .checked fun e he => ?_
  obtain ⟨piece, -, hpiece⟩ := exists_error_of_mapM he
  split at hpiece
  · cases hpiece
  · cases hpiece
    exact not_refuses_badRequest _

theorem neverRefuses_limitWithin (limit? : Option Nat) (default max : Nat) :
    NeverRefuses (liftM (Params.limitWithin limit? default max) : Serving Nat) := by
  refine .checked fun e he => ?_
  unfold Params.limitWithin at he
  split at he
  · cases he
  · split at he
    · cases he
      exact not_refuses_badRequest _
    · split at he
      · cases he
        exact not_refuses_badRequest _
      · cases he

theorem neverRefuses_approvalStatus? (text? : Option String) :
    NeverRefuses (liftM (approvalStatus? text?) : Serving (Option ApprovalStatus)) := by
  refine .checked fun e he => ?_
  unfold approvalStatus? at he
  split at he
  · cases he
  · split at he
    · cases he
    · cases he
      exact not_refuses_badRequest _

theorem neverRefuses_resolveStatus (task : Task) (text? : Option String) :
    NeverRefuses (liftM (resolveStatus task text?) : Serving TaskStatus) := by
  refine .checked fun e he => ?_
  unfold resolveStatus at he
  split at he
  · cases he
  · split at he
    · cases he
    · cases he
      exact not_refuses_badRequest _

theorem neverRefuses_freshHex (size : Nat) : NeverRefuses (freshHex size) := by
  refine .random fun bytes? => ?_
  cases bytes? with
  | none => exact .error fun ⟨_, h⟩ => nomatch h
  | some bytes => exact .ok _

theorem neverRefuses_freshId : NeverRefuses freshId :=
  neverRefuses_freshHex 16

theorem neverRefuses_freshToken : NeverRefuses freshToken :=
  neverRefuses_freshHex 32

/-! ## What comes behind the guards -/

theorem neverRefuses_tasksOfBoard (board : Board) (filter : TaskFilter) (pageMax : Nat) :
    NeverRefuses (tasksOfBoard board filter pageMax) := by
  refine .bind (neverRefuses_namedStatuses _) fun statuses => ?_
  refine .bind (.resolved _) fun plan => ?_
  refine .bind (neverRefuses_limitWithin _ _ _) fun limit => ?_
  exact .query _

theorem neverRefuses_memoryOfBoard (board : Board) (page : Page) : NeverRefuses (memoryOfBoard board page) :=
  .bind (.resolved _) fun _ => .bind (.query _) fun _ => .pure _

theorem neverRefuses_approvalsOfBoard (board : Board) (text? : Option String) :
    NeverRefuses (approvalsOfBoard board text?) := by
  refine .bind (.resolved _) fun ofBoard => ?_
  refine .bind (neverRefuses_approvalStatus? _) fun status? => ?_
  exact .bind (.query _) fun _ => .pure _

theorem neverRefuses_freshComment (actor : Agent) (task : Task) (message now : String) :
    NeverRefuses (freshComment actor task message now) :=
  .bind neverRefuses_freshId fun _ => .pure _

theorem neverRefuses_resolveAssignee (task : Task) (assignment : Assignment) :
    NeverRefuses (resolveAssignee task assignment) := by
  cases assignment with
  | keep => exact .pure _
  | clear => exact .pure _
  | assign agentId =>
    refine .bind (.query _) fun agent? => ?_
    refine .bind (neverRefuses_found _ _) fun agent => ?_
    split
    · exact .pure _
    · exact .fail (not_refuses_badRequest _)

theorem neverRefuses_applyUpdate (actor : Agent) (task : Task) (update : TaskUpdate) (now : String) :
    NeverRefuses (applyUpdate actor task update now) := by
  unfold applyUpdate
  dsimp only
  split
  · exact .fail (not_refuses_badRequest _)
  · refine .bind (neverRefuses_resolveStatus _ _) fun status => ?_
    refine .bind (neverRefuses_resolveAssignee _ _) fun assignee? => ?_
    rcases update.comment?.bind Text.nonBlank? with _ | message
    · exact .bind (.storage _) fun _ => .pure _
    · refine .bind (neverRefuses_freshComment _ _ _ _) fun comment => ?_
      exact .bind (.storage _) fun _ => .pure _

theorem neverRefuses_requireTask (board : Board) (taskId? : Option String) :
    NeverRefuses (requireTask board taskId?) := by
  cases taskId? with
  | none => exact .pure _
  | some taskId =>
    refine .bind (.query _) fun onBoard => ?_
    split
    · exact .pure _
    · exact .fail fun ⟨_, h⟩ => nomatch h

theorem neverRefuses_latestActiveSession (board : Board) : NeverRefuses (latestActiveSession board) :=
  .bind (.resolved _) fun _ => .bind (.query _) fun _ => neverRefuses_found _ _

theorem neverRefuses_insertAgent (agent : Agent) : NeverRefuses (insertAgent agent) := by
  refine FailsOnly.mapError _ fun e => ?_
  cases e <;> exact fun ⟨_, h⟩ => nomatch h

theorem neverRefuses_createAgentOn (boardId : String) (payload : NewAgent) (now : String) :
    NeverRefuses (createAgentOn boardId payload now) := by
  refine .bind (neverRefuses_requireText _ _) fun name => ?_
  refine .bind (.resolved _) fun plan => ?_
  refine .bind (.query _) fun taken => ?_
  split
  · exact .fail fun ⟨_, h⟩ => nomatch h
  · refine .bind neverRefuses_freshToken fun token => ?_
    refine .bind neverRefuses_freshId fun id => ?_
    exact .bind (neverRefuses_insertAgent _) fun _ => .pure _

theorem neverRefuses_listBoards (actor : Agent) : NeverRefuses (listBoards actor) := by
  unfold listBoards
  split <;> exact .query _

/-! ## Guards -/

/-- Bound to a board, and not to this one. -/
def BoundElsewhere (actor : Agent) (boardId : String) : Prop :=
  ∃ bound, actor.boardId? = some bound ∧ bound ≠ "" ∧ bound ≠ boardId

theorem boundElsewhere_iff : BoundElsewhere actor boardId ↔ ¬ Permits actor boardId := by
  unfold BoundElsewhere Permits Agent.boundBoard?
  rcases actor.boardId? with _ | bound
  · simp [boardsAgree]
  · by_cases hempty : bound = ""
    · simp [hempty, boardsAgree]
    · simp [hempty, boardsAgree, Option.filter]

/-- An outcome that is a refusal just when a condition holds; and then only some round trips were made. -/
structure RefusedJustWhen (condition : Prop) (trips : List Call) (tables : Tables) (source : Entropy)
    (outcome : Except Failure α × Tables × Entropy) : Prop where
  iff : (∃ cause, outcome.1 = .error (.forbidden cause)) ↔ condition
  trace : ∀ cause, outcome.1 = .error (.forbidden cause) → outcome.2 = (tables.noting trips, source)

namespace RefusedJustWhen

variable {condition : Prop} {trips : List Call}

theorem never {flow : Serving α} (h : NeverRefuses flow) (hcondition : ¬ condition) :
    RefusedJustWhen condition trips tables source (flow.run store tables source) where
  iff := ⟨fun ⟨cause, hrun⟩ => absurd ⟨cause, rfl⟩ (kind_of_run store h hrun), fun hc => absurd hc hcondition⟩
  trace cause hrun := absurd ⟨cause, rfl⟩ (kind_of_run store h hrun)

theorem access (result : Except AccessError α) (hcondition : (∃ cause, result = .error cause) ↔ condition) :
    RefusedJustWhen condition [] tables source ((liftM result : Serving α).run store tables source) where
  iff := by
    rw [← hcondition]
    cases result with
    | ok x => exact ⟨fun ⟨_, h⟩ => (nomatch h), fun ⟨_, h⟩ => (nomatch h)⟩
    | error e => exact ⟨fun _ => ⟨e, rfl⟩, fun _ => ⟨e, rfl⟩⟩
  trace _ _ := by
    rw [noting_nil]
    rfl

/-- A guard decides, for nothing behind it refuses anybody. -/
theorem bind {flow : Serving α} {next : α → Serving β}
    (h : RefusedJustWhen condition trips tables source (flow.run store tables source))
    (hnext : ∀ x, NeverRefuses (next x)) :
    RefusedJustWhen condition trips tables source ((flow >>= next).run store tables source) := by
  obtain ⟨hiff, htrace⟩ := h
  rw [run_bind]
  rcases hrun : flow.run store tables source with ⟨e | x, after, rest⟩ <;> rw [hrun] at hiff htrace
  · -- A flow that fails ends there, so both outcomes are the same failure.
    refine ⟨Iff.trans ⟨fun ⟨cause, h⟩ => ⟨cause, ?_⟩, fun ⟨cause, h⟩ => ⟨cause, ?_⟩⟩ hiff, fun cause h => htrace cause ?_⟩
    all_goals cases h; rfl
  · have hnot : ¬ condition := fun hc => by
      obtain ⟨_, hcause⟩ := hiff.2 hc
      cases hcause
    have hnever := hnext x
    exact ⟨⟨fun ⟨cause, hcause⟩ => absurd ⟨cause, rfl⟩ (kind_of_run store hnever hcause), fun hc => absurd hc hnot⟩,
      fun cause hcause => absurd ⟨cause, rfl⟩ (kind_of_run store hnever hcause)⟩

/-- Behind a lookup that finds something, what follows decides, and its round trips come behind that one. -/
theorem behind {flow : Serving α} {next : α → Serving β} {x : α} {trip : Call}
    (hrun : flow.run store tables source = (.ok x, tables.noting [trip], source))
    (h : RefusedJustWhen condition trips (tables.noting [trip]) source
      ((next x).run store (tables.noting [trip]) source)) :
    RefusedJustWhen condition (trip :: trips) tables source ((flow >>= next).run store tables source) := by
  rw [run_bind, hrun]
  refine ⟨h.iff, fun cause hcause => (h.trace cause hcause).trans ?_⟩
  rw [noting_noting]
  rfl

/-- A lookup that finds nothing ends the request, but with no refusal. -/
theorem missed {flow : Serving α} {next : α → Serving β} {what : String}
    (hrun : (flow.run store tables source).1 = .error (.notFound what)) (hcondition : ¬ condition) :
    RefusedJustWhen condition trips tables source ((flow >>= next).run store tables source) := by
  rw [run_bind]
  rcases hended : flow.run store tables source with ⟨result, after, rest⟩
  rw [hended] at hrun
  cases hrun
  exact ⟨⟨fun ⟨_, h⟩ => (nomatch h), fun hc => absurd hc hcondition⟩, fun _ h => nomatch h⟩

end RefusedJustWhen

/-! ## Lookups -/

/-- The round trip that looks up a board. -/
def boardTrip : Call :=
  ⟨.select, "boards", "SELECT * FROM boards WHERE id = ?1 LIMIT ?2"⟩

/-- The round trip that looks up a task on a board. -/
def taskTrip : Call :=
  ⟨.select, "tasks", "SELECT * FROM tasks WHERE id = ?1 AND board_id = ?2 LIMIT ?3"⟩

/-- The text of a lookup does not depend on what is looked up. -/
theorem trip_boardPlan (boardId : String) : ((boardPlan boardId).take 1).trip = boardTrip := by
  show ((boardPlan "").take 1).trip = boardTrip
  decide +kernel

theorem trip_taskOnBoardPlan (boardId taskId : String) :
    ((taskOnBoardPlan boardId taskId).take 1).trip = taskTrip := by
  show ((taskOnBoardPlan "" "").take 1).trip = taskTrip
  decide +kernel

section Lookups

variable (hreadable : tables.Readable) (hquiet : tables.fault? = none) (source : Entropy)
include hreadable hquiet

/-- Looking for the first row of a plan makes one round trip and finds out whether there is one. -/
theorem run_found (entity : Entity) (plan : Plan) (what : String) (hschema : plan.schema = entity.model.schema)
    (hvalid : (plan.take 1).validate = .ok ()) (hvacuous : plan.isVacuous = false) (hoffset : plan.offset? = none) :
    ∃ x?, entity.model.FirstFound tables plan x? ∧
      (do found what (← entity.model.first plan) : Serving entity.Value).run store tables source =
        (found what x?, tables.noting [(plan.take 1).trip], source) := by
  have hrows : entity.model.Readable tables plan.schema.table := hschema ▸ hreadable entity
  obtain ⟨x?, hfound, hrun⟩ := Model.run_first_of_readable hquiet hrows hvalid hvacuous hoffset source
  refine ⟨x?, hfound, ?_⟩
  show (((entity.model.first plan).mapError Failure.query >>= fun x? => liftM (found what x?) :
    Serving entity.Value)).run store _ _ = _
  rw [run_bind, run_mapError, hrun]
  rfl

/-- A board is found when there is one with the identifier, and otherwise missed. -/
theorem run_findBoard (boardId : String) :
    (∃ board, board.id = boardId ∧ tables.Has "boards" boardId ∧
      (findBoard boardId).run store tables source = (.ok board, tables.noting [boardTrip], source)) ∨
    (¬ tables.Has "boards" boardId ∧
      ((findBoard boardId).run store tables source).1 = .error (.notFound "board")) := by
  obtain ⟨board?, hfound, hrun⟩ := run_found hreadable hquiet source .board (boardPlan boardId) "board" rfl rfl rfl
    rfl
  rw [trip_boardPlan] at hrun
  rcases board? with _ | board
  · exact .inr ⟨fun ⟨row, hrow, hid⟩ => hfound row hrow (meets_boardPlan.2 hid), congrArg Prod.fst hrun⟩
  · refine .inl ⟨board, board_of_found hfound, ?_, hrun⟩
    obtain ⟨row, hrow, hmeets, -⟩ := hfound
    exact ⟨row, hrow, meets_boardPlan.1 hmeets⟩

/-- A task is found when there is one with the identifier on the board, and otherwise missed. -/
theorem run_findTask (board : Board) (taskId : String) :
    (∃ task, task.boardId? = some board.id ∧ tables.Places "tasks" taskId (some board.id) ∧
      (findTask board taskId).run store tables source = (.ok task, tables.noting [taskTrip], source)) ∨
    (¬ tables.Places "tasks" taskId (some board.id) ∧
      ((findTask board taskId).run store tables source).1 = .error (.notFound "task")) := by
  obtain ⟨task?, hfound, hrun⟩ := run_found hreadable hquiet source .task (taskOnBoardPlan board.id taskId) "task"
    rfl rfl rfl rfl
  rw [trip_taskOnBoardPlan] at hrun
  rcases task? with _ | task
  · exact .inr ⟨fun ⟨row, hrow, hplace⟩ => hfound row hrow (meets_taskOnBoardPlan.2 hplace), congrArg Prod.fst hrun⟩
  · refine .inl ⟨task, (task_of_found hfound).2, ?_, hrun⟩
    obtain ⟨row, hrow, hmeets, -⟩ := hfound
    exact ⟨row, hrow, meets_taskOnBoardPlan.1 hmeets⟩

/-! ## Guarded requests -/

omit hreadable hquiet in
theorem requireAccess_error_iff {resource : Resource} (hboard : resource.board? = some boardId) :
    (∃ cause, actor.requireAccess resource = .error cause) ↔ BoundElsewhere actor boardId := by
  rw [boundElsewhere_iff, Permits, ← hboard]
  unfold Agent.requireAccess
  split <;> rename_i hagree <;> simp [hagree]

/-- A board that exists is refused to callers that are bound elsewhere. -/
theorem boardFor_refused (actor : Agent) (boardId : String) :
    RefusedJustWhen (tables.Has "boards" boardId ∧ BoundElsewhere actor boardId) [boardTrip] tables source
      ((boardFor actor boardId).run store tables source) := by
  rcases run_findBoard hreadable hquiet source boardId with ⟨board, hid, hhas, hrun⟩ | ⟨hnot, hrun⟩
  · refine .behind hrun (.bind (.access _ ?_) fun _ => .pure board)
    rw [requireAccess_error_iff (congrArg some hid)]
    exact (and_iff_right hhas).symm
  · exact .missed hrun fun h => hnot h.1

/-- A task that exists on a board that exists is refused to callers that are bound elsewhere. -/
theorem taskFor_refused (actor : Agent) (boardId taskId : String) :
    RefusedJustWhen (tables.Has "boards" boardId ∧ tables.Places "tasks" taskId (some boardId) ∧
        BoundElsewhere actor boardId) [boardTrip, taskTrip] tables source
      ((taskFor actor boardId taskId).run store tables source) := by
  rcases run_findBoard hreadable hquiet source boardId with ⟨board, rfl, hhas, hrun⟩ | ⟨hnot, hrun⟩
  · refine .behind hrun ?_
    have hreadable' : (tables.noting [boardTrip]).Readable := hreadable
    rcases run_findTask hreadable' hquiet source board taskId with
      ⟨task, hplace, hplaced, hrun⟩ | ⟨hnot, hrun⟩
    · refine .behind hrun (.bind (.access _ ?_) fun _ => .pure task)
      rw [requireAccess_error_iff hplace]
      exact ⟨fun h => ⟨hhas, hplaced, h⟩, fun h => h.2.2⟩
    · exact .missed hrun fun h => hnot h.2.1
  · exact .missed hrun fun h => hnot h.1

theorem createTaskComment_refused (actor : Agent) (boardId taskId : String) (payload : NewComment) (now : String) :
    RefusedJustWhen (tables.Has "boards" boardId ∧ tables.Places "tasks" taskId (some boardId) ∧
        BoundElsewhere actor boardId) [boardTrip, taskTrip] tables source
      ((createTaskComment actor boardId taskId payload now).run store tables source) := by
  refine (taskFor_refused hreadable hquiet source actor boardId taskId).bind fun task => ?_
  refine .bind (neverRefuses_requireText _ _) fun message => ?_
  refine .bind (neverRefuses_freshComment _ _ _ _) fun comment => ?_
  exact .bind (.storage _) fun _ => .pure _

theorem createMemory_refused (actor : Agent) (boardId : String) (payload : NewMemoryEntry) (now : String) :
    RefusedJustWhen (tables.Has "boards" boardId ∧ BoundElsewhere actor boardId) [boardTrip] tables source
      ((createMemory actor boardId payload now).run store tables source) := by
  refine (boardFor_refused hreadable hquiet source actor boardId).bind fun board => ?_
  refine .bind (neverRefuses_requireText _ _) fun content => ?_
  refine .bind neverRefuses_freshId fun id => ?_
  exact .bind (.storage _) fun _ => .pure _

theorem createApproval_refused (actor : Agent) (boardId : String) (payload : NewApproval) (now : String) :
    RefusedJustWhen (tables.Has "boards" boardId ∧ BoundElsewhere actor boardId) [boardTrip] tables source
      ((createApproval actor boardId payload now).run store tables source) := by
  refine (boardFor_refused hreadable hquiet source actor boardId).bind fun board => ?_
  refine .bind (neverRefuses_requireText _ _) fun actionType => ?_
  split
  · exact .fail (not_refuses_badRequest _)
  · refine .bind (neverRefuses_requireTask _ _) fun _ => ?_
    refine .bind neverRefuses_freshId fun id => ?_
    exact .bind (.storage _) fun _ => .pure _

theorem updateOnboarding_refused (actor : Agent) (boardId : String) (payload : Json) (now : String) :
    RefusedJustWhen (tables.Has "boards" boardId ∧ BoundElsewhere actor boardId) [boardTrip] tables source
      ((updateOnboarding actor boardId payload now).run store tables source) := by
  refine (boardFor_refused hreadable hquiet source actor boardId).bind fun board => ?_
  cases payload with
  | object answer =>
    refine .bind (neverRefuses_latestActiveSession _) fun session => ?_
    dsimp only
    split
    · exact .fail fun ⟨_, h⟩ => nomatch h
    · exact .bind (.storage _) fun _ => .pure _
  | _ => exact .fail (not_refuses_badRequest _)

end Lookups

/-! ## Every request -/

/-- When a request of a caller is refused on tables. -/
def Request.Refused (actor : Agent) (tables : Tables) : Request → Prop
  | .listBoards => False
  | .getBoard boardId | .listTasks boardId .. | .listMemory boardId .. | .createMemory boardId ..
  | .listApprovals boardId .. | .createApproval boardId .. | .updateOnboarding boardId .. =>
    tables.Has "boards" boardId ∧ BoundElsewhere actor boardId
  | .updateTask boardId taskId .. | .listTaskComments boardId taskId | .createTaskComment boardId taskId .. =>
    tables.Has "boards" boardId ∧ tables.Places "tasks" taskId (some boardId) ∧ BoundElsewhere actor boardId
  | .createAgent .. => actor.isBoardLead = false ∨ actor.boardId? = none ∨ actor.boardId? = some ""
  | .heartbeat payload _ => payload.name ≠ actor.name

/-- The round trips of a request that is refused: the lookup of what it names. -/
def Request.refusalTrips : Request → List Call
  | .getBoard .. | .listTasks .. | .listMemory .. | .createMemory .. | .listApprovals .. | .createApproval ..
  | .updateOnboarding .. => [boardTrip]
  | .updateTask .. | .listTaskComments .. | .createTaskComment .. => [boardTrip, taskTrip]
  | .listBoards | .createAgent .. | .heartbeat .. => []

theorem leadBoard_error_iff : (∃ cause, actor.leadBoard = .error cause) ↔
    actor.isBoardLead = false ∨ actor.boardId? = none ∨ actor.boardId? = some "" := by
  unfold Agent.leadBoard Agent.boundBoard?
  cases actor.isBoardLead with
  | false => simp
  | true =>
    rcases actor.boardId? with _ | bound
    · simp
    · by_cases hempty : bound = "" <;> simp [Option.filter, hempty]

theorem requireIdentity_error_iff {declared : String} :
    (∃ cause, actor.requireIdentity declared = .error cause) ↔ declared ≠ actor.name := by
  unfold Agent.requireIdentity
  split <;> simp_all [eq_comm]

/-- The guard of a request decides whether it is refused. -/
theorem serve_refusedJustWhen (hreadable : tables.Readable) (hquiet : tables.fault? = none) (actor : Agent)
    (request : Request) (source : Entropy) :
    RefusedJustWhen (request.Refused actor tables) request.refusalTrips tables source
      (request.run actor tables source) := by
  have hboard := fun boardId => boardFor_refused hreadable hquiet source actor boardId
  have htask := fun boardId taskId => taskFor_refused hreadable hquiet source actor boardId taskId
  cases request with
  | listBoards => exact .never (neverRefuses_listBoards actor) id
  | getBoard boardId => exact hboard boardId
  | listTasks boardId filter config => exact (hboard boardId).bind fun _ => neverRefuses_tasksOfBoard _ _ _
  | updateTask boardId taskId update now =>
    exact (htask boardId taskId).bind fun _ => neverRefuses_applyUpdate _ _ _ _
  | listTaskComments boardId taskId =>
    exact (htask boardId taskId).bind fun _ => .bind (.resolved _) fun _ => .query _
  | createTaskComment boardId taskId payload now =>
    exact createTaskComment_refused hreadable hquiet source actor boardId taskId payload now
  | listMemory boardId page => exact (hboard boardId).bind fun _ => neverRefuses_memoryOfBoard _ _
  | createMemory boardId payload now => exact createMemory_refused hreadable hquiet source actor boardId payload now
  | listApprovals boardId status? => exact (hboard boardId).bind fun _ => neverRefuses_approvalsOfBoard _ _
  | createApproval boardId payload now => exact createApproval_refused hreadable hquiet source actor boardId payload now
  | updateOnboarding boardId payload now => exact updateOnboarding_refused hreadable hquiet source actor boardId payload now
  | createAgent payload now =>
    exact .bind (.access _ leadBoard_error_iff) fun boardId => neverRefuses_createAgentOn _ _ _
  | heartbeat payload now =>
    exact .bind (.access _ requireIdentity_error_iff) fun _ => .bind (.storage _) fun _ => .pure _

/-- On tables that can be read and where no failure waits, a request is refused just when the board or
task that it names exists and its caller is bound to another board, or when the caller is no lead with a
board or speaks under another name. A refusal changes no row, draws no random bytes, and has made the
round trips of its lookup and no other. -/
theorem serve_refused_iff (hreadable : tables.Readable) (hquiet : tables.fault? = none) (actor : Agent)
    (request : Request) (source : Entropy) :
    ((∃ cause, (request.run actor tables source).1 = .error (.forbidden cause)) ↔ request.Refused actor tables) ∧
      ∀ cause, (request.run actor tables source).1 = .error (.forbidden cause) →
        (request.run actor tables source).2.1.rows = tables.rows ∧
        (request.run actor tables source).2.1.calls = tables.calls ++ request.refusalTrips ∧
        (request.run actor tables source).2.2 = source := by
  obtain ⟨hiff, htrace⟩ := serve_refusedJustWhen hreadable hquiet actor request source
  refine ⟨hiff, fun cause hcause => ?_⟩
  rw [htrace cause hcause]
  exact ⟨rfl, rfl, rfl⟩

/-- In the small office the lead of the first board is refused the second. -/
theorem serve_refused_iff_office : (office []).Readable ∧ (office []).fault? = none ∧
    ∃ cause, ((Request.getBoard "b2").run lead (office []) Entropy.counting).1 = .error (.forbidden cause) := by
  have hreadable : (office []).Readable := readable_office []
  refine ⟨hreadable, rfl, (serve_refused_iff hreadable rfl lead (.getBoard "b2") Entropy.counting).1.2 ⟨?_, ?_⟩⟩
  · exact ⟨_, List.mem_cons_of_mem _ (List.mem_singleton.2 rfl), rfl⟩
  · exact ⟨"b1", rfl, by decide, by decide⟩

end Endpoint

end Taskboard
