/-
The way to a board, a task or an assignee, in step. What a flow learns from a lookup is either the
same in both states, or no more than whether there is such a board, task or agent and where it is
placed: a caller that is bound elsewhere is refused before anything else of it is used.
-/
import Taskboard.Proofs.Endpoint.Request
import Taskboard.Proofs.Storage.Entities
import Taskboard.Proofs.Storage.Queries

namespace Taskboard

/-! ## Flows of requests in step -/

namespace Flow.InStep

variable {α β : Type} {s t : Tables} {drawn : Nat → List UInt8 → Prop} {seen : α → β → List Write → Prop}

theorem query {f : Flow QueryError α} {g : Flow QueryError β} (h : InStep drawn s t f g seen) :
    InStep drawn s t (liftM f : Serving α) (liftM g : Serving β) seen :=
  h.mapError Failure.query

theorem storage {f : Flow StorageError α} {g : Flow StorageError β} (h : InStep drawn s t f g seen) :
    InStep drawn s t (liftM f : Serving α) (liftM g : Serving β) seen :=
  h.mapError fun e => Failure.query (.storage e)

theorem checked (result : Except Failure α) :
    InStep drawn s t (liftM result : Serving α) (liftM result) fun x y writes => writes = [] ∧
      x = y ∧ result = .ok x :=
  ofExcept result fun _ h => ⟨rfl, rfl, h⟩

theorem access (result : Except AccessError α) :
    InStep drawn s t (liftM result : Serving α) (liftM result) fun x y writes => writes = [] ∧
      x = y ∧ result = .ok x := by
  rcases result with e | x
  · exact fail _
  · exact value ⟨rfl, rfl, rfl⟩

theorem resolved (result : Except UnknownField α) :
    InStep drawn s t (liftM result : Serving α) (liftM result) fun x y writes => writes = [] ∧
      x = y ∧ result = .ok x := by
  rcases result with e | x
  · exact fail _
  · exact value ⟨rfl, rfl, rfl⟩

end Flow.InStep

namespace Model

variable {α : Type} {model : Model α} {s t : Tables} {plan : Plan} {x : α}

/-- A value that some row stands for, in both states. -/
def Stored (model : Model α) (s t : Tables) (x : α) : Prop :=
  (∃ row ∈ s.rows model.schema.table, model.decode? (.object row) = some x) ∧
    ∃ row ∈ t.rows model.schema.table, model.decode? (.object row) = some x

theorem stored_of_found (hschema : plan.schema = model.schema) (hs : model.Found s plan x)
    (ht : model.Found t plan x) : model.Stored s t x := by
  obtain ⟨row, hrow, -, hdecode⟩ := hs
  obtain ⟨row', hrow', -, hdecode'⟩ := ht
  rw [hschema] at hrow hrow'
  exact ⟨⟨row, hrow, hdecode⟩, row', hrow', hdecode'⟩

end Model

namespace Endpoint

open Taskboard.Flow

/-- A first row, or the failure that names what was not found. -/
theorem found_of_same {α : Type} {s t : Tables} {drawn : Nat → List UInt8 → Prop} {model : Model α} {plan : Plan}
    (h : s.answer (plan.take 1) = t.answer (plan.take 1)) (what : String) :
    InStep drawn s t (do found what (← model.first plan) : Serving α) (do found what (← model.first plan))
      fun x y writes => writes = [] ∧ x = y ∧ model.Found s plan x ∧ model.Found t plan x := by
  refine .bindSame (.query (.first_of_same h)) fun x? hfound => ?_
  refine (InStep.checked _).mono fun x y writes hseen => ⟨hseen.1, hseen.2.1, ?_⟩
  rcases x? with _ | x
  · cases hseen.2.2
  · cases hseen.2.2
    exact hfound _ rfl

variable {s t : Tables} {drawn : Nat → List UInt8 → Prop} {actor : Agent} {boardId taskId agentId : String}

/-! ## Access -/

/-- Whether a caller may touch what is on a board. -/
def Permits (actor : Agent) (boardId : String) : Prop :=
  boardsAgree actor.boundBoard? (some boardId) = true

theorem permits_of_requireAccess {resource : Resource} (h : actor.requireAccess resource = .ok ())
    (hboard : resource.board? = some boardId) : Permits actor boardId := by
  unfold Agent.requireAccess at h
  split at h
  · rename_i hagree
    rw [hboard] at hagree
    exact hagree
  · cases h

theorem permits_of_bound (hbound : actor.boundBoard? = some boardId) : Permits actor boardId := by
  unfold Permits
  rw [hbound]
  exact beq_self_eq_true boardId

/-- The board of a lead is the one it is bound to. -/
theorem boundBoard?_of_leadBoard (h : actor.leadBoard = .ok boardId) : actor.boundBoard? = some boardId := by
  unfold Agent.leadBoard at h
  split at h
  · split at h
    · rename_i hbound
      rw [hbound]
      exact congrArg some (Except.ok.inj h)
    · cases h
  · cases h

theorem boardId?_of_bound (hbound : actor.boundBoard? = some boardId) : actor.boardId? = some boardId := by
  unfold Agent.boundBoard? at hbound
  exact (Option.filter_eq_some_iff.1 hbound).1

/-- A bound caller may touch its own board only. -/
theorem eq_of_permits {bound : String} (hbound : actor.boundBoard? = some bound) (h : Permits actor boardId) :
    boardId = bound := by
  unfold Permits at h
  rw [hbound] at h
  exact (beq_iff_eq.1 h).symm

/-! ## Plans of lookups -/

/-- The plan that looks up a board. -/
def boardPlan (boardId : String) : Plan :=
  Board.schema.withId (.string boardId)

/-- The plan that looks up a task on a board. -/
def taskOnBoardPlan (boardId taskId : String) : Plan :=
  (Task.schema.withId (.string taskId)).filter (.is "board_id" (.string boardId))

/-- The plan that looks up an agent. -/
def agentPlan (agentId : String) : Plan :=
  Agent.schema.withId (.string agentId)

theorem meets_singleton {plan : Plan} {field text : String}
    (h : plan.predicates = [.equals field (.string text)]) {row : Record} :
    plan.Meets row ↔ row.text? field = some text := by
  unfold Plan.Meets
  rw [h, List.forall_mem_singleton, Predicate.holds_equals_string]

theorem meets_boardPlan {row : Record} : (boardPlan boardId).Meets row ↔ row.text? "id" = some boardId :=
  meets_singleton rfl

theorem meets_agentPlan {row : Record} : (agentPlan agentId).Meets row ↔ row.text? "id" = some agentId :=
  meets_singleton rfl

theorem meets_taskOnBoardPlan {row : Record} : (taskOnBoardPlan boardId taskId).Meets row ↔
    row.text? "id" = some taskId ∧ row.text? "board_id" = some boardId := by
  show (∀ part ∈ [Predicate.equals "id" (.string taskId), .equals "board_id" (.string boardId)],
    part.holds row = true) ↔ _
  rw [List.forall_mem_cons, List.forall_mem_singleton, Predicate.holds_equals_string, Predicate.holds_equals_string]

theorem board_of_found {board : Board} (h : Board.model.Found s (boardPlan boardId) board) :
    board.id = boardId := by
  obtain ⟨row, -, hmeets, hdecode⟩ := h
  exact Option.some.inj ((Board.text?_of_ofRecord? hdecode).symm.trans (meets_boardPlan.1 hmeets))

theorem task_of_found {task : Task} (h : Task.model.Found s (taskOnBoardPlan boardId taskId) task) :
    task.id = taskId ∧ task.boardId? = some boardId := by
  obtain ⟨row, -, hmeets, hdecode⟩ := h
  obtain ⟨hid, hboard⟩ := meets_taskOnBoardPlan.1 hmeets
  obtain ⟨hreadId, hreadBoard⟩ := Task.text?_of_ofRecord? hdecode
  exact ⟨Option.some.inj (hreadId.symm.trans hid), hreadBoard.symm.trans hboard⟩

theorem agent_of_found {agent : Agent} (h : Agent.model.Found s (agentPlan agentId) agent) :
    agent.id = agentId := by
  obtain ⟨row, -, hmeets, hdecode⟩ := h
  exact Option.some.inj ((Agent.text?_of_ofRecord? hdecode).1.symm.trans (meets_agentPlan.1 hmeets))

/-- Of one identifier, two states in which agents are placed alike have agents on one board. -/
theorem boardId?_eq_of_found (hplaced : ∀ id board?, s.Places "agents" id board? ↔ t.Places "agents" id board?)
    (hunique : ((t.rows "agents").filterMap (·.text? "id")).Nodup) {x y : Agent}
    (hx : Agent.model.Found s (agentPlan agentId) x) (hy : Agent.model.Found t (agentPlan agentId) y) :
    y.boardId? = x.boardId? := by
  obtain ⟨row, hrow, hmeets, hdecode⟩ := hx
  obtain ⟨row', hrow', hmeets', hdecode'⟩ := hy
  have hplace : s.Places "agents" agentId x.boardId? :=
    ⟨row, hrow, meets_agentPlan.1 hmeets, (Agent.text?_of_ofRecord? hdecode).2⟩
  -- The second state has an agent in the same place, which by its identifier is the one found there.
  obtain ⟨other, hother, hid, hboard⟩ := (hplaced _ _).1 hplace
  have hsame : other = row' := Tables.eq_of_nodup_filterMap hunique hrow' hother (meets_agentPlan.1 hmeets') hid
  rw [← hboard, ← (Agent.text?_of_ofRecord? hdecode').2, hsame]

/-! ## Boards -/

/-- The same answer for a board: both states have it, as it is, or neither has. -/
theorem findBoard_of_same (h : s.answer ((boardPlan boardId).take 1) = t.answer ((boardPlan boardId).take 1)) :
    InStep drawn s t (findBoard boardId) (findBoard boardId) fun x y writes => writes = [] ∧
      x = y ∧ x.id = boardId :=
  (found_of_same h "board").mono fun _ _ _ hx => ⟨hx.1, hx.2.1, board_of_found hx.2.2.1⟩

/-- Boards that can be read: a board is found in both states or in neither. -/
theorem findBoard_of_readable (hs : Board.model.Readable s "boards") (ht : Board.model.Readable t "boards")
    (hboth : s.Has "boards" boardId ↔ t.Has "boards" boardId) :
    InStep drawn s t (findBoard boardId) (findBoard boardId) fun x y writes => writes = [] ∧
      x.id = boardId ∧ y.id = boardId := by
  simp only [Tables.Has, ← meets_boardPlan] at hboth
  have hfirst := @InStep.first_of_readable _ Board.model (boardPlan boardId) s t drawn hs ht rfl rfl rfl hboth
  refine .bind (.query hfirst) fun x? y? hx => ?_
  rcases hx with ⟨rfl, rfl⟩ | ⟨x, y, rfl, rfl, hx, hy⟩
  · exact .fail _
  · exact .value ⟨rfl, board_of_found hx, board_of_found hy⟩

theorem boardFor_of_same (h : s.answer ((boardPlan boardId).take 1) = t.answer ((boardPlan boardId).take 1)) :
    InStep drawn s t (boardFor actor boardId) (boardFor actor boardId) fun x y writes => writes = [] ∧
      x = y ∧ x.id = boardId ∧ Permits actor boardId := by
  refine .bindSame (findBoard_of_same h) fun board hid => ?_
  refine .bindSame (.access _) fun _ hok => .value ⟨rfl, rfl, hid, ?_⟩
  exact permits_of_requireAccess hok (congrArg some hid)

/-- A board that a caller is refused: both runs fail, and fail alike. -/
theorem boardFor_of_refused (hrefused : ¬ Permits actor boardId) (hs : Board.model.Readable s "boards")
    (ht : Board.model.Readable t "boards")
    (hboth : s.Has "boards" boardId ↔ t.Has "boards" boardId)
    (seen : Board → Board → List Write → Prop) :
    InStep drawn s t (boardFor actor boardId) (boardFor actor boardId) seen := by
  refine .bind (findBoard_of_readable hs ht hboth) fun x y hx => ?_
  -- The two boards may differ, but not in what decides about access.
  rw [show y.resource = x.resource by rw [Board.resource, Board.resource, hx.1, hx.2]]
  refine .bindSame (.access _) fun _ hok => ?_
  exact absurd (permits_of_requireAccess hok (congrArg some hx.1)) hrefused

/-! ## Tasks -/

theorem findTask_of_same {board : Board} (hid : board.id = boardId)
    (h : s.answer ((taskOnBoardPlan boardId taskId).take 1) = t.answer ((taskOnBoardPlan boardId taskId).take 1)) :
    InStep drawn s t (findTask board taskId) (findTask board taskId) fun x y writes => writes = [] ∧
      x = y ∧ x.id = taskId ∧ x.boardId? = some boardId ∧ Task.model.Stored s t x := by
  subst hid
  refine (found_of_same h "task").mono fun x y writes hx => ?_
  obtain ⟨hwrites, hsame, hs, ht⟩ := hx
  obtain ⟨hid, hboard⟩ := task_of_found hs
  exact ⟨hwrites, hsame, hid, hboard, Model.stored_of_found rfl hs ht⟩

theorem findTask_of_readable {x y : Board} (hx : x.id = boardId) (hy : y.id = boardId)
    (hs : Task.model.Readable s "tasks") (ht : Task.model.Readable t "tasks")
    (hboth : s.Places "tasks" taskId (some boardId) ↔ t.Places "tasks" taskId (some boardId)) :
    InStep drawn s t (findTask x taskId) (findTask y taskId) fun x y writes => writes = [] ∧
      x.boardId? = some boardId ∧ y.boardId? = some boardId := by
  simp only [Tables.Places, ← meets_taskOnBoardPlan] at hboth
  have hfirst := @InStep.first_of_readable _ Task.model (taskOnBoardPlan boardId taskId) s t drawn hs ht rfl rfl rfl
    hboth
  unfold findTask
  rw [hx, hy]
  refine .bind (.query hfirst) fun x? y? hfound => ?_
  rcases hfound with ⟨rfl, rfl⟩ | ⟨x, y, rfl, rfl, hx, hy⟩
  · exact .fail _
  · exact .value ⟨rfl, (task_of_found hx).2, (task_of_found hy).2⟩

theorem taskFor_of_same (hboard : s.answer ((boardPlan boardId).take 1) = t.answer ((boardPlan boardId).take 1))
    (htask : s.answer ((taskOnBoardPlan boardId taskId).take 1) =
      t.answer ((taskOnBoardPlan boardId taskId).take 1)) :
    InStep drawn s t (taskFor actor boardId taskId) (taskFor actor boardId taskId) fun x y writes => writes = [] ∧
      x = y ∧ x.id = taskId ∧ x.boardId? = some boardId ∧ Task.model.Stored s t x ∧ Permits actor boardId := by
  refine .bindSame (findBoard_of_same hboard) fun board hid => ?_
  refine .bindSame (findTask_of_same hid htask) fun task hfound => ?_
  obtain ⟨hid, hplace, hstored⟩ := hfound
  refine .bindSame (.access _) fun _ hok => .value ⟨rfl, rfl, hid, hplace, hstored, ?_⟩
  exact permits_of_requireAccess hok hplace

/-- A task on a board that a caller is refused: both runs fail, and fail alike. -/
theorem taskFor_of_refused (hrefused : ¬ Permits actor boardId) (hs : Board.model.Readable s "boards")
    (ht : Board.model.Readable t "boards")
    (hboth : s.Has "boards" boardId ↔ t.Has "boards" boardId)
    (hs' : Task.model.Readable s "tasks") (ht' : Task.model.Readable t "tasks")
    (hboth' : s.Places "tasks" taskId (some boardId) ↔ t.Places "tasks" taskId (some boardId))
    (seen : Task → Task → List Write → Prop) :
    InStep drawn s t (taskFor actor boardId taskId) (taskFor actor boardId taskId) seen := by
  refine .bind (findBoard_of_readable hs ht hboth) fun board board' hid => ?_
  refine .bind (findTask_of_readable hid.1 hid.2 hs' ht' hboth') fun x y hx => ?_
  rw [show y.resource = x.resource by rw [Task.resource, Task.resource, hx.1, hx.2]]
  refine .bindSame (.access _) fun _ hok => ?_
  exact absurd (permits_of_requireAccess hok hx.1) hrefused

/-! ## Assignees -/

/-- An assignee is looked up by its identifier alone, and what decides is its identifier and its board. -/
theorem resolveAssignee_of_same (task : Task) (assignment : Assignment)
    (h : ∀ agentId, s.answer ((agentPlan agentId).take 1) = t.answer ((agentPlan agentId).take 1)) :
    InStep drawn s t (resolveAssignee task assignment) (resolveAssignee task assignment)
      fun x y writes => writes = [] ∧ x = y := by
  cases assignment with
  | keep => exact .value ⟨rfl, rfl⟩
  | clear => exact .value ⟨rfl, rfl⟩
  | assign agentId =>
    refine .bindSame (.query (.first_of_same (h (Text.trim agentId)))) fun agent? _ => ?_
    refine .bindSame (.checked _) fun agent _ => ?_
    split
    · exact .value ⟨rfl, rfl⟩
    · exact .fail _

/-- Where agents are placed alike, an assignee is found in both states or in neither, on one board. -/
theorem resolveAssignee_of_readable (task : Task) (assignment : Assignment)
    (hs : Agent.model.Readable s "agents") (ht : Agent.model.Readable t "agents")
    (hplaced : ∀ id board?, s.Places "agents" id board? ↔ t.Places "agents" id board?)
    (hunique : ((t.rows "agents").filterMap (·.text? "id")).Nodup) :
    InStep drawn s t (resolveAssignee task assignment) (resolveAssignee task assignment)
      fun x y writes => writes = [] ∧ x = y := by
  cases assignment with
  | keep => exact .value ⟨rfl, rfl⟩
  | clear => exact .value ⟨rfl, rfl⟩
  | assign agentId =>
    have hboth : s.Has "agents" (Text.trim agentId) ↔ t.Has "agents" (Text.trim agentId) := by
      simp only [Tables.has_iff_places, hplaced]
    simp only [Tables.Has, ← meets_agentPlan] at hboth
    have hfirst := @InStep.first_of_readable _ Agent.model (agentPlan (Text.trim agentId)) s t drawn hs ht rfl rfl rfl
      hboth
    refine .bind (.query hfirst) fun x? y? hfound => ?_
    rcases hfound with ⟨rfl, rfl⟩ | ⟨x, y, rfl, rfl, hx, hy⟩
    · exact .fail _
    · have hid : y.id = x.id := (agent_of_found hy).trans (agent_of_found hx).symm
      have hboard : y.boardId? = x.boardId? := boardId?_eq_of_found hplaced hunique hx hy
      show InStep drawn s t (if x.boardId? = task.boardId? then pure (some x.id) else .fail _)
        (if y.boardId? = task.boardId? then pure (some y.id) else .fail _) _
      rw [hid, hboard]
      split
      · exact .value ⟨rfl, rfl⟩
      · exact .fail _

end Endpoint

end Taskboard
