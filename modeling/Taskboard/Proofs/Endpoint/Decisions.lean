/-
What a change of a task and an answer to the onboarding decide on in their first turn. Up to there they only
read, so the row that they will write is made of what they have found (`updateTask_decides`,
`updateOnboarding_decides`), whatever other calls do before the turn that writes it.
-/
import Taskboard.Proofs.Flow.FirstTurn
import Taskboard.Proofs.Endpoint.Grounds

namespace Taskboard.Endpoint

open Taskboard.Flow Tables

variable {actor : Agent} {s : Tables}

/-! ## Lookups only read -/

theorem findBoard_readsOnly (boardId : String) : (findBoard boardId).ReadsOnly :=
  .bind ((Board.model.first_readsOnly _).mapError _) fun _ => .done _

theorem boardFor_readsOnly (actor : Agent) (boardId : String) : (boardFor actor boardId).ReadsOnly :=
  .bind (findBoard_readsOnly boardId) fun _ => .bind (.done _) fun _ => .done _

theorem findTask_readsOnly (board : Board) (taskId : String) : (findTask board taskId).ReadsOnly :=
  .bind ((Task.model.first_readsOnly _).mapError _) fun _ => .done _

theorem taskFor_readsOnly (actor : Agent) (boardId taskId : String) : (taskFor actor boardId taskId).ReadsOnly :=
  .bind (findBoard_readsOnly boardId) fun board => .bind (findTask_readsOnly board taskId) fun _ =>
    .bind (.done _) fun _ => .done _

theorem resolveAssignee_readsOnly (task : Task) (assignment : Assignment) :
    (resolveAssignee task assignment).ReadsOnly := by
  cases assignment with
  | keep | clear => exact .done _
  | assign agentId =>
    refine .bind ((Agent.model.first_readsOnly _).mapError _) fun agent? => .bind (.done _) fun agent => ?_
    split <;> exact .done _

theorem latestActiveSession_readsOnly (board : Board) : (latestActiveSession board).ReadsOnly :=
  .bind (.done _) fun _ => .bind ((OnboardingSession.model.first_readsOnly _).mapError _) fun _ => .done _

/-! ## Changes of a task -/

/-- What is told when a row cannot be written. -/
def unwritten (e : StorageError) : Failure :=
  .query (.storage e)

/-- A change of a task without a comment decides to write the task with the status and the assignee that the
change asks for, and all else as it found it. -/
theorem updateTask_decides (boardId taskId : String) {update : TaskUpdate} (now : String)
    (hcomment : update.comment?.bind Text.nonBlank? = none) :
    Decides s (updateTask actor boardId taskId update now) fun rest => ∃ before status assignee?,
      TaskOn s boardId taskId before ∧ resolveStatus before update.status? = .ok status ∧
      AssigneeGrounds s before update.assignment assignee? ∧
      let changed := { before with
        status := status, assignee? := assigneeInProgress actor status assignee?, updatedAt := now }
      rest = commit ⟨.update, Task.schema, changed.record⟩ unwritten changed := by
  refine .bind (taskFor_readsOnly actor boardId taskId) (taskFor_grounds boardId taskId) fun task htask => ?_
  unfold applyUpdate
  dsimp only
  rw [hcomment]
  split
  · exact .fail _
  · refine .bind (.done _) (.checked _) fun status hstatus => ?_
    refine .bind (resolveAssignee_readsOnly task _) (resolveAssignee_grounds task _) fun assignee? hassignee => ?_
    have hcommit := fun changed : Task => commit_eq ⟨.update, Task.schema, changed.record⟩ unwritten changed
    refine (hcommit _).symm ▸ .commit ⟨task, status, assignee?, htask.2, hstatus, hassignee, rfl⟩

/-! ## Answers to the onboarding -/

/-- An active session of a board that is stored. -/
def ActiveSession (s : Tables) (boardId : String) (session : OnboardingSession) : Prop :=
  ∃ row ∈ s.rows "board_onboarding_sessions", row.text? "board_id" = some boardId ∧
    row.text? "status" = some OnboardingStatus.active.word ∧
    OnboardingSession.model.decode? (.object row) = some session

theorem latestActiveSession_found (board : Board) : InStep (fun _ _ => True) s s (latestActiveSession board)
    (latestActiveSession board) fun x y writes => writes = [] ∧ x = y ∧ ActiveSession s board.id x := by
  refine .bindSame (.resolved _) fun plan hplan => ?_
  cases hplan
  refine (found_of_same rfl _).mono fun x y writes hx => ⟨hx.1, hx.2.1, ?_⟩
  obtain ⟨row, hrow, hmeets, hdecode⟩ := hx.2.2.1
  have hboard := Predicate.holds_equals_string.1 (hmeets _ (List.mem_cons_self ..))
  have hstatus := Predicate.holds_equals_string.1 (hmeets _ (List.mem_cons_of_mem _ (List.mem_cons_self ..)))
  exact ⟨row, hrow, hboard, hstatus, hdecode⟩

/-- An answer decides to write the active session that it found, with the answer behind the messages of the
session, and completed if the answer is. -/
theorem updateOnboarding_decides (boardId : String) (payload : Json) (now : String) :
    Decides s (updateOnboarding actor boardId payload now) fun rest => ∃ before answer messages,
      payload = .object answer ∧ ActiveSession s boardId before ∧
      OnboardingSession.messagesOf? before.messages = some messages ∧
      let changed := OnboardingSession.answered before messages actor answer now
      rest = commit ⟨.update, OnboardingSession.schema, changed.record⟩ unwritten changed.view := by
  refine .bind (boardFor_readsOnly actor boardId) (boardFor_grounds boardId) fun board hboard => ?_
  obtain ⟨rfl, -, -⟩ := hboard
  cases payload with
  | object answer =>
    refine .bind (latestActiveSession_readsOnly board) (latestActiveSession_found board) fun session hsession => ?_
    dsimp only
    split
    · exact .fail _
    · rename_i messages hmessages
      have hcommit := fun changed : OnboardingSession =>
        commit_eq ⟨.update, OnboardingSession.schema, changed.record⟩ unwritten changed.view
      exact (hcommit _).symm ▸ .commit ⟨session, answer, messages, rfl, hsession, hmessages, rfl⟩
  | _ => exact .fail _

end Taskboard.Endpoint
