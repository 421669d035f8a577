/-
Who tasks are assigned to. A task stays assigned to an agent of its own board as long as no task falls to a
caller without a board (`run_assignedWithin`): an assignee that is named must be an agent of the board, and a
caller that is bound to a board may touch the tasks of that board only. A caller without a board may touch
every task, and one that goes into progress unassigned falls to it (`assigned_to_unbound_caller`).
-/
import Taskboard.Proofs.Endpoint.Runs

namespace Taskboard.Endpoint

open Taskboard.Flow Tables

variable {drawn : Nat → List UInt8 → Prop} {actor : Agent} {before after start now s t : Tables}

/-! ## Assignments -/

/-- A task that is assigned is assigned to an agent of its board. -/
def AssignedWithin (tables : Tables) (task : Record) : Prop :=
  ∀ assignee, task.value? "assigned_agent_id" = some assignee →
    ∃ agent ∈ tables.rows "agents", agent.value? "id" = some assignee ∧
      agent.value? "board_id" = task.value? "board_id"

/-- Every task is. -/
def TasksAssignedWithin (tables : Tables) : Prop :=
  ∀ task ∈ tables.rows "tasks", AssignedWithin tables task

theorem AssignedWithin.mono {task : Record} (h : AssignedWithin s task) (hextends : Extends s t) :
    AssignedWithin t task := by
  intro assignee hassignee
  obtain ⟨agent, hagent, hid, hboard⟩ := h assignee hassignee
  obtain ⟨agent', hagent', hkeeps⟩ := hextends .agent agent hagent
  refine ⟨agent', hagent', ?_, ?_⟩
  · rw [hkeeps "id" (by decide), hid]
  · rw [hkeeps "board_id" (by decide), hboard]

/-- An update that leaves a task in progress with nobody assigned, so that the task falls to the caller. -/
def FallsToCaller (tables : Tables) : Request → Prop
  | .updateTask boardId taskId update _ => ∃ task assignee?, TaskOn tables boardId taskId task ∧
      resolveStatus task update.status? = .ok .inProgress ∧ AssigneeGrounds tables task update.assignment assignee? ∧
      assignee? = none
  | _ => False

/-- Tasks fall only to callers that are bound to a board. -/
def FallsToBound (tables : Tables) (actor : Agent) (request : Request) : Prop :=
  FallsToCaller tables request → ∃ board, actor.boundBoard? = some board

/-! ## One request -/

/-- An agent that is stored has a row with its identifier and its board. -/
theorem agentRow_of_storedIn {agent : Agent} (h : Agent.model.StoredIn s agent) : ∃ row ∈ s.rows "agents",
    row.value? "id" = some (.string agent.id) ∧ row.value? "board_id" = agent.boardId?.map .string := by
  obtain ⟨row, hrow, hdecode⟩ := h
  have hcolumns := agent.value?_of_ofRecord? hdecode
  refine ⟨row, hrow, hcolumns "id" (by decide), ?_⟩
  exact (hcolumns "board_id" (by decide)).trans (Record.value?_of_lookup rfl)

theorem assignedWithin_record {task : Task} (h : ∀ id, task.assignee? = some id →
    ∃ row ∈ s.rows "agents", row.value? "id" = some (.string id) ∧ row.value? "board_id" = task.boardId?.map .string) :
    AssignedWithin s task.record := by
  have hassignee : task.record.value? "assigned_agent_id" = task.assignee?.map .string := Record.value?_of_lookup rfl
  have hboard : task.record.value? "board_id" = task.boardId?.map .string := Record.value?_of_lookup rfl
  intro assignee hassigned
  rw [hassignee, Option.map_eq_some_iff] at hassigned
  obtain ⟨id, hid, rfl⟩ := hassigned
  rw [hboard]
  exact h id hid

/-- The assignee that a stored task has is an agent of its board, when that holds of all tasks. -/
theorem assigneeRow_of_taskOn (hs : TasksAssignedWithin s) {boardId taskId : String} {task : Task}
    (htask : TaskOn s boardId taskId task) {id : String} (hid : task.assignee? = some id) :
    ∃ row ∈ s.rows "agents", row.value? "id" = some (.string id) ∧ row.value? "board_id" = task.boardId?.map .string := by
  obtain ⟨⟨row, hrow, hdecode⟩, -, -⟩ := htask
  have hcolumns := task.value?_of_ofRecord? hdecode
  have hassignee : row.value? "assigned_agent_id" = some (.string id) := by
    rw [hcolumns _ (by decide), Record.value?_of_lookup rfl, hid]
    rfl
  obtain ⟨agent, hagent, hsame, hboard⟩ := hs row hrow _ hassignee
  exact ⟨agent, hagent, hsame, hboard.trans ((hcolumns "board_id" (by decide)).trans (Record.value?_of_lookup rfl))⟩

/-- An update leaves its task assigned within its board. -/
theorem assignedWithin_of_update (hs : TasksAssignedWithin s) (hactor : Agent.model.StoredIn s actor)
    {boardId taskId now : String} {update : TaskUpdate} (hpermits : Permits actor boardId) {task : Task}
    (htask : TaskOn s boardId taskId task) {status : TaskStatus} (hstatus : resolveStatus task update.status? = .ok status)
    {assignee? : Option String} (hassignee : AssigneeGrounds s task update.assignment assignee?)
    (hfalls : FallsToBound s actor (.updateTask boardId taskId update now)) :
    AssignedWithin s (Task.record { task with
      status := status, assignee? := assigneeInProgress actor status assignee?, updatedAt := now }) := by
  refine assignedWithin_record fun id hid => ?_
  show ∃ row ∈ s.rows "agents", _ ∧ row.value? "board_id" = task.boardId?.map .string
  change assigneeInProgress actor status assignee? = some id at hid
  unfold assigneeInProgress at hid
  split at hid
  · -- The task falls to the caller, who is bound to a board, and so to the board of the task.
    rename_i hprogress
    obtain ⟨rfl, hnone⟩ := hprogress
    cases hid
    obtain ⟨board, hbound⟩ := hfalls ⟨task, assignee?, htask, hstatus, hassignee, Option.isNone_iff_eq_none.1 hnone⟩
    obtain rfl := eq_of_permits hbound hpermits
    rw [htask.2.2, ← boardId?_of_bound hbound]
    exact agentRow_of_storedIn hactor
  · subst hid
    cases hassign : update.assignment with
    | keep =>
      rw [hassign] at hassignee
      exact assigneeRow_of_taskOn hs htask hassignee.symm
    | clear =>
      rw [hassign] at hassignee
      cases hassignee
    | assign agentId =>
      rw [hassign] at hassignee
      obtain ⟨agent, hid, -, hboard, hstored⟩ := hassignee
      cases hid
      rw [← hboard]
      exact agentRow_of_storedIn hstored

/-- A write to another table is none to a task. -/
theorem no_task_of_single {w : Write} (table : String) (hne : "tasks" ≠ table) (htable : w.schema.table = table) :
    ∀ v ∈ [w], "tasks" = v.schema.table → AssignedWithin s v.row := by
  intro v hv htask
  obtain rfl := List.mem_singleton.1 hv
  exact absurd (htask.trans htable) hne

/-- What a request writes to a task leaves it assigned within its board. -/
theorem assignedWithin_of_grounds (hs : TasksAssignedWithin s) (hactor : Agent.model.StoredIn s actor)
    {request : Request} (hfalls : FallsToBound s actor request) {reply : request.Reply} {writes : List Write}
    (h : request.Grounds drawn actor s reply writes) :
    ∀ w ∈ writes, "tasks" = w.schema.table → AssignedWithin s w.row := by
  cases request with
  | updateTask boardId taskId update now =>
    obtain ⟨hpermits, task, status, assignee?, htask, hstatus, hassignee, rfl, rest, hrest, rfl⟩ := h
    rw [List.forall_mem_cons]
    constructor
    · exact fun _ => assignedWithin_of_update hs hactor hpermits htask hstatus hassignee hfalls
    · generalize update.comment?.bind Text.nonBlank? = message? at hrest
      rcases message? with _ | message
      · obtain rfl := hrest
        simp
      · obtain ⟨id, -, rfl⟩ := hrest
        exact no_task_of_single "task_comments" (by decide) rfl
  | createTaskComment boardId taskId payload now =>
    obtain ⟨-, task, message, id, -, -, -, rfl, rfl⟩ := h
    exact no_task_of_single "task_comments" (by decide) rfl
  | createMemory boardId payload now =>
    obtain ⟨-, entry, -, -, -, -, -, rfl⟩ := h
    exact no_task_of_single "board_memory" (by decide) rfl
  | createApproval boardId payload now =>
    obtain ⟨-, approval, -, -, -, -, -, -, -, -, rfl⟩ := h
    exact no_task_of_single "approvals" (by decide) rfl
  | updateOnboarding boardId payload now =>
    obtain ⟨-, session, answer, messages, -, -, -, -, -, -, rfl⟩ := h
    exact no_task_of_single "board_onboarding_sessions" (by decide) rfl
  | createAgent payload now =>
    obtain ⟨boardId, name, token, id, -, -, -, -, -, -, rfl⟩ := h
    exact no_task_of_single "agents" (by decide) rfl
  | heartbeat payload now =>
    obtain ⟨-, -, rfl⟩ := h
    exact no_task_of_single "agents" (by decide) rfl
  | _ =>
    obtain rfl : writes = [] := h
    simp

/-! ## Steps and runs -/

theorem TasksAssignedWithin.congr (h : TasksAssignedWithin before) (hrows : after.rows = before.rows) :
    TasksAssignedWithin after :=
  fun task htask => (h task (hrows ▸ htask)).mono ((Extends.refl before).congr hrows)

/-- A step in which no task falls to a caller without a board leaves every task assigned within its board. -/
theorem Handled.assignedWithin (hunique : before.UniqueIds) (hbefore : TasksAssignedWithin before)
    (h : Handled FallsToBound before after) : after.UniqueIds ∧ TasksAssignedWithin after := by
  rcases h.cases with hrows | ⟨drawn, actor, request, reply, writes, hnew, hactor, hfalls, hgrounds, hrows⟩
  · exact ⟨hunique.congr hrows, hbefore.congr hrows⟩
  · obtain ⟨hextends, hunique'⟩ := (grows_of_grounds hnew hactor hgrounds).intact hunique
    have hafter : TasksAssignedWithin (writes.foldl carryOut before) := by
      intro task htask
      rcases mem_of_mem_carryOuts htask with hstored | ⟨w, hw, htable, rfl⟩
      · exact (hbefore task hstored).mono hextends
      · exact (assignedWithin_of_grounds hbefore hactor hfalls hgrounds w hw htable).mono hextends
    exact ⟨hunique'.congr hrows, hafter.congr hrows⟩

/-- As long as tasks fall only to callers that are bound to a board, every task that is assigned is assigned to
an agent of its board. -/
theorem run_assignedWithin (hunique : start.UniqueIds) (hstart : TasksAssignedWithin start)
    (hrun : Relation.ReflTransGen (Handled FallsToBound) start now) : TasksAssignedWithin now := by
  have hboth : now.UniqueIds ∧ TasksAssignedWithin now := by
    induction hrun with
    | refl => exact ⟨hunique, hstart⟩
    | tail _ hstep ih => exact hstep.assignedWithin ih.1 ih.2
  exact hboth.2

/-! ## A task that waits -/

/-- A task that nobody is assigned to. -/
def waiting : Task :=
  ⟨"t1", some "b1", "Sweep", none, .inbox, "medium", none, none, "2024-01-01", "2024-01-01"⟩

/-- A board with one task that waits, and one agent. -/
def yard (agent : Agent) : Tables where
  rows
    | "boards" => [Board.record ⟨"b1", "Home", "home", none, "", ""⟩]
    | "agents" => [agent.record]
    | "tasks" => [waiting.record]
    | _ => []
  calls := []
  fault? := none

/-- An agent without a board. -/
def rover : Agent :=
  { lead with id := "a2", boardId? := none, name := "Bob", isBoardLead := false }

/-- The request to begin with the task. -/
def begin : Request :=
  .updateTask "b1" "t1" ⟨some "in_progress", .keep, none⟩ "2024-01-02"

theorem resolves_yard {agent : Agent} (htoken : agent.tokenHash? = some (Token.hash "secret")) :
    Resolves (yard agent) agent := by
  have hhash : agent.record.text? "agent_token_hash" = some (Token.hash "secret") :=
    (Record.text?_of_lookup rfl).trans htoken
  have honly : ((yard agent).rows "agents").filter (hasToken "secret") = [agent.record] := by
    refine List.filter_eq_self.2 fun row hrow => ?_
    obtain rfl : row = agent.record := List.mem_singleton.1 hrow
    exact beq_iff_eq.2 hhash
  exact resolves_of_only honly

theorem uniqueIds_yard (agent : Agent) : (yard agent).UniqueIds := by
  intro entity
  cases entity with
  | board => exact List.nodup_singleton "b1"
  | task => exact List.nodup_singleton "t1"
  | agent => exact List.nodup_singleton agent.id
  | comment | approval | memory | session => exact List.nodup_nil

theorem assignedWithin_yard (agent : Agent) : TasksAssignedWithin (yard agent) := by
  intro task htask
  obtain rfl : task = waiting.record := List.mem_singleton.1 htask
  exact fun assignee hassignee => by cases hassignee

theorem served_yard {allowed : Tables → Agent → Request → Prop} {agent : Agent}
    (htoken : agent.tokenHash? = some (Token.hash "secret")) (hallowed : allowed (yard agent) agent begin)
    (hdraws : (begin.serve agent).draws store (yard agent) Entropy.counting = []) :
    Served allowed (yard agent) (begin.run agent (yard agent) Entropy.counting).2.1 := by
  have hids : begin.identifiers agent (yard agent) Entropy.counting = [] := by
    rw [Request.identifiers, Flow.identifiers, hdraws]
    rfl
  have htokens : begin.tokens agent (yard agent) Entropy.counting = [] := by
    rw [Request.tokens, Flow.tokens, hdraws]
    rfl
  refine .serve (resolves_yard htoken) _ hallowed none _ (fun id hid => ?_) fun token htoken => ?_
  · exact absurd (hids ▸ hid) List.not_mem_nil
  · exact absurd (htokens ▸ htoken) List.not_mem_nil

/-- The task that waits falls to the lead of its board. -/
theorem run_assignedWithin_yard : ∃ now, (yard lead).UniqueIds ∧ TasksAssignedWithin (yard lead) ∧
    Relation.ReflTransGen (Handled FallsToBound) (yard lead) now ∧ TasksAssignedWithin now ∧
    (now.rows "tasks").map (·.text? "assigned_agent_id") = [some "a1"] := by
  have hfalls : FallsToBound (yard lead) lead begin := fun _ => ⟨"b1", rfl⟩
  have hrun := Relation.ReflTransGen.single (served_yard rfl hfalls (by decide +kernel)).handled
  have hunique := uniqueIds_yard lead
  have hstart := assignedWithin_yard lead
  exact ⟨_, hunique, hstart, hrun, run_assignedWithin hunique hstart hrun, by decide +kernel⟩

/-- An agent without a board begins with the task, which falls to it and so to an agent of no board. -/
theorem assigned_to_unbound_caller : ∃ start now, start.UniqueIds ∧ TasksAssignedWithin start ∧
    Relation.ReflTransGen (Served fun _ _ _ => True) start now ∧ ¬ TasksAssignedWithin now := by
  have hserved : Served (fun _ _ _ => True) (yard rover) (begin.run rover (yard rover) Entropy.counting).2.1 :=
    served_yard rfl trivial (by decide +kernel)
  refine ⟨_, _, uniqueIds_yard rover, assignedWithin_yard rover, .single hserved, fun hnow => ?_⟩
  have htasks : ((begin.run rover (yard rover) Entropy.counting).2.1.rows "tasks").map
      (fun task => (task.text? "assigned_agent_id", task.text? "board_id")) = [(some "a2", some "b1")] := by
    decide +kernel
  have hagents : ((begin.run rover (yard rover) Entropy.counting).2.1.rows "agents").map (·.text? "board_id") =
      [none] := by
    decide +kernel
  obtain ⟨task, heq, hcolumns⟩ := List.map_eq_singleton_iff.1 htasks
  obtain ⟨hassignee, hboard⟩ := Prod.mk.inj hcolumns
  obtain ⟨agent, hagent, -, hsame⟩ := hnow task (heq ▸ List.mem_singleton_self task) _
    (Record.value?_eq_string_iff.2 hassignee)
  have hmem : agent.text? "board_id" ∈ [none] := hagents ▸ List.mem_map_of_mem hagent
  rw [List.mem_singleton, Record.text?_congr hsame, hboard] at hmem
  cases hmem

end Taskboard.Endpoint
