/-
Changes of a task. A change is refused before the store is asked, and only when there is nothing to change or a
status that is none; one that names an agent who is missing or elsewhere ends with the lookup; and any other leaves
the task just as it asks, as long as there are random bytes for the comment that comes with it (`update_computed`).
-/
import Taskboard.Proofs.Endpoint.Assignment
import Taskboard.Proofs.Endpoint.Refusal
import Taskboard.Proofs.Storage.Batches
import Taskboard.Proofs.Storage.Changes
import Taskboard.Proofs.Text.Trim

namespace Taskboard

open Taskboard.Flow Tables

/-! ## What is asked for -/

/-- The assignee that is asked for in the place of the one there is. -/
def Assignment.asked? (assignee? : Option String) : Assignment → Option String
  | .keep => assignee?
  | .clear => none
  | .assign agentId => some (Text.trim agentId)

namespace TaskUpdate

/-- The change cannot be made: there is nothing to change, or the status is none. -/
def Refused (update : TaskUpdate) : Prop :=
  (update.status? = none ∧ update.assignment = .keep ∧ update.comment?.bind Text.nonBlank? = none) ∨
    ∃ text ∈ update.status?, ∀ status : TaskStatus, Text.lower (Text.trim text) ≠ status.word

/-- What a change makes of a task: the status is the one it names or stays, the assignee is the one it asks for, or
else the caller if the task is in progress, the time is that of the change, and all else stays. -/
structure Makes (update : TaskUpdate) (actor : Agent) (now : String) (before after : Task) : Prop where
  kept : update.status? = none → after.status = before.status
  named : ∀ text ∈ update.status?, after.status.word = Text.lower (Text.trim text)
  assignee : after.assignee? = (update.assignment.asked? before.assignee?).or
    (if after.status = .inProgress then some actor.id else none)
  others : after = { before with status := after.status, assignee? := after.assignee?, updatedAt := now }

end TaskUpdate

namespace Endpoint

variable {actor : Agent} {task : Task} {update : TaskUpdate} {tables : Tables}

/-! ## Checks -/

/-- A status is left, or complained about. -/
theorem resolveStatus_cases (task : Task) (text? : Option String) :
    ((∃ text ∈ text?, ∀ status : TaskStatus, Text.lower (Text.trim text) ≠ status.word) ∧
      ∃ complaint, resolveStatus task text? = .error (.badRequest complaint)) ∨
    ((¬ ∃ text ∈ text?, ∀ status : TaskStatus, Text.lower (Text.trim text) ≠ status.word) ∧
      ∃ status, resolveStatus task text? = .ok status ∧ (text? = none → status = task.status) ∧
        ∀ text ∈ text?, status.word = Text.lower (Text.trim text)) := by
  unfold resolveStatus
  rcases text? with _ | text
  · exact .inr ⟨fun ⟨_, h, _⟩ => (nomatch h), _, rfl, fun _ => rfl, nofun⟩
  · dsimp only
    rcases h : TaskStatus.parse? text with _ | status
    · refine .inl ⟨⟨text, rfl, fun status hstatus => ?_⟩, _, rfl⟩
      rw [TaskStatus.parse?, TaskStatus.ofWord?_eq_some_iff.2 hstatus] at h
      cases h
    · have hword := TaskStatus.ofWord?_eq_some_iff.1 h
      refine .inr ⟨fun ⟨_, htext, hunknown⟩ => ?_, status, rfl, nofun, fun _ htext => ?_⟩ <;> cases htext
      · exact hunknown status hword
      · exact hword.symm

/-- What is left of a change once its task, with a comment or without, is only to be written. -/
def commitTask (actor : Agent) (changed : Task) (now : String) : Option String → Serving Task
  | some message => do
    let comment ← freshComment actor changed message now
    Flow.sendAll [Write.ofJson .update Task.schema (Task.model.encode changed),
      Write.ofJson .insert TaskComment.schema (TaskComment.model.encode comment)]
    return changed
  | none => do
    Task.model.update changed
    return changed

/-- A change is refused at once, or goes on with its assignee and then with what it makes of the task. -/
theorem applyUpdate_cases (actor : Agent) (task : Task) (update : TaskUpdate) (now : String) :
    (update.Refused ∧ ∃ complaint, applyUpdate actor task update now = Flow.fail (.badRequest complaint)) ∨
    (¬ update.Refused ∧ ∃ status : TaskStatus, (update.status? = none → status = task.status) ∧
      (∀ text ∈ update.status?, status.word = Text.lower (Text.trim text)) ∧
      applyUpdate actor task update now = do
        let assignee? ← resolveAssignee task update.assignment
        commitTask actor { task with
          status := status, assignee? := assigneeInProgress actor status assignee?, updatedAt := now } now
          (update.comment?.bind Text.nonBlank?)) := by
  unfold applyUpdate
  dsimp only
  split
  · rename_i hnone
    exact .inl ⟨.inl hnone, _, rfl⟩
  · rename_i hsome
    rcases resolveStatus_cases task update.status? with
      ⟨hunknown, complaint, h⟩ | ⟨hknown, status, h, hkept, hnamed⟩ <;> rw [h]
    · exact .inl ⟨.inr hunknown, complaint, rfl⟩
    · refine .inr ⟨not_or.2 ⟨hsome, hknown⟩, status, hkept, hnamed, ?_⟩
      cases update.comment?.bind Text.nonBlank? <;> rfl

/-! ## Looking up the assignee -/

/-- The round trip that looks up an agent. -/
def agentTrip : Call :=
  ⟨.select, "agents", "SELECT * FROM agents WHERE id = ?1 LIMIT ?2"⟩

theorem trip_agentPlan (agentId : String) : ((agentPlan agentId).take 1).trip = agentTrip := by
  show ((agentPlan "").take 1).trip = agentTrip
  decide +kernel

/-- Of one identifier there is one place. -/
theorem board?_eq_of_places (hunique : tables.UniqueIds) {id : String} {board? other? : Option String}
    (h : tables.Places "agents" id board?) (hother : tables.Places "agents" id other?) : other? = board? := by
  obtain ⟨row, hrow, hid, hboard⟩ := h
  obtain ⟨row', hrow', hid', hboard'⟩ := hother
  obtain rfl := eq_of_nodup_filterMap (hunique .agent) hrow hrow' hid hid'
  exact hboard'.symm.trans hboard

/-- An assignee is looked up if the change names one, and must be an agent of the board of the task. -/
theorem run_resolveAssignee (hreadable : Agent.model.Readable tables "agents")
    (hquiet : tables.fault? = none) (task : Task) (assignment : Assignment) (source : Entropy) :
    (∃ trips, (resolveAssignee task assignment).run store tables source =
        (.ok (assignment.asked? task.assignee?), tables.noting trips, source) ∧
      ∀ agentId, assignment = .assign agentId → tables.Places "agents" (Text.trim agentId) task.boardId?) ∨
    ∃ agentId, assignment = .assign agentId ∧
      ((¬ tables.Has "agents" (Text.trim agentId) ∧ (resolveAssignee task assignment).run store tables source =
        (.error (.notFound "agent"), tables.noting [agentTrip], source)) ∨
      ∃ board?, tables.Places "agents" (Text.trim agentId) board? ∧ board? ≠ task.boardId? ∧
        (resolveAssignee task assignment).run store tables source =
          (.error (.badRequest .assigneeElsewhere), tables.noting [agentTrip], source)) := by
  cases assignment with
  | keep | clear => exact .inl ⟨[], by rw [noting_nil]; rfl, nofun⟩
  | assign agentId =>
    obtain ⟨agent?, hfound, hrun⟩ := @Model.run_first_of_readable _ Agent.model
      (agentPlan (Text.trim agentId)) tables hquiet hreadable rfl rfl rfl source
    rw [trip_agentPlan] at hrun
    have hresolve : (resolveAssignee task (.assign agentId)).run store tables source =
        (found "agent" agent? >>= fun agent =>
          if agent.boardId? = task.boardId? then .ok (some agent.id) else .error (.badRequest .assigneeElsewhere),
          tables.noting [agentTrip], source) := by
      show (((Agent.model.first (agentPlan (Text.trim agentId))).mapError Failure.query >>= fun agent? =>
        liftM (found "agent" agent?) >>= fun agent => if agent.boardId? = task.boardId? then pure (some agent.id)
          else Flow.fail (.badRequest .assigneeElsewhere) : Serving (Option String))).run store _ _ = _
      rw [run_bind, run_mapError, hrun]
      cases agent? with
      | none => rfl
      | some agent =>
        show (if agent.boardId? = task.boardId? then pure (some agent.id)
          else Flow.fail (.badRequest .assigneeElsewhere) : Serving (Option String)).run store _ _ =
          (if agent.boardId? = task.boardId? then .ok (some agent.id)
            else .error (.badRequest .assigneeElsewhere), _, _)
        split <;> rfl
    rw [hresolve]
    rcases agent? with _ | agent
    · exact .inr ⟨agentId, rfl, .inl ⟨fun ⟨row, hrow, hid⟩ => hfound row hrow (meets_agentPlan.2 hid), rfl⟩⟩
    · have hplace : tables.Places "agents" (Text.trim agentId) agent.boardId? := by
        obtain ⟨row, hrow, hmeets, hdecode⟩ := hfound
        exact ⟨row, hrow, meets_agentPlan.1 hmeets, (Agent.text?_of_ofRecord? hdecode).2⟩
      by_cases hboard : agent.boardId? = task.boardId?
      · refine .inl ⟨[agentTrip], ?_, fun _ h => ?_⟩
        · rw [Assignment.asked?, ← agent_of_found hfound]
          exact congrArg (·, _) (if_pos hboard)
        · cases h
          exact hboard ▸ hplace
      · exact .inr ⟨agentId, rfl, .inr ⟨_, hplace, hboard, congrArg (·, _) (if_neg hboard)⟩⟩

/-! ## Writing the task -/

/-- Tables with a task in the place of the one with its identifier, and with comments more. -/
structure Rewritten (changed : Task) (comments : List TaskComment) (before after : Tables) : Prop where
  tasks : after.rows "tasks" = (before.rows "tasks").map (Record.replacedBy changed.id changed.record)
  comments : after.rows "task_comments" = before.rows "task_comments" ++ comments.map TaskComment.record
  others : ∀ table, table ≠ "tasks" → table ≠ "task_comments" → after.rows table = before.rows table

/-- The writes of a task and of new comments. -/
def changeSavings (changed : Task) (comments : List TaskComment) : List Saving :=
  ⟨.update, .task, changed⟩ :: comments.map (⟨.insert, .comment, ·⟩)

theorem rows_commented (comments : List TaskComment) (s : Tables) (table : String) :
    (((comments.map fun comment : TaskComment => (⟨.insert, .comment, comment⟩ : Saving)).map Saving.write).foldl
      carryOut s).rows table =
      s.rows table ++ if table = "task_comments" then comments.map TaskComment.record else [] := by
  induction comments generalizing s with
  | nil => simp
  | cons comment rest ih =>
    rw [List.map_cons, List.map_cons, List.foldl_cons, ih]
    by_cases htable : table = "task_comments"
    · subst htable
      have hrow : (s.carryOut (Saving.write ⟨.insert, .comment, comment⟩)).rows "task_comments" =
          s.rows "task_comments" ++ [comment.record] :=
        @rows_carryOut_insert s TaskComment.schema comment.record
      rw [hrow]
      simp
    · rw [@rows_carryOut_of_ne s _ (Saving.write ⟨.insert, .comment, comment⟩) htable, if_neg htable, if_neg htable]

/-- What the writes of a task and of new comments make of tables. -/
theorem rewritten_of_rows (hunique : tables.UniqueIds) {changed : Task} {comments : List TaskComment} {after : Tables}
    (hrows : after.rows = (((changeSavings changed comments).map Saving.write).foldl carryOut tables).rows) :
    Rewritten changed comments tables after := by
  have hall : ∀ table, after.rows table = (tables.carryOut (Saving.write ⟨.update, .task, changed⟩)).rows table ++
      if table = "task_comments" then comments.map TaskComment.record else [] := fun table =>
    (congrFun hrows table).trans (rows_commented comments _ table)
  refine ⟨?_, ?_, fun table htask hcomment => ?_⟩
  · rw [hall, if_neg (by decide), List.append_nil]
    exact @rows_updated tables .task changed.id changed.record hunique rfl
  · rw [hall, if_pos rfl, rows_carryOut_of_ne (show "task_comments" ≠ "tasks" by decide)]
  · rw [hall, if_neg hcomment, List.append_nil, rows_carryOut_of_ne htask]

/-- A new comment takes its identifier from the random source. -/
theorem run_freshComment (actor : Agent) (task : Task) (message now : String) (source : Entropy) :
    ((source.draw 16).1 = none ∧ (freshComment actor task message now).run store tables source =
      (.error (.internal .noRandomBytes), tables, (source.draw 16).2)) ∨
    ∃ id, (freshComment actor task message now).run store tables source =
      (.ok ⟨id, task.id, task.boardId?, some actor.id, message, now⟩, tables, (source.draw 16).2) := by
  show _ ∧ (freshId >>= fun id => pure (⟨id, task.id, task.boardId?, some actor.id, message, now⟩ : TaskComment) :
    Serving TaskComment).run store tables source = _ ∨ ∃ _, (freshId >>= fun id =>
      pure (⟨id, task.id, task.boardId?, some actor.id, message, now⟩ : TaskComment) :
        Serving TaskComment).run store tables source = _
  rw [run_return]
  simp only [freshId, freshHex, Flow.run]
  rcases source.draw 16 with ⟨_ | bytes, rest⟩
  · exact .inl ⟨rfl, rfl⟩
  · exact .inr ⟨Text.hex bytes, rfl⟩

/-- A task is written, with its comment or without, unless there are no random bytes for the comment. -/
theorem run_commitTask (hunique : tables.UniqueIds) (hquiet : tables.fault? = none) (actor : Agent) (changed : Task)
    (now : String) (comment? : Option String) (source : Entropy) :
    (comment?.isSome ∧ (source.draw 16).1 = none ∧ (commitTask actor changed now comment?).run store tables source =
      (.error (.internal .noRandomBytes), tables, (source.draw 16).2)) ∨
    ∃ id after rest, (commitTask actor changed now comment?).run store tables source = (.ok changed, after, rest) ∧
      Rewritten changed (comment?.map fun message =>
        ⟨id, changed.id, changed.boardId?, some actor.id, message, now⟩).toList tables after := by
  cases comment? with
  | none =>
    obtain ⟨after, hbatch, hrows⟩ := batch_of_quiet hquiet (changeSavings changed [])
    have hsend : (Task.model.send .update changed).run store tables source = (.ok (), after, source) := by
      refine (run_send ⟨.update, .task, changed⟩ tables source).trans ?_
      rw [show tables.batch [_] = _ from hbatch]
    refine .inr ⟨"", after, source, ?_, rewritten_of_rows hunique hrows⟩
    show ((Task.model.send .update changed).mapError (fun e => Failure.query (.storage e)) >>= fun _ => pure changed :
      Serving Task).run store _ _ = _
    rw [run_bind, run_mapError, hsend]
    rfl
  | some message =>
    have hcommit : (commitTask actor changed now (some message)).run store tables source = _ :=
      run_bind store (freshComment actor changed message now) _ tables source
    rcases @run_freshComment tables actor changed message now source with ⟨hdraw, hrun⟩ | ⟨id, hrun⟩ <;>
      rw [hrun] at hcommit
    · exact .inl ⟨rfl, hdraw, hcommit⟩
    · let comment : TaskComment := ⟨id, changed.id, changed.boardId?, some actor.id, message, now⟩
      obtain ⟨after, hbatch, hrows⟩ := batch_of_quiet hquiet (changeSavings changed [comment])
      have hsend := run_sendAll (changeSavings changed [comment]) tables (source.draw 16).2
      rw [hbatch] at hsend
      refine .inr ⟨id, after, (source.draw 16).2, hcommit.trans ?_, rewritten_of_rows hunique hrows⟩
      show ((Flow.sendAll ((changeSavings changed [comment]).map Saving.asked)).mapError
        (fun e => Failure.query (.storage e)) >>= fun _ => pure changed : Serving Task).run store _ _ = _
      rw [run_bind, run_mapError, hsend]
      rfl

/-- The assignee of a task in progress is the caller where there is no other. -/
theorem assigneeInProgress_eq (actor : Agent) (status : TaskStatus) (assignee? : Option String) :
    assigneeInProgress actor status assignee? =
      assignee?.or (if status = .inProgress then some actor.id else none) := by
  unfold assigneeInProgress
  cases assignee? <;> simp

/-! ## The whole change -/

/-- The ways in which a change of a task ends. -/
inductive UpdateEnds (tables : Tables) (actor : Agent) (task : Task) (update : TaskUpdate) (now : String)
    (source : Entropy) : Except Failure Task × Tables × Entropy → Prop
  | refused (complaint : Complaint) (h : update.Refused) :
      UpdateEnds tables actor task update now source (.error (.badRequest complaint), tables, source)
  | missing {agentId : String} (h : ¬ update.Refused) (hassign : update.assignment = .assign agentId)
      (hmissing : ¬ tables.Has "agents" (Text.trim agentId)) :
      UpdateEnds tables actor task update now source (.error (.notFound "agent"), tables.noting [agentTrip], source)
  | elsewhere {agentId : String} {board? : Option String} (h : ¬ update.Refused)
      (hassign : update.assignment = .assign agentId) (hplace : tables.Places "agents" (Text.trim agentId) board?)
      (helsewhere : board? ≠ task.boardId?) :
      UpdateEnds tables actor task update now source
        (.error (.badRequest .assigneeElsewhere), tables.noting [agentTrip], source)
  | unnamed {after : Tables} {rest : Entropy} (h : ¬ update.Refused)
      (hplaced : ∀ agentId, update.assignment = .assign agentId →
        tables.Places "agents" (Text.trim agentId) task.boardId?)
      (hcomment : (update.comment?.bind Text.nonBlank?).isSome) (hbytes : (source.draw 16).1 = none) :
      UpdateEnds tables actor task update now source (.error (.internal .noRandomBytes), after, rest)
  | done {changed : Task} {id : String} {after : Tables} {rest : Entropy} (h : ¬ update.Refused)
      (hplaced : ∀ agentId, update.assignment = .assign agentId →
        tables.Places "agents" (Text.trim agentId) task.boardId?)
      (hmakes : update.Makes actor now task changed)
      (hwritten : Rewritten changed ((update.comment?.bind Text.nonBlank?).map fun message =>
        ⟨id, task.id, task.boardId?, some actor.id, message, now⟩).toList tables after) :
      UpdateEnds tables actor task update now source (.ok changed, after, rest)

/-- Where no failure waits, a change ends in one of these ways. -/
theorem applyUpdate_ends (hunique : tables.UniqueIds) (hreadable : Agent.model.Readable tables "agents")
    (hquiet : tables.fault? = none) (actor : Agent) (task : Task) (update : TaskUpdate) (now : String)
    (source : Entropy) : UpdateEnds tables actor task update now source
      ((applyUpdate actor task update now).run store tables source) := by
  rcases applyUpdate_cases actor task update now with
    ⟨hrefused, complaint, heq⟩ | ⟨hgoes, status, hkept, hnamed, heq⟩ <;> rw [heq]
  · exact .refused complaint hrefused
  · rw [run_bind]
    rcases run_resolveAssignee hreadable hquiet task update.assignment source with
      ⟨trips, hrun, hplaced⟩ | ⟨agentId, hassign, ⟨hmissing, hrun⟩ | ⟨board?, hplace, helsewhere, hrun⟩⟩ <;> rw [hrun]
    · -- The lookup has left the rows as they were.
      let changed : Task := { task with
        status := status
        assignee? := assigneeInProgress actor status (update.assignment.asked? task.assignee?)
        updatedAt := now }
      have hmakes : update.Makes actor now task changed :=
        ⟨hkept, hnamed, assigneeInProgress_eq actor status _, rfl⟩
      show UpdateEnds tables actor task update now source ((commitTask actor changed now
        (update.comment?.bind Text.nonBlank?)).run store (tables.noting trips) source)
      rcases @run_commitTask (tables.noting trips) hunique hquiet actor changed now
        (update.comment?.bind Text.nonBlank?) source with
        ⟨hcomment, hbytes, hcommit⟩ | ⟨id, after, rest, hcommit, hwritten⟩ <;> rw [hcommit]
      · exact .unnamed hgoes hplaced hcomment hbytes
      · exact .done hgoes hplaced hmakes ⟨hwritten.tasks, hwritten.comments, hwritten.others⟩
    · exact .missing hgoes hassign hmissing
    · exact .elsewhere hgoes hassign hplace helsewhere

namespace UpdateEnds

variable {now : String} {source : Entropy} {ended : Except Failure Task × Tables × Entropy}
  (h : UpdateEnds tables actor task update now source ended)
include h

/-- A change that is complained about without a round trip cannot be made. -/
theorem refused_iff : (∃ complaint, ended = (.error (.badRequest complaint), tables, source)) ↔ update.Refused := by
  cases h with
  | refused complaint h => exact iff_of_true ⟨complaint, rfl⟩ h
  | missing h | unnamed h | done h => exact iff_of_false (fun ⟨_, hended⟩ => by cases hended) h
  | elsewhere h =>
    refine iff_of_false (fun ⟨_, hended⟩ => ?_) h
    have hcalls := congrArg (·.2.1.calls.length) hended
    simp [noting] at hcalls

/-- A task that is left in progress has an assignee. -/
theorem assigned {after : Task} (hended : ended.1 = .ok after) (hprogress : after.status = .inProgress) :
    after.assignee? ≠ none := by
  cases h with
  | refused | missing | elsewhere | unnamed => cases hended
  | done _ _ hmakes =>
    cases hended
    rw [hmakes.assignee, if_pos hprogress]
    cases update.assignment.asked? task.assignee? <;> exact Option.some_ne_none _

variable (hgoes : ¬ update.Refused)
include hgoes

/-- An assignee who is not there is missed. -/
theorem of_missing {agentId : String} (hassign : update.assignment = .assign agentId)
    (hmissing : ¬ tables.Has "agents" (Text.trim agentId)) :
    ended = (.error (.notFound "agent"), tables.noting [agentTrip], source) := by
  cases h with
  | refused _ h => exact absurd h hgoes
  | missing => rfl
  | elsewhere _ h hplace =>
    obtain rfl := Assignment.assign.inj (h.symm.trans hassign)
    exact absurd hplace.has hmissing
  | unnamed _ hplaced | done _ hplaced => exact absurd (hplaced agentId hassign).has hmissing

/-- An assignee who is on another board than the task is complained about. -/
theorem of_elsewhere (hunique : tables.UniqueIds) {agentId : String} (hassign : update.assignment = .assign agentId)
    {board? : Option String} (hplace : tables.Places "agents" (Text.trim agentId) board?)
    (helsewhere : board? ≠ task.boardId?) :
    ended = (.error (.badRequest .assigneeElsewhere), tables.noting [agentTrip], source) := by
  cases h with
  | refused _ h => exact absurd h hgoes
  | missing _ h hmissing =>
    obtain rfl := Assignment.assign.inj (h.symm.trans hassign)
    exact absurd hplace.has hmissing
  | elsewhere => rfl
  | unnamed _ hplaced | done _ hplaced =>
    exact absurd (board?_eq_of_places hunique (hplaced agentId hassign) hplace) helsewhere

/-- A change whose assignee is on the board of the task is made, with random bytes for its comment. -/
theorem of_placed (hunique : tables.UniqueIds) (hplaced : ∀ agentId, update.assignment = .assign agentId →
      tables.Places "agents" (Text.trim agentId) task.boardId?)
    (hbytes : (update.comment?.bind Text.nonBlank?).isSome → (source.draw 16).1.isSome) :
    ∃ after id, ended.1 = .ok after ∧ update.Makes actor now task after ∧
      Rewritten after ((update.comment?.bind Text.nonBlank?).map fun message =>
        ⟨id, task.id, task.boardId?, some actor.id, message, now⟩).toList tables ended.2.1 := by
  cases h with
  | refused _ h => exact absurd h hgoes
  | missing _ hassign hmissing => exact absurd (hplaced _ hassign).has hmissing
  | elsewhere _ hassign hplace helsewhere =>
    exact absurd (board?_eq_of_places hunique (hplaced _ hassign) hplace) helsewhere
  | unnamed _ _ hcomment hnone =>
    have hsome := hbytes hcomment
    rw [hnone] at hsome
    cases hsome
  | done _ _ hmakes hwritten => exact ⟨_, _, rfl, hmakes, hwritten⟩

end UpdateEnds

/-- Where no failure waits, identifiers are unique and every agent can be read, a change of a task is refused without a
round trip just when there is nothing to change or its status is none. Otherwise one that names an agent who is not
there, or is on another board than the task, ends with the lookup of the agent and writes nothing; and any other, with
random bytes for its comment if it has one, leaves the task as it asks, in its place, and adds the comment. So no
change leaves a task in progress without an assignee. -/
theorem update_computed (hunique : tables.UniqueIds) (hreadable : Agent.model.Readable tables "agents")
    (hquiet : tables.fault? = none) (actor : Agent) (task : Task) (update : TaskUpdate) (now : String)
    (source : Entropy) :
    let ended := (applyUpdate actor task update now).run store tables source
    ((∃ complaint, ended = (.error (.badRequest complaint), tables, source)) ↔ update.Refused) ∧
    (¬ update.Refused →
      (∀ agentId, update.assignment = .assign agentId →
        (¬ tables.Has "agents" (Text.trim agentId) →
          ended = (.error (.notFound "agent"), tables.noting [agentTrip], source)) ∧
        ∀ board?, tables.Places "agents" (Text.trim agentId) board? → board? ≠ task.boardId? →
          ended = (.error (.badRequest .assigneeElsewhere), tables.noting [agentTrip], source)) ∧
      ((∀ agentId, update.assignment = .assign agentId → tables.Places "agents" (Text.trim agentId) task.boardId?) →
        ((update.comment?.bind Text.nonBlank?).isSome → (source.draw 16).1.isSome) →
        ∃ after id, ended.1 = .ok after ∧ update.Makes actor now task after ∧
          Rewritten after ((update.comment?.bind Text.nonBlank?).map fun message =>
            ⟨id, task.id, task.boardId?, some actor.id, message, now⟩).toList tables ended.2.1)) ∧
    ∀ after, ended.1 = .ok after → after.status = .inProgress → after.assignee? ≠ none := by
  intro ended
  have hends : UpdateEnds tables actor task update now source ended :=
    applyUpdate_ends hunique hreadable hquiet actor task update now source
  refine ⟨hends.refused_iff, fun hgoes => ⟨fun agentId hassign => ⟨?_, fun board? => ?_⟩, ?_⟩,
    fun after => hends.assigned⟩
  · exact hends.of_missing hgoes hassign
  · exact hends.of_elsewhere hgoes hunique hassign
  · exact hends.of_placed hgoes hunique

/-! ## A task that is taken on -/

/-- To begin with a task, for an agent, with a comment. -/
def takeOn : TaskUpdate :=
  ⟨some " In_Progress", .assign "a1 ", some "On it"⟩

theorem not_refused_takeOn : ¬ takeOn.Refused := by
  rintro (⟨h, -⟩ | ⟨text, h, hunknown⟩)
  · cases h
  · cases h
    exact hunknown .inProgress (by decide +kernel)

/-- The task that waits is taken on by the agent that is named, whoever asks; an agent that is not there is missed. -/
theorem update_computed_yard : (yard lead).UniqueIds ∧ Agent.model.Readable (yard lead) "agents" ∧
    (yard lead).fault? = none ∧ ¬ takeOn.Refused ∧
    ((applyUpdate rover waiting takeOn "2024-01-02").run store (yard lead) .counting).1 =
      .ok { waiting with status := .inProgress, assignee? := some "a1", updatedAt := "2024-01-02" } ∧
    (applyUpdate rover waiting ⟨none, .assign "a9", none⟩ "2024-01-02").run store (yard lead) .counting =
      (.error (.notFound "agent"), (yard lead).noting [agentTrip], .counting) := by
  have hreadable : Agent.model.Readable (yard lead) "agents" := fun row hrow =>
    List.mem_singleton.1 hrow ▸ ⟨lead, lead.ofRecord?_record⟩
  have hcomputed := fun update : TaskUpdate =>
    update_computed (uniqueIds_yard lead) hreadable rfl rover waiting update "2024-01-02" .counting
  have hplaced : (yard lead).Places "agents" (Text.trim "a1 ") waiting.boardId? :=
    ⟨lead.record, List.mem_singleton_self _, by decide +kernel, by decide +kernel⟩
  obtain ⟨after, id, hrun, hmakes, -⟩ := ((hcomputed takeOn).2.1 not_refused_takeOn).2
    (fun agentId h => Assignment.assign.inj h ▸ hplaced) fun _ => rfl
  have hstatus : after.status = .inProgress := by
    have hword : TaskStatus.ofWord? after.status.word = some .inProgress := by
      rw [hmakes.named " In_Progress" rfl]
      decide +kernel
    exact Option.some.inj ((TaskStatus.ofWord?_word _).symm.trans hword)
  have hassignee : after.assignee? = some "a1" := by
    rw [hmakes.assignee, hstatus]
    decide +kernel
  refine ⟨uniqueIds_yard lead, hreadable, rfl, not_refused_takeOn, ?_, ?_⟩
  · rw [hrun, hmakes.others, hstatus, hassignee]
  · have hnothing : ¬ TaskUpdate.Refused ⟨none, .assign "a9", none⟩ := by
      rintro (⟨-, h, -⟩ | ⟨_, h, -⟩) <;> cases h
    refine (((hcomputed _).2.1 hnothing).1 "a9" rfl).1 ?_
    rintro ⟨row, hrow, hid⟩
    obtain rfl := List.mem_singleton.1 hrow
    exact absurd hid (by decide +kernel)

end Endpoint

end Taskboard
