/-
Two changes of one task side by side, one that asks for a status and one that asks for an assignee. A change
writes the whole row as it computed it from the row it found, so both changes are kept just when one call has
had both its turns before the other begins; otherwise the call that writes last puts back what it found in the
other's column (`edits_after`, `assignee_lost`).
-/
import Taskboard.Proofs.Endpoint.Decisions
import Taskboard.Proofs.Endpoint.Assignment
import Taskboard.Proofs.Storage.Changes

namespace Taskboard.Endpoint

open Taskboard.Flow Tables

/-! ## The two changes -/

/-- The column that a change asks for. -/
inductive Edit where
  | status
  | assignee
deriving DecidableEq

/-- The other of two changes. -/
def Edit.other : Edit → Edit
  | .status => .assignee
  | .assignee => .status

/-- Two changes of a task: what they ask for, and who asks for it when. -/
structure Edits where
  boardId : String
  taskId : String
  statusText : String
  agentId : String
  actor : Edit → Agent
  now : Edit → String

namespace Edits

variable (edits : Edits)

/-- What a change asks for. -/
def update : Edit → TaskUpdate
  | .status => ⟨some edits.statusText, .keep, none⟩
  | .assignee => ⟨none, .assign edits.agentId, none⟩

/-- The call of a change. -/
def flow (edit : Edit) : Serving Task :=
  updateTask (edits.actor edit) edits.boardId edits.taskId (edits.update edit) (edits.now edit)

/-- A task with what a change asks for. -/
def apply (status : TaskStatus) (edit : Edit) (task : Task) : Task :=
  match edit with
  | .status => { task with status := status, updatedAt := edits.now .status }
  | .assignee => { task with assignee? := some (Text.trim edits.agentId), updatedAt := edits.now .assignee }

/-- What is left of a change that has found the task. -/
def writing (status : TaskStatus) (edit : Edit) (task : Task) : Serving Task :=
  commit ⟨.update, Task.schema, (edits.apply status edit task).record⟩ unwritten (edits.apply status edit task)

/-- Both changes before they have begun. -/
def race (start : Tables) (source : Entropy) : Race Edit Failure Task Tables :=
  ⟨edits.flow, start, source⟩

end Edits

/-! ## The task that is stored -/

section Stored

variable {s t : Tables} {boardId taskId : String} {task changed : Task}

theorem TaskOn.congr (h : TaskOn s boardId taskId task) (hrows : t.rows = s.rows) : TaskOn t boardId taskId task := by
  obtain ⟨⟨row, hrow, hdecode⟩, hat⟩ := h
  exact ⟨⟨row, hrows ▸ hrow, hdecode⟩, hat⟩

/-- A task with an identifier is the only one. -/
theorem TaskOn.unique (hunique : s.UniqueIds) (h : TaskOn s boardId taskId task)
    (h' : TaskOn s boardId taskId changed) : changed = task := by
  obtain ⟨⟨row, hrow, hdecode⟩, hid, -⟩ := h
  obtain ⟨⟨row', hrow', hdecode'⟩, hid', -⟩ := h'
  have hkey : row.text? "id" = some taskId := hid ▸ (Task.text?_of_ofRecord? hdecode).1
  have hkey' : row'.text? "id" = some taskId := hid' ▸ (Task.text?_of_ofRecord? hdecode').1
  rw [eq_of_nodup_filterMap (hunique .task) hrow hrow' hkey hkey'] at hdecode'
  exact Option.some.inj (hdecode'.symm.trans hdecode)

/-- A task that is written in the place of another is stored, and identifiers stay unique. -/
theorem TaskOn.updated (hunique : s.UniqueIds) (h : TaskOn s boardId taskId task) (hid : changed.id = taskId)
    (hboard : changed.boardId? = some boardId) :
    (s.carryOut ⟨.update, Task.schema, changed.record⟩).UniqueIds ∧
      TaskOn (s.carryOut ⟨.update, Task.schema, changed.record⟩) boardId taskId changed := by
  obtain ⟨⟨row, hrow, hdecode⟩, rfl, hon⟩ := h
  obtain ⟨hkey, hplaced⟩ := Task.text?_of_ofRecord? hdecode
  have hplace : s.Places Entity.task.table changed.id (some boardId) := ⟨row, hrow, hid ▸ hkey, hplaced.trans hon⟩
  refine ⟨uniqueIds_replaced hunique hplace (Task.rowOn hboard), ⟨changed.record, ?_, changed.ofRecord?_record⟩, hid,
    hboard⟩
  have hrows := @rows_updated s .task changed.id changed.record hunique rfl
  have hmem : changed.record ∈ (s.rows Entity.task.table).map (Record.replacedBy changed.id changed.record) :=
    List.mem_map.2 ⟨row, hrow, if_pos (hid ▸ hkey)⟩
  exact hrows ▸ hmem

end Stored

/-! ## One turn -/

section Turns

variable {edits : Edits} {status : TaskStatus} (race : Race Edit Failure Task Tables) (edit : Edit) {task : Task}

theorem Edits.apply_on (h : task.id = edits.taskId ∧ task.boardId? = some edits.boardId) (status : TaskStatus)
    (edit : Edit) : (edits.apply status edit task).id = edits.taskId ∧
      (edits.apply status edit task).boardId? = some edits.boardId := by
  cases edit <;> exact h

/-- The first turn of a change finds the task, and leaves it to be written with what the change asks for. -/
theorem turn_looks (hparse : TaskStatus.parse? edits.statusText = some status) (hstatus : status ≠ .inProgress)
    (hleft : race.left edit = edits.flow edit) : (race.turn store edit).state.rows = race.state.rows ∧
      ((race.turn store edit).Fails edit ∨ ∃ task, TaskOn race.state edits.boardId edits.taskId task ∧
        (race.turn store edit).left edit = edits.writing status edit task) := by
  have hadvance : (race.left edit).advance store race.state race.source =
      (edits.flow edit).pause store race.state race.source := by
    rw [hleft]
    rfl
  have hdecides := @updateTask_decides (edits.actor edit) race.state edits.boardId edits.taskId (edits.update edit)
    (edits.now edit) (by cases edit <;> rfl)
  obtain ⟨hrows, hrest⟩ := hdecides race.state race.source rfl
  unfold Race.Fails
  rw [Race.left_turn_self, Race.state_turn, hadvance]
  refine ⟨hrows, hrest.imp_right ?_⟩
  rintro ⟨before, found, assignee?, hon, hresolved, hassignee, hcommit⟩
  refine ⟨before, hon, hcommit.trans ?_⟩
  -- The change writes the task that it found, but for its own column and the time.
  have hchanged : { before with
      status := found
      assignee? := assigneeInProgress (edits.actor edit) found assignee?
      updatedAt := edits.now edit } = edits.apply status edit before := by
    cases edit with
    | status =>
      obtain rfl : assignee? = before.assignee? := hassignee
      have hfound : resolveStatus before (some edits.statusText) = .ok status := by
        unfold resolveStatus
        simp only [hparse]
      obtain rfl : status = found := Except.ok.inj (hfound.symm.trans hresolved)
      simp [Edits.apply, assigneeInProgress, hstatus]
    | assignee =>
      obtain ⟨agent, rfl, hid, -, -⟩ := hassignee
      obtain rfl : before.status = found := Except.ok.inj hresolved
      simp [Edits.apply, assigneeInProgress, hid]
  exact congrArg (fun changed : Task => commit ⟨.update, Task.schema, changed.record⟩ unwritten changed) hchanged

/-- The second turn of a change writes the task as the change left it. -/
theorem turn_writes (hunique : race.state.UniqueIds) {stored : Task}
    (hstored : TaskOn race.state edits.boardId edits.taskId stored)
    (hfound : task.id = edits.taskId ∧ task.boardId? = some edits.boardId)
    (hleft : race.left edit = edits.writing status edit task) : (race.turn store edit).Fails edit ∨
      ((race.turn store edit).state.UniqueIds ∧
        TaskOn (race.turn store edit).state edits.boardId edits.taskId (edits.apply status edit task)) := by
  have hadvance := advance_commit store ⟨.update, Task.schema, (edits.apply status edit task).record⟩ unwritten
    (edits.apply status edit task) race.state race.source
  obtain ⟨hid, hboard⟩ := Edits.apply_on hfound status edit
  unfold Race.Fails
  rw [Race.left_turn_self, Race.state_turn, hleft, Edits.writing, hadvance]
  rcases write_cases ⟨.update, Task.schema, (edits.apply status edit task).record⟩ race.state with
    ⟨e, after, -, hwrite⟩ | ⟨after, hrows, hwrite⟩
  · rw [hwrite]
    exact .inl ⟨unwritten e, rfl⟩
  · rw [hwrite]
    obtain ⟨hunique', hon⟩ := hstored.updated hunique hid hboard
    exact .inr ⟨hunique'.congr hrows, hon.congr hrows⟩

end Turns

/-! ## Both changes -/

theorem length_eq_count (turns : List Edit) : turns.length = turns.count .status + turns.count .assignee := by
  induction turns with
  | nil => rfl
  | cons edit rest ih => cases edit <;> simp [ih] <;> omega

/-- One call has both its turns before the other has its first. -/
def Serial (turns : List Edit) : Prop :=
  ∃ edit : Edit, turns = [edit, edit, edit.other, edit.other]

/-- The orders in which two calls take two turns each. -/
theorem turns_cases {turns : List Edit} (h : ∀ edit, turns.count edit = 2) : ∃ edit : Edit,
    turns = [edit, edit, edit.other, edit.other] ∨ turns = [edit, edit.other, edit, edit.other] ∨
      turns = [edit, edit.other, edit.other, edit] := by
  have hlength := length_eq_count turns
  rw [h, h] at hlength
  match turns, hlength with
  | [a, b, c, d], _ =>
    have hstatus := h .status
    have hassignee := h .assignee
    refine ⟨a, ?_⟩
    revert hstatus hassignee
    cases a <;> cases b <;> cases c <;> cases d <;> decide

theorem other_ne (edit : Edit) : edit.other ≠ edit := by
  cases edit <;> decide

section Both

variable {edits : Edits} {status : TaskStatus} {start : Tables} {source : Entropy}

/-- The other call is where it was before a turn of one. -/
theorem left_other (race : Race Edit Failure Task Tables) (edit : Edit) :
    (race.turn store edit).left edit.other = race.left edit.other :=
  Race.left_turn_of_ne (other_ne edit)

variable (hparse : TaskStatus.parse? edits.statusText = some status) (hstatus : status ≠ .inProgress)
  (hunique : start.UniqueIds)
include hparse hstatus hunique

/-- A call that has both its turns before the other begins leaves its change to be found. -/
theorem after_serial (edit : Edit)
    (hok : ∀ e, ((edits.race start source).after store [edit, edit, edit.other, edit.other]).Succeeds e) :
    let reached := (edits.race start source).after store [edit, edit, edit.other, edit.other]
    reached.state.UniqueIds ∧ ∃ before, TaskOn start edits.boardId edits.taskId before ∧
      TaskOn reached.state edits.boardId edits.taskId
        (edits.apply status edit.other (edits.apply status edit before)) := by
  simp only [Race.after_cons, Race.after_nil] at hok ⊢
  obtain ⟨hrows, hlooks⟩ := turn_looks (edits.race start source) edit hparse hstatus rfl
  have hother := left_other (edits.race start source) edit
  generalize (edits.race start source).turn store edit = looked at *
  obtain hfails | ⟨before, hon, hleft⟩ := hlooks
  · exact absurd (hok edit) hfails.turn.turn.turn.not_succeeds
  have hwrites := turn_writes looked edit (hunique.congr hrows) (hon.congr hrows) hon.2 hleft
  replace hother := (left_other looked edit).trans hother
  generalize looked.turn store edit = written at *
  obtain hfails | ⟨hunique', hon'⟩ := hwrites
  · exact absurd (hok edit) hfails.turn.turn.not_succeeds
  obtain ⟨hrows', hlooks⟩ := turn_looks written edit.other hparse hstatus hother
  generalize written.turn store edit.other = found at *
  obtain hfails | ⟨again, honAgain, hleft'⟩ := hlooks
  · exact absurd (hok edit.other) hfails.turn.not_succeeds
  obtain rfl : again = edits.apply status edit before := hon'.unique hunique' honAgain
  have hwrites := turn_writes found edit.other (hunique'.congr hrows') (hon'.congr hrows') hon'.2 hleft'
  obtain hfails | ⟨hunique'', hon''⟩ := hwrites
  · exact absurd (hok edit.other) hfails.not_succeeds
  exact ⟨hunique'', before, hon, hon''⟩

/-- Calls that both find the task before either writes it write what they found in each other's column. -/
theorem after_overlapping (edit last : Edit)
    (hok : ∀ e, ((edits.race start source).after store [edit, edit.other, last.other, last]).Succeeds e) :
    let reached := (edits.race start source).after store [edit, edit.other, last.other, last]
    reached.state.UniqueIds ∧ ∃ before, TaskOn start edits.boardId edits.taskId before ∧
      TaskOn reached.state edits.boardId edits.taskId (edits.apply status last before) := by
  simp only [Race.after_cons, Race.after_nil] at hok ⊢
  obtain ⟨hrows, hlooks⟩ := turn_looks (edits.race start source) edit hparse hstatus rfl
  have hother := left_other (edits.race start source) edit
  generalize (edits.race start source).turn store edit = looked at *
  obtain hfails | ⟨before, hon, hleft⟩ := hlooks
  · exact absurd (hok edit) hfails.turn.turn.turn.not_succeeds
  obtain ⟨hrows', hlooks⟩ := turn_looks looked edit.other hparse hstatus hother
  have hkept : (looked.turn store edit.other).left edit = looked.left edit :=
    Race.left_turn_of_ne (other_ne edit).symm
  generalize looked.turn store edit.other = found at *
  obtain hfails | ⟨again, honAgain, hleft'⟩ := hlooks
  · exact absurd (hok edit.other) hfails.turn.turn.not_succeeds
  obtain rfl : again = before := (hon.congr hrows).unique (hunique.congr hrows) honAgain
  -- Both have found the same task, whoever found it first.
  have hboth : ∀ e, found.left e = edits.writing status e again := by
    intro e
    cases e <;> cases edit
    exacts [hkept.trans hleft, hleft', hleft', hkept.trans hleft]
  have hon' := honAgain.congr hrows'
  have hwrites := turn_writes found last.other ((hunique.congr hrows).congr hrows') hon' hon.2 (hboth last.other)
  have hlast : (found.turn store last.other).left last = found.left last :=
    Race.left_turn_of_ne (other_ne last).symm
  generalize found.turn store last.other = written at *
  obtain hfails | ⟨hunique', hon''⟩ := hwrites
  · exact absurd (hok last.other) hfails.turn.not_succeeds
  obtain hfails | ⟨hunique'', hon'''⟩ := turn_writes written last hunique' hon'' hon.2 (hlast.trans (hboth last))
  · exact absurd (hok last) hfails.not_succeeds
  exact ⟨hunique'', again, hon, hon'''⟩

/-- Two changes of one task, one of its status and one of its assignee, are both kept when one call has both
its turns before the other begins. In any other order the task ends as it was before both, with only the change
of the call that writes last. -/
theorem edits_after {turns : List Edit} (hturns : ∀ edit, turns.count edit = 2)
    (hok : ∀ edit, ((edits.race start source).after store turns).Succeeds edit) :
    let reached := (edits.race start source).after store turns
    reached.state.UniqueIds ∧ ∃ before final, TaskOn start edits.boardId edits.taskId before ∧
      TaskOn reached.state edits.boardId edits.taskId final ∧
      (Serial turns → final.status = status ∧ final.assignee? = some (Text.trim edits.agentId)) ∧
      (¬ Serial turns → ∀ last, turns.getLast? = some last → final = edits.apply status last before) := by
  obtain ⟨edit, rfl | rfl | rfl⟩ := turns_cases hturns
  · obtain ⟨hunique', before, hbefore, hfinal⟩ := after_serial hparse hstatus hunique edit hok
    refine ⟨hunique', before, _, hbefore, hfinal, fun _ => ?_, fun hserial => absurd ⟨edit, rfl⟩ hserial⟩
    cases edit <;> exact ⟨rfl, rfl⟩
  · have hother : edit.other.other = edit := by cases edit <;> rfl
    have hafter := after_overlapping hparse hstatus hunique edit edit.other (by rwa [hother])
    rw [hother] at hafter
    obtain ⟨hunique', before, hbefore, hfinal⟩ := hafter
    refine ⟨hunique', before, _, hbefore, hfinal, fun ⟨first, hserial⟩ => ?_, fun _ last hlast => ?_⟩
    · cases edit <;> cases first <;> cases hserial
    · cases hlast
      rfl
  · obtain ⟨hunique', before, hbefore, hfinal⟩ := after_overlapping hparse hstatus hunique edit edit hok
    refine ⟨hunique', before, _, hbefore, hfinal, fun ⟨first, hserial⟩ => ?_, fun _ last hlast => ?_⟩
    · cases edit <;> cases first <;> cases hserial
    · cases hlast
      rfl

end Both

/-- A lead who has two changes of the task that waits under way. -/
def chores : Edits where
  boardId := "b1"
  taskId := "t1"
  statusText := "review"
  agentId := "a1"
  actor _ := lead
  now _ := "2024-01-02"

/-- One after the other, the two changes are both kept. -/
theorem edits_after_chores : ∃ final,
    TaskOn ((chores.race (yard lead) .counting).after store [.assignee, .assignee, .status, .status]).state "b1" "t1"
      final ∧ final.status = .review ∧ final.assignee? = some "a1" := by
  have hok : ∀ edit, ((chores.race (yard lead) .counting).after store [.assignee, .assignee, .status, .status]).Succeeds
      edit := fun edit => by cases edit <;> decide +kernel
  have hparse : TaskStatus.parse? chores.statusText = some .review := by decide +kernel
  obtain ⟨-, before, final, -, hfinal, hkept, -⟩ := edits_after hparse (by decide) (uniqueIds_yard lead)
    (fun edit => by cases edit <;> rfl) hok
  exact ⟨final, hfinal, hkept ⟨.assignee, rfl⟩⟩

/-- The assignee is found and written between the turns of the change of the status, which puts back what it
has found: both calls succeed, and the task is assigned to nobody. -/
theorem assignee_lost :
    let reached := (chores.race (yard lead) .counting).after store [.status, .assignee, .assignee, .status]
    (yard lead).UniqueIds ∧ (∀ edit, reached.Succeeds edit) ∧
      ¬ ∃ task, TaskOn reached.state "b1" "t1" task ∧ task.status = .review ∧ task.assignee? = some "a1" := by
  intro reached
  refine ⟨uniqueIds_yard lead, fun edit => by cases edit <;> decide +kernel, ?_⟩
  rintro ⟨task, ⟨⟨row, hrow, hdecode⟩, -⟩, -, hassignee⟩
  have htasks : (reached.state.rows "tasks").map (·.text? "assigned_agent_id") = [none] := by decide +kernel
  have hrow' : row.text? "assigned_agent_id" ∈ [none] := htasks ▸ List.mem_map_of_mem hrow
  have htext : row.text? "assigned_agent_id" = task.assignee? :=
    (Record.text?_congr (task.value?_of_ofRecord? hdecode _ (by decide))).trans (Record.text?_of_lookup rfl)
  rw [htext, hassignee] at hrow'
  cases List.mem_singleton.1 hrow'

end Taskboard.Endpoint
