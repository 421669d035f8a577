/-
What a listing shows of what was added. A request that adds an approval, an entry of the memory or a comment is
answered with what the listing shows of it from then on: the listing has that one entry more, behind those that
come before it or have the same time, and is otherwise as it was (`listings_gain`).
-/
import Mathlib.Data.String.Basic
import Taskboard.Proofs.Endpoint.Callers
import Taskboard.Proofs.Endpoint.Grounds
import Taskboard.Proofs.Endpoint.Refusal
import Taskboard.Proofs.Json.Reread
import Taskboard.Proofs.Storage.Changes
import Taskboard.Proofs.Storage.Sorting

namespace Taskboard

open Taskboard.Flow Tables

/-! ## One entry more -/

/-- A text comes before another in a direction, or is the same. -/
def Direction.Precedes : Direction → String → String → Prop
  | .ascending, x, y => x ≤ y
  | .descending, x, y => y ≤ x

/-- A listing in the order of stamps has one entry more: behind those that come before it or have the same stamp,
and in front of the others. -/
def Gains {ε α : Type} (direction : Direction) (stamp : α → String) (entry : α) (old new : Except ε (List α)) : Prop :=
  ∃ front back, old = .ok (front ++ back) ∧ new = .ok (front ++ entry :: back) ∧
    (∀ other ∈ front, direction.Precedes (stamp other) (stamp entry)) ∧
    ∀ other ∈ back, ¬ direction.Precedes (stamp other) (stamp entry)

namespace Gains

variable {ε δ α β : Type} {direction : Direction} {stamp : α → String} {entry : α} {old new : Except ε (List α)}

theorem mapError (h : Gains direction stamp entry old new) (tell : ε → δ) :
    Gains direction stamp entry (old.mapError tell) (new.mapError tell) := by
  obtain ⟨front, back, rfl, rfl, hplace⟩ := h
  exact ⟨front, back, rfl, rfl, hplace⟩

/-- What is shown of every entry gains what is shown of the new one. -/
theorem map (h : Gains direction stamp entry old new) (view : α → β) {shown : β → String}
    (hshown : ∀ x, shown (view x) = stamp x) :
    Gains direction shown (view entry) (old.map (List.map view)) (new.map (List.map view)) := by
  obtain ⟨front, back, rfl, rfl, hfront, hback⟩ := h
  refine ⟨front.map view, back.map view, by simp [Except.map], by simp [Except.map], ?_, ?_⟩
  · simpa [hshown] using hfront
  · simpa [hshown] using hback

end Gains

theorem isLE_compareRows_iff {field x y : String} {direction : Direction} {a b : Record} (ha : a.text? field = some x)
    (hb : b.text? field = some y) :
    (compareRows [⟨field, direction⟩] a b).isLE = true ↔ direction.Precedes x y := by
  cases direction
  · rw [compareRows_ascending ha hb]
    exact Std.LawfulBCmp.isLE_iff_le
  · rw [compareRows_descending ha hb]
    exact Std.LawfulBCmp.isLE_iff_le

/-- Where a row is added that meets a plan, the listing of the plan gains what the row stands for. -/
theorem Model.all_gains {α : Type} (model : Model α) (plan : Plan) {s t : Tables} {row : Record} {x : α}
    {field : String} {direction : Direction} {stamp : α → String} (hquiet : s.fault? = none) (hquiet' : t.fault? = none)
    (hvalid : plan.validate = .ok ()) (hvacuous : plan.isVacuous = false)
    (hsort : plan.sortTerms = [⟨field, direction⟩])
    (hoffset : plan.offset?.getD 0 = 0)
    (hlimit : ∀ limit, plan.limit? = some limit → (s.rows plan.schema.table).length < limit)
    (hstamp : ∀ (row : Record) x, model.decode? (.object row) = some x → row.text? field = some (stamp x))
    (hreadable : model.Readable s plan.schema.table)
    (hrows : t.rows plan.schema.table = s.rows plan.schema.table ++ [row]) (hmeets : plan.Meets row)
    (hdecode : model.decode? (.object row) = some x) (source source' : Entropy) :
    Gains direction stamp x ((model.all plan).run store s source).1 ((model.all plan).run store t source').1 := by
  obtain ⟨front, back, hold, hnew, hfront, hback⟩ := answer_concat hrows hmeets hoffset hlimit
  obtain ⟨values, hvalues⟩ := @Model.decodeAll_of_readable _ model s plan hreadable
  have hread := hvalues
  rw [Model.decodeAll_eq_ok_iff, hold, List.map_append, List.map_append] at hread
  obtain ⟨values', values'', rfl, hfront', hback'⟩ := List.map_eq_append_iff.1 hread.symm
  have hvalues' : model.decodeAll ((t.answer plan).map .object) = .ok (values' ++ x :: values'') := by
    rw [Model.decodeAll_eq_ok_iff, hnew]
    simp [hfront', hback', hdecode]
  rw [Model.run_all_of_quiet hquiet hvalid hvacuous hvalues, Model.run_all_of_quiet hquiet' hvalid hvacuous hvalues']
  -- A value that is listed is that of a row of its part of the answer, and has the stamp of the row.
  have hrow : ∀ {part : List Record} {listed : List α},
      listed.map some = (part.map Json.object).map model.decode? → ∀ y ∈ listed, ∃ other ∈ part,
        other.text? field = some (stamp y) := fun hlisted y hy => by
    have hmem := List.mem_map_of_mem (f := some) hy
    rw [hlisted, List.map_map] at hmem
    obtain ⟨other, hother, hdecode⟩ := List.mem_map.1 hmem
    exact ⟨other, hother, hstamp _ _ hdecode⟩
  rw [hsort] at hfront hback
  refine ⟨values', values'', rfl, rfl, fun y hy => ?_, fun y hy => ?_⟩
  · obtain ⟨other, hother, hy⟩ := hrow hfront' y hy
    exact (isLE_compareRows_iff hy (hstamp _ _ hdecode)).1 (hfront other hother)
  · obtain ⟨other, hother, hy⟩ := hrow hback' y hy
    rw [← isLE_compareRows_iff hy (hstamp _ _ hdecode), (isLE_eq_false_iff ..).2 (hback other hother)]
    exact Bool.false_ne_true

namespace Endpoint

/-! ## Lookups without a failure -/

section Lookups

variable {tables : Tables} {reader : Agent} {boardId taskId : String} (hreadable : tables.Readable)
  (hquiet : tables.fault? = none) (hpermits : Permits reader boardId)

theorem requireAccess_of_permits {resource : Resource} (hpermits : Permits reader boardId)
    (hboard : resource.board? = some boardId) : reader.requireAccess resource = .ok () := by
  rcases haccess : reader.requireAccess resource with cause | _
  · exact absurd hpermits (boundElsewhere_iff.1 ((requireAccess_error_iff hboard).1 ⟨cause, haccess⟩))
  · rfl

include hreadable hquiet hpermits

theorem run_boardFor (source : Entropy) (hhas : tables.Has "boards" boardId) : ∃ board, board.id = boardId ∧
    (boardFor reader boardId).run store tables source = (.ok board, tables.noting [boardTrip], source) := by
  rcases run_findBoard hreadable hquiet source boardId with ⟨board, hid, -, hrun⟩ | ⟨hnot, -⟩
  · refine ⟨board, hid, ?_⟩
    show (findBoard boardId >>= fun board => liftM (reader.requireAccess board.resource) >>= fun _ => pure board :
      Serving Board).run store _ _ = _
    rw [run_bind, hrun]
    dsimp only
    rw [requireAccess_of_permits hpermits (congrArg some hid)]
    rfl
  · exact absurd hhas hnot

theorem run_taskFor (source : Entropy) (hhas : tables.Has "boards" boardId)
    (hplaced : tables.Places "tasks" taskId (some boardId)) : ∃ task, task.id = taskId ∧
      (taskFor reader boardId taskId).run store tables source =
        (.ok task, tables.noting [boardTrip, taskTrip], source) := by
  obtain ⟨task, hrun⟩ : ∃ task, (taskFor reader boardId taskId).run store tables source =
      (.ok task, tables.noting [boardTrip, taskTrip], source) := by
    rcases run_findBoard hreadable hquiet source boardId with ⟨board, rfl, -, hboard⟩ | ⟨hnot, -⟩
    · have hreadable' : (tables.noting [boardTrip]).Readable := hreadable
      rcases run_findTask hreadable' hquiet source board taskId with ⟨task, hplace, -, htask⟩ | ⟨hnot, -⟩
      · refine ⟨task, ?_⟩
        show (findBoard board.id >>= fun board => findTask board taskId >>= fun task =>
          liftM (reader.requireAccess task.resource) >>= fun _ => pure task : Serving Task).run store _ _ = _
        rw [run_bind, hboard]
        dsimp only
        rw [run_bind, htask]
        dsimp only
        rw [requireAccess_of_permits hpermits hplace, noting_noting]
        rfl
      · exact absurd hplaced hnot
    · exact absurd hhas hnot
  obtain ⟨writes, ⟨-, -, -, -, hid, -⟩, -⟩ :=
    (@taskFor_grounds (fun _ _ => True) reader tables boardId taskId).committed rfl (fun _ _ => trivial) hrun
  exact ⟨task, hid, hrun⟩

end Lookups

/-- A task is found on a board that exists. -/
theorem has_of_run_taskFor {tables : Tables} {actor : Agent} {boardId taskId : String} {α : Type} {x : α}
    {next : Task → Serving α} (hreadable : tables.Readable) (hquiet : tables.fault? = none) {source : Entropy}
    (h : ((taskFor actor boardId taskId >>= next).run store tables source).1 = .ok x) :
    tables.Has "boards" boardId := by
  rcases run_findBoard hreadable hquiet source boardId with ⟨-, -, hhas, -⟩ | ⟨-, hmissed⟩
  · exact hhas
  · rw [run_bind, taskFor, run_bind] at h
    rcases hrun : (findBoard boardId).run store tables source with ⟨result, after, rest⟩
    rw [hrun] at hmissed h
    cases hmissed
    cases h

/-! ## Listings -/

/-- The plan of all approvals of a board. -/
def approvalsPlan (boardId : String) : Plan :=
  ⟨Approval.schema, [.equals "board_id" (.string boardId)], [⟨"created_at", .descending⟩], none, none⟩

/-- The plan of a page of the memory of a board. -/
def memoryPlan (boardId : String) (page : Page) : Plan :=
  ⟨MemoryEntry.schema, [.equals "board_id" (.string boardId)], [⟨"created_at", .descending⟩], some page.limit,
    some page.offset⟩

/-- The plan of the comments on a task. -/
def commentsPlan (taskId : String) : Plan :=
  ⟨TaskComment.schema, [.equals "task_id" (.string taskId)], [⟨"created_at", .ascending⟩], none, none⟩

theorem run_shown {α β : Type} {model : Model α} (plan : Plan) (view : List α → β) (tables : Tables)
    (source : Entropy) :
    (((liftM (model.all plan) : Serving (List α)) >>= fun xs => pure (view xs)).run store tables source).1 =
      (((model.all plan).run store tables source).1.mapError Failure.query).map view := by
  show (((model.all plan).mapError Failure.query >>= fun xs => pure (view xs) : Serving β).run store _ _).1 = _
  rw [run_return, run_mapError]

section Runs

variable {tables : Tables} {reader : Agent} {boardId taskId : String} (hreadable : tables.Readable)
  (hquiet : tables.fault? = none) (hpermits : Permits reader boardId) (hhas : tables.Has "boards" boardId)
  (source : Entropy)
include hreadable hquiet hpermits hhas

theorem run_listApprovals : ((listApprovals reader boardId none).run store tables source).1 =
    (((Approval.model.all (approvalsPlan boardId)).run store (tables.noting [boardTrip]) source).1.mapError
      Failure.query).map (List.map Approval.view) := by
  obtain ⟨board, rfl, hboard⟩ := run_boardFor hreadable hquiet hpermits source hhas
  show ((boardFor reader board.id >>= fun board => approvalsOfBoard board none).run store _ _).1 = _
  rw [run_bind, hboard]
  exact run_shown (approvalsPlan board.id) (List.map Approval.view) _ _

theorem run_listMemory (page : Page) : ((listMemory reader boardId page).run store tables source).1 =
    (((MemoryEntry.model.all (memoryPlan boardId page)).run store (tables.noting [boardTrip]) source).1.mapError
      Failure.query).map (List.map MemoryEntry.view) := by
  obtain ⟨board, rfl, hboard⟩ := run_boardFor hreadable hquiet hpermits source hhas
  show ((boardFor reader board.id >>= fun board => memoryOfBoard board page).run store _ _).1 = _
  rw [run_bind, hboard]
  exact run_shown (memoryPlan board.id page) (List.map MemoryEntry.view) _ _

theorem run_listTaskComments (hplaced : tables.Places "tasks" taskId (some boardId)) :
    ((listTaskComments reader boardId taskId).run store tables source).1 =
      ((TaskComment.model.all (commentsPlan taskId)).run store (tables.noting [boardTrip, taskTrip]) source).1.mapError
        Failure.query := by
  obtain ⟨task, rfl, htask⟩ := run_taskFor hreadable hquiet hpermits source hhas hplaced
  show ((taskFor reader boardId task.id >>= fun task => _ : Serving _).run store _ _).1 = _
  rw [run_bind, htask]
  exact congrArg Prod.fst (run_mapError store Failure.query (TaskComment.model.all (commentsPlan task.id)) _ _)

end Runs

/-! ## Stamps -/

theorem createdAt_of_approval {row : Record} {approval : Approval} (h : Approval.ofRecord? row = some approval) :
    row.text? "created_at" = some approval.createdAt := by
  simp only [Approval.ofRecord?, Option.bind_eq_bind, Option.bind_eq_some_iff, Option.pure_def, Option.some.injEq] at h
  grind

theorem createdAt_of_memory {row : Record} {entry : MemoryEntry} (h : MemoryEntry.ofRecord? row = some entry) :
    row.text? "created_at" = some entry.createdAt := by
  simp only [MemoryEntry.ofRecord?, Option.bind_eq_bind, Option.bind_eq_some_iff, Option.pure_def,
    Option.some.injEq] at h
  grind

theorem createdAt_of_comment {row : Record} {comment : TaskComment} (h : TaskComment.ofRecord? row = some comment) :
    row.text? "created_at" = some comment.createdAt := by
  simp only [TaskComment.ofRecord?, Option.bind_eq_bind, Option.bind_eq_some_iff, Option.pure_def,
    Option.some.injEq] at h
  grind

/-! ## What is shown as it was sent -/

/-- A payload that was sent is shown as it was sent. -/
theorem payload?_shown {payload? : Option Json}
    (h : ∀ value, payload? = some value → Json.Plain Json.depthLimit value) :
    (payload?.map Json.render).bind Json.parse? = payload? := by
  rcases payload? with _ | value
  · rfl
  · exact (Json.parse?_render value).trans (h value rfl).reread

/-- Tags that were sent are shown as they were sent. -/
theorem tags_shown (tags? : Option (List String)) :
    (((tags?.map fun tags => (Json.ofTexts tags).render).bind Json.parse?).bind Json.texts?).getD [] =
      tags?.getD [] := by
  rcases tags? with _ | tags
  · rfl
  · have hplain : Json.Plain Json.depthLimit (Json.ofTexts tags) := .array (by
      rw [List.forall_mem_map]
      exact fun tag _ => .string tag)
    have htexts : (tags.map Json.string).mapM Json.text? = some tags := by
      rw [Model.mapM_eq_some_iff, List.map_map]
      rfl
    rw [Option.map_some, Option.bind_some, Json.parse?_render, hplain.reread]
    exact congrArg (·.getD []) htexts

/-! ## What an addition leaves -/

/-- A request that has ended with a reply had its grounds, and has carried out its writes. -/
theorem Request.grounds_of_run {s after : Tables} {actor : Agent} {source rest : Entropy} (request : Request)
    {reply : request.Reply} (hquiet : s.fault? = none)
    (h : request.run actor s source = (.ok reply, after, rest)) : after.fault? = none ∧ ∃ writes,
      request.Grounds (fun _ _ => True) actor s reply writes ∧ after.rows = (writes.foldl carryOut s).rows := by
  have hafter := run_quiet (request.serve actor) hquiet source
  rw [show (request.serve actor).run store s source = _ from h] at hafter
  obtain ⟨writes, ⟨-, hgrounds⟩, hrows⟩ :=
    (@serve_grounds (fun _ _ => True) actor s request).committed rfl (fun _ _ => trivial) h
  exact ⟨hafter, writes, hgrounds, hrows⟩

/-- Tables that a request has left with one row of a board more. -/
structure Added (entity : Entity) (boardId id : String) (row : Record) (s t : Tables) : Prop where
  before : s.Readable
  on : RowOn entity boardId id row
  rows : t.rows = (s.carryOut ⟨.insert, entity.model.schema, row⟩).rows
  quiet : s.fault? = none
  quiet' : t.fault? = none

namespace Added

variable {entity : Entity} {boardId id otherId taskId : String} {row : Record} {s t : Tables} {reader : Agent}

theorem readable (h : Added entity boardId id row s t) : t.Readable := by
  unfold Tables.Readable
  rw [h.rows]
  exact readable_added h.on h.before

theorem appended (h : Added entity boardId id row s t) : t.rows entity.table = s.rows entity.table ++ [row] := by
  rw [h.rows, rows_added]

theorem others (h : Added entity boardId id row s t) {other : Entity} (hother : other ≠ entity) :
    t.rows other.table = s.rows other.table := by
  rw [h.rows, rows_of_other hother]

theorem boards (h : Added entity boardId id row s t) (hother : Entity.board ≠ entity) (hhas : s.Has "boards" otherId) :
    t.Has "boards" otherId := by
  unfold Tables.Has
  rw [← Entity.table_board, h.others hother]
  exact hhas

variable (hpermits : Permits reader boardId) (hhas : s.Has "boards" boardId) (later again : Entropy)
include hpermits hhas

theorem listApprovals_gains {approval : Approval} (h : Added .approval boardId id approval.record s t)
    (hdecode : Approval.ofRecord? approval.record = some approval) :
    Gains .descending ApprovalView.createdAt approval.view ((listApprovals reader boardId none).run store s later).1
      ((listApprovals reader boardId none).run store t again).1 := by
  rw [run_listApprovals h.before h.quiet hpermits hhas, run_listApprovals h.readable h.quiet' hpermits
    (h.boards (by decide) hhas)]
  have hgains := Model.all_gains Approval.model (approvalsPlan boardId) (s := s.noting [boardTrip])
    (t := t.noting [boardTrip]) h.quiet h.quiet' rfl rfl rfl rfl nofun (fun _ _ => createdAt_of_approval)
    (h.before .approval) h.appended ((meets_singleton rfl).2 h.on.board) hdecode later again
  exact (hgains.mapError _).map Approval.view fun _ => rfl

/-- A page that has room for every row is the whole listing. -/
theorem listMemory_gains {entry : MemoryEntry} (h : Added .memory boardId id entry.record s t)
    (hroom : (s.rows "board_memory").length < unsignedMax) :
    Gains .descending MemoryEntryView.createdAt entry.view
      ((listMemory reader boardId ⟨unsignedMax, 0⟩).run store s later).1
      ((listMemory reader boardId ⟨unsignedMax, 0⟩).run store t again).1 := by
  rw [run_listMemory h.before h.quiet hpermits hhas, run_listMemory h.readable h.quiet' hpermits
    (h.boards (by decide) hhas)]
  have hgains := Model.all_gains MemoryEntry.model (memoryPlan boardId ⟨unsignedMax, 0⟩) (s := s.noting [boardTrip])
    (t := t.noting [boardTrip]) h.quiet h.quiet' rfl rfl rfl rfl (fun _ hlimit => Option.some.inj hlimit ▸ hroom)
    (fun _ _ => createdAt_of_memory) (h.before .memory) h.appended ((meets_singleton rfl).2 h.on.board)
    entry.ofRecord?_record later again
  exact (hgains.mapError _).map MemoryEntry.view fun _ => rfl

theorem listTaskComments_gains {comment : TaskComment} (h : Added .comment boardId id comment.record s t)
    (hplaced : s.Places "tasks" comment.taskId (some boardId)) :
    Gains .ascending TaskComment.createdAt comment
      ((listTaskComments reader boardId comment.taskId).run store s later).1
      ((listTaskComments reader boardId comment.taskId).run store t again).1 := by
  have hplaced' : t.Places "tasks" comment.taskId (some boardId) := by
    unfold Tables.Places
    rw [← Entity.table_task, h.others (by decide)]
    exact hplaced
  rw [run_listTaskComments h.before h.quiet hpermits hhas _ hplaced, run_listTaskComments h.readable h.quiet' hpermits
    (h.boards (by decide) hhas) _ hplaced']
  have hgains := Model.all_gains TaskComment.model (commentsPlan comment.taskId)
    (s := s.noting [boardTrip, taskTrip]) (t := t.noting [boardTrip, taskTrip]) h.quiet h.quiet' rfl rfl rfl rfl nofun
    (fun _ _ => createdAt_of_comment) (h.before .comment) h.appended ((meets_singleton rfl).2 rfl)
    comment.ofRecord?_record later again
  exact hgains.mapError _

end Added

/-! ## Additions and listings -/

section Additions

variable {s after : Tables} (hreadable : s.Readable) (hquiet : s.fault? = none) {reader actor : Agent}
  {boardId : String} (hpermits : Permits reader boardId) {source rest : Entropy} (later again : Entropy)
include hreadable hquiet hpermits

/-- An approval that is created shows the payload that was sent, and is listed from then on. -/
theorem createApproval_gains {payload : NewApproval} {now : String} {view : ApprovalView}
    (hplain : ∀ value, payload.payload? = some value → Json.Plain Json.depthLimit value)
    (hrun : (createApproval actor boardId payload now).run store s source = (.ok view, after, rest)) :
    view.payload? = payload.payload? ∧ Gains .descending ApprovalView.createdAt view
      ((listApprovals reader boardId none).run store s later).1
      ((listApprovals reader boardId none).run store after again).1 := by
  obtain ⟨hafter, writes, ⟨-, approval, hboard, -, hlo, hhi, -, -, happroval, rfl, rfl⟩, hrows⟩ :=
    Request.grounds_of_run (.createApproval boardId payload now) hquiet hrun
  have hpayload : approval.payload? = payload.payload?.map Json.render := by rw [happroval]
  have hplace : approval.boardId = boardId := by rw [happroval]
  have hconfidence : approval.confidence = payload.confidence := by rw [happroval]
  rw [← hconfidence] at hlo hhi
  subst hplace
  have hadded : Added .approval approval.boardId approval.id approval.record s after :=
    ⟨hreadable, Approval.rowOn hlo hhi, hrows, hquiet, hafter⟩
  constructor
  · exact (congrArg (·.bind Json.parse?) hpayload).trans (payload?_shown hplain)
  · exact hadded.listApprovals_gains hpermits hboard later again (Approval.ofRecord?_record_of_range hlo hhi)

/-- An entry of the memory that is created shows the tags that were sent, and is listed from then on. -/
theorem createMemory_gains {payload : NewMemoryEntry} {now : String} {view : MemoryEntryView}
    (hroom : (s.rows "board_memory").length < unsignedMax)
    (hrun : (createMemory actor boardId payload now).run store s source = (.ok view, after, rest)) :
    view.tags = payload.tags?.getD [] ∧ Gains .descending MemoryEntryView.createdAt view
      ((listMemory reader boardId ⟨unsignedMax, 0⟩).run store s later).1
      ((listMemory reader boardId ⟨unsignedMax, 0⟩).run store after again).1 := by
  obtain ⟨hafter, writes, ⟨-, entry, hboard, -, -, hentry, rfl, rfl⟩, hrows⟩ :=
    Request.grounds_of_run (.createMemory boardId payload now) hquiet hrun
  have htags : entry.tags? = payload.tags?.map fun tags => (Json.ofTexts tags).render := by rw [hentry]
  have hplace : entry.boardId = boardId := by rw [hentry]
  subst hplace
  have hadded : Added .memory entry.boardId entry.id entry.record s after :=
    ⟨hreadable, entry.rowOn, hrows, hquiet, hafter⟩
  constructor
  · rw [← tags_shown, ← htags]
    rfl
  · exact hadded.listMemory_gains hpermits hboard later again hroom

/-- A comment that is created is listed from then on. -/
theorem createTaskComment_gains {taskId : String} {payload : NewComment} {now : String} {comment : TaskComment}
    (hrun : (createTaskComment actor boardId taskId payload now).run store s source = (.ok comment, after, rest)) :
    Gains .ascending TaskComment.createdAt comment
      ((listTaskComments reader boardId taskId).run store s later).1
      ((listTaskComments reader boardId taskId).run store after again).1 := by
  obtain ⟨hafter, writes, ⟨-, task, message, id, ⟨⟨row, hrow, hdecode⟩, rfl, hboard⟩, -, -, rfl, rfl⟩, hrows⟩ :=
    Request.grounds_of_run (.createTaskComment boardId taskId payload now) hquiet hrun
  have hplaced : s.Places "tasks" task.id (some boardId) :=
    ⟨row, hrow, (Task.text?_of_ofRecord? hdecode).1, (Task.text?_of_ofRecord? hdecode).2.trans hboard⟩
  have hcomment := @TaskComment.rowOn ⟨id, task.id, task.boardId?, some actor.id, message, now⟩ boardId hboard
  have hhas := has_of_run_taskFor hreadable hquiet (congrArg Prod.fst hrun)
  exact (Added.mk hreadable hcomment hrows hquiet hafter).listTaskComments_gains hpermits hhas later again hplaced

end Additions

/-- A request that adds an approval, an entry of the memory or a comment is answered with what was sent, and with
what the listing of the board or task then has more: approvals and entries come behind those of the same time or a
later one, comments behind those of the same time or an earlier one, and all else is listed as before. The page that
lists the memory is the largest there is, and a table holds fewer rows. -/
theorem listings_gain {s : Tables} (hreadable : s.Readable) (hquiet : s.fault? = none) {reader : Agent}
    {boardId : String} (hpermits : Permits reader boardId) (actor : Agent) (source later again : Entropy) :
    (∀ payload now view after rest,
      (createApproval actor boardId payload now).run store s source = (.ok view, after, rest) →
      (∀ value, payload.payload? = some value → Json.Plain Json.depthLimit value) →
        view.payload? = payload.payload? ∧ Gains .descending ApprovalView.createdAt view
          ((listApprovals reader boardId none).run store s later).1
          ((listApprovals reader boardId none).run store after again).1) ∧
    (∀ payload now view after rest,
      (createMemory actor boardId payload now).run store s source = (.ok view, after, rest) →
      (s.rows "board_memory").length < unsignedMax →
        view.tags = payload.tags?.getD [] ∧ Gains .descending MemoryEntryView.createdAt view
          ((listMemory reader boardId ⟨unsignedMax, 0⟩).run store s later).1
          ((listMemory reader boardId ⟨unsignedMax, 0⟩).run store after again).1) ∧
    ∀ taskId payload now comment after rest,
      (createTaskComment actor boardId taskId payload now).run store s source = (.ok comment, after, rest) →
        Gains .ascending TaskComment.createdAt comment
          ((listTaskComments reader boardId taskId).run store s later).1
          ((listTaskComments reader boardId taskId).run store after again).1 := by
  refine ⟨fun payload now view after rest hrun hplain => ?_, fun payload now view after rest hrun hroom => ?_,
    fun taskId payload now comment after rest hrun => ?_⟩
  · exact createApproval_gains hreadable hquiet hpermits later again hplain hrun
  · exact createMemory_gains hreadable hquiet hpermits later again hroom hrun
  · exact createTaskComment_gains hreadable hquiet hpermits later again hrun

/-! ## A desk -/

/-- A board with its lead and one task, and nothing on it yet. -/
def desk : Tables where
  rows
    | "boards" => [Board.record ⟨"b1", "Home", "home", none, "", ""⟩]
    | "agents" => [lead.record]
    | "tasks" => [Task.record ⟨"t1", some "b1", "Tidy", none, .inbox, "high", none, none, "2024-01-01", "2024-01-01"⟩]
    | _ => []
  calls := []
  fault? := none

theorem readable_desk : desk.Readable := by
  intro entity row hrow
  cases entity with
  | board => exact List.mem_singleton.1 hrow ▸ ⟨_, rfl⟩
  | agent => exact List.mem_singleton.1 hrow ▸ ⟨lead, lead.ofRecord?_record⟩
  | task =>
    obtain rfl := List.mem_singleton.1 hrow
    exact ⟨_, Task.ofRecord?_record ⟨"t1", some "b1", "Tidy", none, .inbox, "high", none, none, "2024-01-01",
      "2024-01-01"⟩⟩
  | comment | approval | memory | session => exact absurd hrow (List.not_mem_nil)

theorem permits_lead : Permits lead "b1" :=
  permits_of_bound rfl

/-- The first approval, the first entry and the first comment on a desk are shown as they were sent. -/
theorem listings_gain_desk : desk.Readable ∧ desk.fault? = none ∧ Permits lead "b1" ∧
    (∃ view after rest, (createApproval lead "b1" ⟨"deploy", some (.array [.string "now", .int 7]), 90, none, some "t1"⟩
        "2024-01-02").run store desk .counting = (.ok view, after, rest) ∧
      view.payload? = some (.array [.string "now", .int 7]) ∧ Gains .descending ApprovalView.createdAt view
        ((listApprovals lead "b1" none).run store desk .counting).1
        ((listApprovals lead "b1" none).run store after .counting).1) ∧
    (∃ view after rest, (createMemory lead "b1" ⟨"Keys are under the mat", some ["keys", "a \"mat\""], none⟩
        "2024-01-02").run store desk .counting = (.ok view, after, rest) ∧
      (desk.rows "board_memory").length < unsignedMax ∧
      view.tags = ["keys", "a \"mat\""] ∧ Gains .descending MemoryEntryView.createdAt view
        ((listMemory lead "b1" ⟨unsignedMax, 0⟩).run store desk .counting).1
        ((listMemory lead "b1" ⟨unsignedMax, 0⟩).run store after .counting).1) ∧
    ∃ comment after rest, (createTaskComment lead "b1" "t1" ⟨"Done"⟩ "2024-01-02").run store desk .counting =
        (.ok comment, after, rest) ∧
      Gains .ascending TaskComment.createdAt comment
        ((listTaskComments lead "b1" "t1").run store desk .counting).1
        ((listTaskComments lead "b1" "t1").run store after .counting).1 := by
  obtain ⟨happrovals, hmemory, hcomments⟩ :=
    listings_gain readable_desk rfl permits_lead lead .counting .counting .counting
  obtain ⟨approval, after, rest, hrun⟩ := @exists_run_eq _ _
    (createApproval lead "b1" ⟨"deploy", some (.array [.string "now", .int 7]), 90, none, some "t1"⟩ "2024-01-02")
    desk .counting (by decide +kernel)
  obtain ⟨entry, after', rest', hrun'⟩ := @exists_run_eq _ _
    (createMemory lead "b1" ⟨"Keys are under the mat", some ["keys", "a \"mat\""], none⟩ "2024-01-02") desk .counting
    (by decide +kernel)
  obtain ⟨comment, after'', rest'', hrun''⟩ := @exists_run_eq _ _
    (createTaskComment lead "b1" "t1" ⟨"Done"⟩ "2024-01-02") desk .counting (by decide +kernel)
  have hplain : Json.Plain Json.depthLimit (.array [.string "now", .int 7]) :=
    .array (by simpa using ⟨.string "now", .int (by decide) (by decide)⟩)
  refine ⟨readable_desk, rfl, permits_lead, ⟨approval, after, rest, hrun, ?_⟩,
    ⟨entry, after', rest', hrun', by decide, ?_⟩, comment, after'', rest'', hrun'', hcomments _ _ _ _ _ _ hrun''⟩
  · exact happrovals _ _ _ _ _ hrun fun value hvalue => Option.some.inj hvalue ▸ hplain
  · exact hmemory _ _ _ _ _ hrun' (by decide)

end Endpoint

end Taskboard
