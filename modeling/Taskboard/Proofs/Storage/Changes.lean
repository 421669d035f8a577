/-
Rows replaced and rows added on a board. A row of a board that takes the place of a row of that board
with the same identifier changes the identifier and the board of no row, so identifiers stay unique and
rows of other boards stay as they are. A row that is added with a new identifier leaves them unique as
well.
-/
import Taskboard.Proofs.Storage.Entities

namespace Taskboard

/-- A row that has an identifier, is placed on a board, and stands for an entity. -/
structure RowOn (entity : Entity) (board id : String) (row : Record) : Prop where
  id : row.text? "id" = some id
  board : row.text? "board_id" = some board
  reads : entity.Reads row

/-! ## Rows that are written -/

theorem Task.rowOn {task : Task} {board : String} (h : task.boardId? = some board) :
    RowOn .task board task.id task.record :=
  ⟨rfl, (Record.text?_of_lookup rfl).trans h, task, task.ofRecord?_record⟩

theorem TaskComment.rowOn {comment : TaskComment} {board : String} (h : comment.boardId? = some board) :
    RowOn .comment board comment.id comment.record :=
  ⟨rfl, (Record.text?_of_lookup rfl).trans h, comment, comment.ofRecord?_record⟩

theorem Agent.rowOn {agent : Agent} {board : String} (h : agent.boardId? = some board) :
    RowOn .agent board agent.id agent.record :=
  ⟨rfl, (Record.text?_of_lookup rfl).trans h, agent, agent.ofRecord?_record⟩

/-- A confidence in the range that callers may give fits into 64 bits. -/
theorem Approval.ofRecord?_record_of_range {approval : Approval} (hlo : 0 ≤ approval.confidence)
    (hhi : approval.confidence ≤ 100) : Approval.ofRecord? approval.record = some approval :=
  Approval.ofRecord?_record (by unfold signedMin; omega) (by unfold signedMax; omega)

theorem Approval.rowOn {approval : Approval} (hlo : 0 ≤ approval.confidence) (hhi : approval.confidence ≤ 100) :
    RowOn .approval approval.boardId approval.id approval.record :=
  ⟨rfl, rfl, approval, ofRecord?_record_of_range hlo hhi⟩

theorem MemoryEntry.rowOn (entry : MemoryEntry) : RowOn .memory entry.boardId entry.id entry.record :=
  ⟨rfl, rfl, entry, entry.ofRecord?_record⟩

theorem OnboardingSession.rowOn (session : OnboardingSession) :
    RowOn .session session.boardId session.id session.record :=
  ⟨rfl, rfl, session, session.ofRecord?_record⟩

/-- A stored row, or another in its place if it has an identifier. -/
def Record.replacedBy (id : String) (row stored : Record) : Record :=
  if stored.text? "id" = some id then row else stored

theorem Record.id_replacedBy {id : String} {row : Record} (hrow : row.text? "id" = some id) (stored : Record) :
    (Record.replacedBy id row stored).text? "id" = stored.text? "id" := by
  unfold replacedBy
  split
  · rename_i hstored
    exact hrow.trans hstored.symm
  · rfl

namespace Tables

variable {tables : Tables} {entity : Entity} {board id : String} {row : Record}

theorem rows_of_other {kind : WriteKind} {other : Entity} (h : other ≠ entity) :
    (tables.carryOut ⟨kind, entity.model.schema, row⟩).rows other.table = tables.rows other.table :=
  rows_carryOut_of_ne (mt Entity.table_injective h)

/-! ## Replaced rows -/

/-- An update puts its row in the place of the row with the identifier. -/
theorem rows_updated (hunique : tables.UniqueIds) (hid : row.text? "id" = some id) :
    (tables.carryOut ⟨.update, entity.model.schema, row⟩).rows entity.table =
      (tables.rows entity.table).map (Record.replacedBy id row) := by
  have hrows := @rows_carryOut_update tables entity.model.schema row id (by rw [entity.idField_eq, hid])
  rw [entity.idField_eq] at hrows
  exact hrows.trans (replaceFirst_eq_map (hunique entity))

section Replaced

variable (hunique : tables.UniqueIds) (hplace : tables.Places entity.table id (some board))
include hunique hplace

/-- The stored row with the identifier is on the board. -/
theorem board_of_id {stored : Record} (hstored : stored ∈ tables.rows entity.table)
    (hid : stored.text? "id" = some id) : stored.text? "board_id" = some board := by
  obtain ⟨old, hold, hkey, hboard⟩ := hplace
  rw [eq_of_nodup_filterMap (hunique entity) hold hstored hkey hid]
  exact hboard

variable (hrow : RowOn entity board id row)
include hrow

omit hplace in
theorem rows_replaced : (tables.carryOut ⟨.update, entity.model.schema, row⟩).rows entity.table =
    (tables.rows entity.table).map (Record.replacedBy id row) :=
  rows_updated hunique hrow.id

/-- No row gets another identifier or moves to another board. -/
theorem text?_replacedBy {stored : Record} (hstored : stored ∈ tables.rows entity.table) :
    (Record.replacedBy id row stored).text? "id" = stored.text? "id" ∧
      (Record.replacedBy id row stored).text? "board_id" = stored.text? "board_id" := by
  refine ⟨Record.id_replacedBy hrow.id stored, ?_⟩
  unfold Record.replacedBy
  split
  · rename_i hid
    exact hrow.board.trans (board_of_id hunique hplace hstored hid).symm
  · rfl

theorem ids_replaced (other : Entity) :
    ((tables.carryOut ⟨.update, entity.model.schema, row⟩).rows other.table).filterMap (·.text? "id") =
      (tables.rows other.table).filterMap (·.text? "id") := by
  -- Only the table of the row changes, and there every row keeps its identifier.
  by_cases hother : other = entity
  · subst hother
    rw [rows_replaced hunique hrow, List.filterMap_map]
    exact List.filterMap_congr fun stored hstored => (text?_replacedBy hunique hplace hrow hstored).1
  · rw [rows_of_other hother]

theorem uniqueIds_replaced : (tables.carryOut ⟨.update, entity.model.schema, row⟩).UniqueIds := fun other => by
  rw [ids_replaced hunique hplace hrow other]
  exact hunique other

theorem places_replaced {other : Entity} {otherId : String} {board? : Option String} :
    (tables.carryOut ⟨.update, entity.model.schema, row⟩).Places other.table otherId board? ↔
      tables.Places other.table otherId board? := by
  unfold Places
  by_cases hother : other = entity
  · subst hother
    rw [rows_replaced hunique hrow]
    constructor
    · rintro ⟨_, hmem, hid, hboard⟩
      obtain ⟨stored, hstored, rfl⟩ := List.mem_map.1 hmem
      obtain ⟨hsameId, hsameBoard⟩ := text?_replacedBy hunique hplace hrow hstored
      exact ⟨stored, hstored, hsameId.symm.trans hid, hsameBoard.symm.trans hboard⟩
    · rintro ⟨stored, hstored, hid, hboard⟩
      obtain ⟨hsameId, hsameBoard⟩ := text?_replacedBy hunique hplace hrow hstored
      exact ⟨_, List.mem_map_of_mem hstored, hsameId.trans hid, hsameBoard.trans hboard⟩
  · rw [rows_of_other hother]

theorem isNew_replaced {newId : String} (hnew : tables.IsNew newId) :
    (tables.carryOut ⟨.update, entity.model.schema, row⟩).IsNew newId := by
  intro other hhas
  obtain ⟨board?, hplace'⟩ := has_iff_places.1 hhas
  exact hnew other ((places_replaced hunique hplace hrow).1 hplace').has

/-- Rows that are picked by their board are the same rows, each replaced in its place. -/
theorem filter_replaced (test : Option String → Bool) :
    ((tables.carryOut ⟨.update, entity.model.schema, row⟩).rows entity.table).filter
        (fun stored => test (stored.text? "board_id")) =
      ((tables.rows entity.table).filter fun stored => test (stored.text? "board_id")).map
        (Record.replacedBy id row) := by
  rw [rows_replaced hunique hrow, List.filter_map]
  congr 1
  refine List.filter_congr fun stored hstored => ?_
  rw [Function.comp_apply, (text?_replacedBy hunique hplace hrow hstored).2]

/-- Rows of other boards stay as they are. -/
theorem filter_replaced_elsewhere (test : Option String → Bool) (htest : test (some board) = false) :
    ((tables.carryOut ⟨.update, entity.model.schema, row⟩).rows entity.table).filter
        (fun stored => test (stored.text? "board_id")) =
      (tables.rows entity.table).filter fun stored => test (stored.text? "board_id") := by
  rw [filter_replaced hunique hplace hrow]
  -- A row elsewhere does not have the identifier, for the row that has it is on the board.
  refine (List.map_congr_left fun stored hstored => ?_).trans (List.map_id' _)
  obtain ⟨hmem, hpassed⟩ := List.mem_filter.1 hstored
  refine if_neg fun hid => ?_
  rw [board_of_id hunique hplace hmem hid, htest] at hpassed
  cases hpassed

omit hplace in
theorem readable_replaced (hreadable : tables.Readable) :
    (tables.carryOut ⟨.update, entity.model.schema, row⟩).Readable := by
  intro other stored hstored
  by_cases hother : other = entity
  · subst hother
    rw [rows_replaced hunique hrow] at hstored
    obtain ⟨old, hold, rfl⟩ := List.mem_map.1 hstored
    unfold Record.replacedBy
    split
    · exact hrow.reads
    · exact hreadable other old hold
  · rw [rows_of_other hother] at hstored
    exact hreadable other stored hstored

end Replaced

/-! ## Added rows -/

section Added

theorem rows_added : (tables.carryOut ⟨.insert, entity.model.schema, row⟩).rows entity.table =
    tables.rows entity.table ++ [row] :=
  rows_carryOut_insert

variable (hrow : RowOn entity board id row)
include hrow

theorem uniqueIds_added (hunique : tables.UniqueIds) (hnew : ¬ tables.Has entity.table id) :
    (tables.carryOut ⟨.insert, entity.model.schema, row⟩).UniqueIds := by
  intro other
  by_cases hother : other = entity
  · subst hother
    rw [rows_added]
    refine nodup_filterMap_concat (hunique other) fun key hkey stored hstored hsame => ?_
    exact hnew ⟨stored, hstored, hsame.trans (hkey.symm.trans hrow.id)⟩
  · rw [rows_of_other hother]
    exact hunique other

/-- Besides the rows there were, the added one is found by its identifier and board. -/
theorem places_added {other : Entity} {otherId : String} {board? : Option String} :
    (tables.carryOut ⟨.insert, entity.model.schema, row⟩).Places other.table otherId board? ↔
      tables.Places other.table otherId board? ∨ (other = entity ∧ otherId = id ∧ board? = some board) := by
  unfold Places
  by_cases hother : other = entity
  · subst hother
    rw [rows_added]
    constructor
    · rintro ⟨stored, hstored, hid, hboard⟩
      rcases List.mem_append.1 hstored with hstored | hstored
      · exact .inl ⟨stored, hstored, hid, hboard⟩
      · obtain rfl := List.mem_singleton.1 hstored
        exact .inr ⟨rfl, Option.some.inj (hid.symm.trans hrow.id), hboard.symm.trans hrow.board⟩
    · rintro (⟨stored, hstored, hid, hboard⟩ | ⟨-, rfl, rfl⟩)
      · exact ⟨stored, List.mem_append_left _ hstored, hid, hboard⟩
      · exact ⟨row, List.mem_append_right _ (List.mem_singleton.2 rfl), hrow.id, hrow.board⟩
  · rw [rows_of_other hother]
    simp only [hother, false_and, or_false]

/-- Rows of other boards stay as they are. -/
theorem filter_added_elsewhere (test : Option String → Bool) (htest : test (some board) = false) :
    ((tables.carryOut ⟨.insert, entity.model.schema, row⟩).rows entity.table).filter
        (fun stored => test (stored.text? "board_id")) =
      (tables.rows entity.table).filter fun stored => test (stored.text? "board_id") := by
  rw [rows_added, List.filter_append, List.filter_singleton, hrow.board, htest]
  exact List.append_nil _

theorem readable_added (hreadable : tables.Readable) :
    (tables.carryOut ⟨.insert, entity.model.schema, row⟩).Readable := by
  intro other stored hstored
  by_cases hother : other = entity
  · subst hother
    rw [rows_added] at hstored
    rcases List.mem_append.1 hstored with hstored | hstored
    · exact hreadable other stored hstored
    · obtain rfl := List.mem_singleton.1 hstored
      exact hrow.reads
  · rw [rows_of_other hother] at hstored
    exact hreadable other stored hstored

end Added

end Tables

end Taskboard
