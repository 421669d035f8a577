/-
The constraints that the tables are declared with. Identifiers and keys are unique; a column that refers
to a row of another table finds one; status words and confidences are in range; and what is said about a
task is placed on the board of the task. Tables in memory check none of this, but growth keeps it as long
as each written row meets its own constraints (`Constrained.grown`).
-/
import Taskboard.Proofs.Storage.Growth

namespace Taskboard

/-! ## Declarations -/

namespace Entity

/-- The columns of a kind that refer to rows of other tables, each with the kind that it refers to. -/
def references : Entity → List (String × Entity)
  | .board => []
  | .agent => [("board_id", .board)]
  | .task => [("board_id", .board), ("assigned_agent_id", .agent), ("created_by_agent_id", .agent)]
  | .comment => [("task_id", .task), ("board_id", .board), ("author_agent_id", .agent)]
  | .approval => [("board_id", .board), ("task_id", .task), ("agent_id", .agent)]
  | .memory => [("board_id", .board)]
  | .session => [("board_id", .board)]

/-- The words that the status of a kind may be, if there are such. -/
def statusWords? : Entity → Option (List String)
  | .task => some ["inbox", "in_progress", "review", "done"]
  | .approval => some ["pending", "approved", "rejected"]
  | .session => some ["active", "completed"]
  | .board | .comment | .agent | .memory => none

end Entity

/-- A row that meets the constraints of its table. -/
structure RowSound (tables : Tables) (entity : Entity) (row : Record) : Prop where
  reads : entity.Reads row
  references : ∀ reference ∈ entity.references, ∀ id, row.text? reference.1 = some id →
    tables.Has reference.2.table id
  status : ∀ words, entity.statusWords? = some words → ∃ word ∈ words, row.text? "status" = some word
  confidence : entity = .approval → ∃ n, row.integer? "confidence" = some n ∧ 0 ≤ n ∧ n ≤ 100
  /-- What is said about a task is placed on the board of the task. -/
  task : entity = .comment ∨ entity = .approval → ∀ id, row.text? "task_id" = some id →
    tables.Places "tasks" id (row.text? "board_id")

/-- A row goes on to meet its constraints when the tables grow. -/
theorem RowSound.mono {s t : Tables} {entity : Entity} {row : Record} (h : RowSound s entity row)
    (hextends : Tables.Extends s t) : RowSound t entity row where
  reads := h.reads
  references reference hreference id hid := hextends.has (h.references reference hreference id hid)
  status := h.status
  confidence := h.confidence
  task hkind id hid :=
    have hplace : s.Places Entity.task.table id (row.text? "board_id") := h.task hkind id hid
    hextends.places hplace

/-! ## Rows that are written -/

section Written

variable {tables : Tables}

theorem Task.rowSound {task : Task} (hboard : ∀ id, task.boardId? = some id → tables.Has "boards" id)
    (hassignee : ∀ id, task.assignee? = some id → tables.Has "agents" id)
    (hcreator : ∀ id, task.creator? = some id → tables.Has "agents" id) : RowSound tables .task task.record where
  reads := ⟨task, task.ofRecord?_record⟩
  references := by
    have hboard' : task.record.text? "board_id" = task.boardId? := Record.text?_of_lookup rfl
    have hassignee' : task.record.text? "assigned_agent_id" = task.assignee? := Record.text?_of_lookup rfl
    have hcreator' : task.record.text? "created_by_agent_id" = task.creator? := Record.text?_of_lookup rfl
    simpa [Entity.references, hboard', hassignee', hcreator'] using ⟨hboard, hassignee, hcreator⟩
  status words hwords := by
    cases hwords
    refine ⟨task.status.word, ?_, rfl⟩
    cases task.status <;> decide
  confidence h := by cases h
  task h := by rcases h with h | h <;> cases h

theorem TaskComment.rowSound {comment : TaskComment} (htask : tables.Places "tasks" comment.taskId comment.boardId?)
    (hboard : ∀ id, comment.boardId? = some id → tables.Has "boards" id)
    (hauthor : ∀ id, comment.author? = some id → tables.Has "agents" id) :
    RowSound tables .comment comment.record where
  reads := ⟨comment, comment.ofRecord?_record⟩
  references := by
    have htask' : comment.record.text? "task_id" = some comment.taskId := rfl
    have hboard' : comment.record.text? "board_id" = comment.boardId? := Record.text?_of_lookup rfl
    have hauthor' : comment.record.text? "author_agent_id" = comment.author? := Record.text?_of_lookup rfl
    simpa [Entity.references, htask', hboard', hauthor'] using ⟨htask.has, hboard, hauthor⟩
  status words h := by cases h
  confidence h := by cases h
  task := by
    rintro - id hid
    obtain rfl : comment.taskId = id := Option.some.inj hid
    rw [show comment.record.text? "board_id" = comment.boardId? from Record.text?_of_lookup rfl]
    exact htask

theorem Agent.rowSound {agent : Agent} (hboard : ∀ id, agent.boardId? = some id → tables.Has "boards" id) :
    RowSound tables .agent agent.record where
  reads := ⟨agent, agent.ofRecord?_record⟩
  references := by
    have hboard' : agent.record.text? "board_id" = agent.boardId? := Record.text?_of_lookup rfl
    simpa [Entity.references, hboard'] using hboard
  status words h := by cases h
  confidence h := by cases h
  task h := by rcases h with h | h <;> cases h

theorem Approval.rowSound {approval : Approval} (hlo : 0 ≤ approval.confidence) (hhi : approval.confidence ≤ 100)
    (hboard : tables.Has "boards" approval.boardId)
    (htask : ∀ id, approval.taskId? = some id → tables.Places "tasks" id (some approval.boardId))
    (hagent : ∀ id, approval.agentId? = some id → tables.Has "agents" id) :
    RowSound tables .approval approval.record where
  reads := ⟨approval, Approval.ofRecord?_record_of_range hlo hhi⟩
  references := by
    have hboard' : approval.record.text? "board_id" = some approval.boardId := rfl
    have htask' : approval.record.text? "task_id" = approval.taskId? := Record.text?_of_lookup rfl
    have hagent' : approval.record.text? "agent_id" = approval.agentId? := Record.text?_of_lookup rfl
    simpa [Entity.references, hboard', htask', hagent'] using ⟨hboard, fun id hid => (htask id hid).has, hagent⟩
  status words hwords := by
    cases hwords
    refine ⟨approval.status.word, ?_, rfl⟩
    cases approval.status <;> decide
  confidence _ := by
    refine ⟨approval.confidence, if_pos ?_, hlo, hhi⟩
    unfold signedMin signedMax
    constructor <;> omega
  task := by
    rintro - id hid
    have htask' : approval.record.text? "task_id" = approval.taskId? := Record.text?_of_lookup rfl
    exact htask id (htask'.symm.trans hid)

theorem MemoryEntry.rowSound {entry : MemoryEntry} (hboard : tables.Has "boards" entry.boardId) :
    RowSound tables .memory entry.record where
  reads := ⟨entry, entry.ofRecord?_record⟩
  references := by
    have hboard' : entry.record.text? "board_id" = some entry.boardId := rfl
    simpa [Entity.references, hboard'] using hboard
  status words h := by cases h
  confidence h := by cases h
  task h := by rcases h with h | h <;> cases h

theorem OnboardingSession.rowSound {session : OnboardingSession} (hboard : tables.Has "boards" session.boardId) :
    RowSound tables .session session.record where
  reads := ⟨session, session.ofRecord?_record⟩
  references := by
    have hboard' : session.record.text? "board_id" = some session.boardId := rfl
    simpa [Entity.references, hboard'] using hboard
  status words hwords := by
    cases hwords
    refine ⟨session.status.word, ?_, rfl⟩
    cases session.status <;> decide
  confidence h := by cases h
  task h := by rcases h with h | h <;> cases h

end Written

namespace Tables

variable {s t : Tables} {entity : Entity} {row : Record}

/-! ## Tables -/

/-- Tables that meet the constraints they are declared with. -/
structure Constrained (tables : Tables) : Prop where
  uniqueIds : tables.UniqueIds
  uniqueKeys : tables.UniqueKeys
  rows (entity : Entity) : ∀ row ∈ tables.rows entity.table, RowSound tables entity row

namespace Constrained

variable (h : s.Constrained)
include h

theorem congr (hrows : t.rows = s.rows) : t.Constrained where
  uniqueIds := h.uniqueIds.congr hrows
  uniqueKeys := h.uniqueKeys.congr hrows
  rows entity row hrow := (h.rows entity row (hrows ▸ hrow)).mono ((Extends.refl s).congr hrows)

/-- What a stored task refers to is there. -/
theorem task {task : Task} (hstored : ∃ row ∈ s.rows "tasks", Task.model.decode? (.object row) = some task) :
    (∀ id, task.boardId? = some id → s.Has "boards" id) ∧ (∀ id, task.assignee? = some id → s.Has "agents" id) ∧
      ∀ id, task.creator? = some id → s.Has "agents" id := by
  obtain ⟨row, hrow, hdecode⟩ := hstored
  have hrefers : ∀ {column : String} {target : Entity} {id? : Option String}, (column, target) ∈ Entity.task.references →
      row.value? column = id?.map .string → ∀ id, id? = some id → s.Has target.table id := by
    rintro column target _ hreference hcolumn id rfl
    exact (h.rows .task row hrow).references _ hreference id (Record.value?_eq_string_iff.1 hcolumn)
  have hcolumns := task.value?_of_ofRecord? hdecode
  refine ⟨hrefers (show ("board_id", .board) ∈ _ by decide) ?_,
    hrefers (show ("assigned_agent_id", .agent) ∈ _ by decide) ?_,
    hrefers (show ("created_by_agent_id", .agent) ∈ _ by decide) ?_⟩
  · exact (hcolumns "board_id" (by decide)).trans (Record.value?_of_lookup rfl)
  · exact (hcolumns "assigned_agent_id" (by decide)).trans (Record.value?_of_lookup rfl)
  · exact (hcolumns "created_by_agent_id" (by decide)).trans (Record.value?_of_lookup rfl)

/-- The board of a stored agent is there. -/
theorem agent {agent : Agent} (hstored : ∃ row ∈ s.rows "agents", Agent.model.decode? (.object row) = some agent) :
    ∀ id, agent.boardId? = some id → s.Has "boards" id := by
  obtain ⟨row, hrow, hdecode⟩ := hstored
  intro id hid
  have hboard := (Agent.text?_of_ofRecord? hdecode).2.trans hid
  exact (h.rows .agent row hrow).references ("board_id", .board) (by decide) id hboard

/-- Constraints are kept by growth whose rows meet their own and have new keys. -/
theorem grown {writes : List Write} (hgrows : Grows s writes) (hkeys : s.AddsNewKeys writes)
    (hsound : ∀ w ∈ writes, ∀ entity : Entity, entity.table = w.schema.table → RowSound s entity w.row) :
    (writes.foldl carryOut s).Constrained := by
  obtain ⟨hextends, hunique⟩ := hgrows.intact h.uniqueIds
  refine ⟨hunique, hgrows.uniqueKeys h.uniqueIds h.uniqueKeys hkeys, fun entity row hrow => ?_⟩
  rcases mem_of_mem_carryOuts hrow with hstored | ⟨w, hw, htable, rfl⟩
  · exact (h.rows entity row hstored).mono hextends
  · exact (hsound w hw entity htable).mono hextends

end Constrained

end Tables

end Taskboard
