/-
Entities and their rows. A row that stands for an entity has its identifier and its board in the
text columns of those names, and the row that is written for an entity reads back as that entity.
Seven kinds of entities are stored, each in a table of its own.
-/
import Taskboard.Access
import Taskboard.Proofs.Storage.Queries

namespace Taskboard

/-! ## Columns -/

namespace Record

variable {row : Record} {name : String} {s? : Option String}

theorem text?_of_lookup (h : row.lookup name = some (.ofText? s?)) : row.text? name = s? := by
  unfold text?
  rw [h]
  cases s? <;> rfl

theorem value?_of_lookup (h : row.lookup name = some (.ofText? s?)) : row.value? name = s?.map .string := by
  unfold value?
  rw [h]
  cases s? <;> rfl

theorem optionalText?_of_lookup (h : row.lookup name = some (.ofText? s?)) :
    row.optionalText? name = some s? := by
  unfold optionalText? optional? value?
  rw [h]
  cases s? <;> rfl

end Record

open Record

/-! ## Reading: identifiers and boards -/

theorem Board.text?_of_ofRecord? {row : Record} {board : Board} (h : Board.ofRecord? row = some board) :
    row.text? "id" = some board.id := by
  simp only [Board.ofRecord?, Option.bind_eq_bind, Option.bind_eq_some_iff, Option.pure_def, Option.some.injEq] at h
  grind

theorem Task.text?_of_ofRecord? {row : Record} {task : Task} (h : Task.ofRecord? row = some task) :
    row.text? "id" = some task.id ∧ row.text? "board_id" = task.boardId? := by
  simp only [Task.ofRecord?, Option.bind_eq_bind, Option.bind_eq_some_iff, Option.pure_def, Option.some.injEq] at h
  grind [text?_of_optionalText?]

theorem Agent.text?_of_ofRecord? {row : Record} {agent : Agent} (h : Agent.ofRecord? row = some agent) :
    row.text? "id" = some agent.id ∧ row.text? "board_id" = agent.boardId? := by
  simp only [Agent.ofRecord?, Option.bind_eq_bind, Option.bind_eq_some_iff, Option.pure_def, Option.some.injEq] at h
  grind [text?_of_optionalText?]

theorem OnboardingSession.text?_of_ofRecord? {row : Record} {session : OnboardingSession}
    (h : OnboardingSession.ofRecord? row = some session) :
    row.text? "id" = some session.id ∧ row.text? "board_id" = some session.boardId := by
  simp only [OnboardingSession.ofRecord?, Option.bind_eq_bind, Option.bind_eq_some_iff, Option.pure_def,
    Option.some.injEq] at h
  grind

/-! ## Reading: what lasts of a row -/

theorem Task.value?_of_ofRecord? {row : Record} {task : Task} (h : Task.ofRecord? row = some task) :
    ∀ column ∈ ["id", "board_id", "assigned_agent_id", "created_by_agent_id"],
      row.value? column = task.record.value? column := by
  simp only [Task.ofRecord?, Option.bind_eq_bind, Option.bind_eq_some_iff, Option.pure_def, Option.some.injEq] at h
  obtain ⟨id, hid, board?, hboard, title, -, description?, -, word, -, status, -, priority, -, assignee?, hassignee,
    creator?, hcreator, createdAt, -, updatedAt, -, rfl⟩ := h
  simp only [List.forall_mem_cons, List.not_mem_nil, false_implies, implies_true, and_true]
  refine ⟨value?_eq_string_iff.2 hid, ?_, ?_, ?_⟩
  · exact (value?_of_optionalText? hboard).trans (value?_of_lookup rfl).symm
  · exact (value?_of_optionalText? hassignee).trans (value?_of_lookup rfl).symm
  · exact (value?_of_optionalText? hcreator).trans (value?_of_lookup rfl).symm

theorem Agent.value?_of_ofRecord? {row : Record} {agent : Agent} (h : Agent.ofRecord? row = some agent) :
    ∀ column ∈ ["id", "board_id", "name", "agent_token_hash"], row.value? column = agent.record.value? column := by
  simp only [Agent.ofRecord?, Option.bind_eq_bind, Option.bind_eq_some_iff, Option.pure_def, Option.some.injEq] at h
  obtain ⟨id, hid, board?, hboard, name, hname, status, -, lead, -, token?, htoken, seen?, -, createdAt, -, updatedAt, -,
    rfl⟩ := h
  simp only [List.forall_mem_cons, List.not_mem_nil, false_implies, implies_true, and_true]
  refine ⟨value?_eq_string_iff.2 hid, ?_, value?_eq_string_iff.2 hname, ?_⟩
  · exact (value?_of_optionalText? hboard).trans (value?_of_lookup rfl).symm
  · exact (value?_of_optionalText? htoken).trans (value?_of_lookup rfl).symm

theorem OnboardingSession.value?_of_ofRecord? {row : Record} {session : OnboardingSession}
    (h : OnboardingSession.ofRecord? row = some session) :
    ∀ column ∈ ["id", "board_id"], row.value? column = session.record.value? column := by
  obtain ⟨hid, hboard⟩ := session.text?_of_ofRecord? h
  simp only [List.forall_mem_cons, List.not_mem_nil, false_implies, implies_true, and_true]
  exact ⟨value?_eq_string_iff.2 hid, value?_eq_string_iff.2 hboard⟩

/-! ## Reading back what was written -/

theorem TaskStatus.ofWord?_word (status : TaskStatus) : ofWord? status.word = some status := by
  cases status <;> rfl

theorem TaskStatus.ofWord?_eq_some_iff {word : String} {status : TaskStatus} :
    ofWord? word = some status ↔ word = status.word := by
  constructor
  · intro h
    unfold ofWord? at h
    split at h <;> cases h <;> rfl
  · rintro rfl
    exact ofWord?_word status

theorem ApprovalStatus.ofWord?_word (status : ApprovalStatus) : ofWord? status.word = some status := by
  cases status <;> rfl

theorem OnboardingStatus.ofWord?_word (status : OnboardingStatus) : ofWord? status.word = some status := by
  cases status <;> rfl

theorem Board.ofRecord?_record (board : Board) : Board.ofRecord? board.record = some board := by
  have hdescription : board.record.optionalText? "description" = some board.description? :=
    optionalText?_of_lookup rfl
  simp only [Board.ofRecord?, hdescription]
  rfl

theorem Task.ofRecord?_record (task : Task) : Task.ofRecord? task.record = some task := by
  have hboard : task.record.optionalText? "board_id" = some task.boardId? := optionalText?_of_lookup rfl
  have hdescription : task.record.optionalText? "description" = some task.description? :=
    optionalText?_of_lookup rfl
  have hassignee : task.record.optionalText? "assigned_agent_id" = some task.assignee? :=
    optionalText?_of_lookup rfl
  have hcreator : task.record.optionalText? "created_by_agent_id" = some task.creator? :=
    optionalText?_of_lookup rfl
  have hstatus : task.record.word? "status" = some task.status.word := rfl
  simp only [Task.ofRecord?, hboard, hdescription, hassignee, hcreator, hstatus, Option.bind_eq_bind,
    Option.bind_some, TaskStatus.ofWord?_word]
  rfl

theorem TaskComment.ofRecord?_record (comment : TaskComment) :
    TaskComment.ofRecord? comment.record = some comment := by
  have hboard : comment.record.optionalText? "board_id" = some comment.boardId? := optionalText?_of_lookup rfl
  have hauthor : comment.record.optionalText? "author_agent_id" = some comment.author? :=
    optionalText?_of_lookup rfl
  simp only [TaskComment.ofRecord?, hboard, hauthor]
  rfl

theorem Agent.ofRecord?_record (agent : Agent) : Agent.ofRecord? agent.record = some agent := by
  have hboard : agent.record.optionalText? "board_id" = some agent.boardId? := optionalText?_of_lookup rfl
  have htoken : agent.record.optionalText? "agent_token_hash" = some agent.tokenHash? :=
    optionalText?_of_lookup rfl
  have hseen : agent.record.optionalText? "last_seen_at" = some agent.lastSeenAt? := optionalText?_of_lookup rfl
  simp only [Agent.ofRecord?, hboard, htoken, hseen]
  rfl

/-- An approval reads back when its confidence fits into 64 bits. -/
theorem Approval.ofRecord?_record {approval : Approval} (hlo : signedMin ≤ approval.confidence)
    (hhi : approval.confidence ≤ signedMax) : Approval.ofRecord? approval.record = some approval := by
  have htask : approval.record.optionalText? "task_id" = some approval.taskId? := optionalText?_of_lookup rfl
  have hagent : approval.record.optionalText? "agent_id" = some approval.agentId? := optionalText?_of_lookup rfl
  have hpayload : approval.record.optionalText? "payload" = some approval.payload? := optionalText?_of_lookup rfl
  have hrationale : approval.record.optionalText? "rationale" = some approval.rationale? :=
    optionalText?_of_lookup rfl
  have hresolved : approval.record.optionalText? "resolved_at" = some approval.resolvedAt? :=
    optionalText?_of_lookup rfl
  have hconfidence : approval.record.integer? "confidence" = some approval.confidence :=
    if_pos ⟨hlo, hhi⟩
  have hstatus : approval.record.word? "status" = some approval.status.word := rfl
  simp only [Approval.ofRecord?, htask, hagent, hpayload, hrationale, hresolved, hconfidence, hstatus,
    Option.bind_eq_bind, Option.bind_some, ApprovalStatus.ofWord?_word]
  rfl

theorem MemoryEntry.ofRecord?_record (entry : MemoryEntry) :
    MemoryEntry.ofRecord? entry.record = some entry := by
  have htags : entry.record.optionalText? "tags" = some entry.tags? := optionalText?_of_lookup rfl
  have hsource : entry.record.optionalText? "source" = some entry.source? := optionalText?_of_lookup rfl
  simp only [MemoryEntry.ofRecord?, htags, hsource]
  rfl

theorem OnboardingSession.ofRecord?_record (session : OnboardingSession) :
    OnboardingSession.ofRecord? session.record = some session := by
  have hgoal : session.record.optionalText? "draft_goal" = some session.draftGoal? := optionalText?_of_lookup rfl
  have hstatus : session.record.word? "status" = some session.status.word := rfl
  simp only [OnboardingSession.ofRecord?, hgoal, hstatus, Option.bind_eq_bind, Option.bind_some,
    OnboardingStatus.ofWord?_word]
  rfl

/-! ## Kinds -/

/-- The kinds of entities that are stored. -/
inductive Entity where
  | board
  | task
  | comment
  | agent
  | approval
  | memory
  | session
deriving DecidableEq

namespace Entity

/-- What the rows of a kind stand for. -/
def Value : Entity → Type
  | .board => Board
  | .task => Task
  | .comment => TaskComment
  | .agent => Agent
  | .approval => Approval
  | .memory => MemoryEntry
  | .session => OnboardingSession

/-- How the rows of a kind are held. -/
def model : (entity : Entity) → Model entity.Value
  | .board => Board.model
  | .task => Task.model
  | .comment => TaskComment.model
  | .agent => Agent.model
  | .approval => Approval.model
  | .memory => MemoryEntry.model
  | .session => OnboardingSession.model

/-- The table of a kind. -/
def table (entity : Entity) : String :=
  entity.model.schema.table

@[simp] theorem table_board : Entity.board.table = "boards" := rfl
@[simp] theorem table_task : Entity.task.table = "tasks" := rfl
@[simp] theorem table_agent : Entity.agent.table = "agents" := rfl

/-- A row that stands for an entity of a kind. -/
def Reads (entity : Entity) (row : Record) : Prop :=
  ∃ x, entity.model.decode? (.object row) = some x

theorem idField_eq (entity : Entity) : entity.model.schema.idField = "id" := by
  cases entity <;> rfl

/-- No two kinds share a table. -/
theorem table_injective {entity other : Entity} (h : entity.table = other.table) : entity = other := by
  cases entity <;> cases other <;> first | rfl | exact absurd h (by decide)

end Entity

namespace Tables

/-- No two rows of a table have one identifier. -/
def UniqueIds (tables : Tables) : Prop :=
  ∀ entity : Entity, ((tables.rows entity.table).filterMap (·.text? "id")).Nodup

theorem UniqueIds.congr {tables other : Tables} (h : tables.UniqueIds) (hrows : other.rows = tables.rows) :
    other.UniqueIds :=
  fun entity => hrows ▸ h entity

/-- No row of any table has an identifier. -/
def IsNew (tables : Tables) (id : String) : Prop :=
  ∀ entity : Entity, ¬ tables.Has entity.table id

/-- Every row of every table stands for an entity. -/
def Readable (tables : Tables) : Prop :=
  ∀ entity : Entity, ∀ row ∈ tables.rows entity.table, entity.Reads row

end Tables

end Taskboard
