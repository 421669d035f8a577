/-
Requests are atomic. Whatever failure waits and wherever the random source fails, a request that ends
with a failure leaves every row of every table as it was, and one that ends with a reply has changed
exactly what `Request.Footprint` says of it (`serve_atomic`).
-/
import Taskboard.Proofs.Endpoint.Callers
import Taskboard.Proofs.Endpoint.Effects
import Taskboard.Proofs.Storage.Changes

namespace Taskboard.Endpoint

open Taskboard.Flow Tables

variable {actor : Agent} {tables : Tables}

/-! ## Footprints -/

/-- The row with an identifier, which stands for `x`, is replaced in its place by one that stands for
`y`; no other row has the identifier. -/
def ReplacesOne {α : Type} (model : Model α) (id : String) (x y : α) (before after : List Record) : Prop :=
  ∃ (front : List Record) (old new : Record) (back : List Record),
    before = front ++ old :: back ∧ after = front ++ new :: back ∧
    model.decode? (.object old) = some x ∧ model.decode? (.object new) = some y ∧
    old.text? "id" = some id ∧ new.text? "id" = some id ∧ ∀ other ∈ front ++ back, other.text? "id" ≠ some id

/-- One row is added at the end, which stands for a value. -/
def AppendsOne {α : Type} (model : Model α) (x : α) (before after : List Record) : Prop :=
  ∃ row, after = before ++ [row] ∧ model.decode? (.object row) = some x

/-- A comment is added when there is a message, and otherwise none. -/
def CommentFootprint (actor : Agent) (task : Task) (now : String) (before after : List Record) : Option String → Prop
  | none => after = before
  | some message => ∃ id, AppendsOne TaskComment.model
      ⟨id, task.id, task.boardId?, some actor.id, message, now⟩ before after

/-- What becomes of the rows of all tables in a request that ends with a reply. -/
def Request.Footprint (actor : Agent) (before after : String → List Record) :
    (request : Request) → request.Reply → Prop
  | .updateTask _ taskId update now, task => task.id = taskId ∧
      (∃ old, ReplacesOne Task.model task.id old task (before "tasks") (after "tasks")) ∧
      CommentFootprint actor task now (before "task_comments") (after "task_comments")
        (update.comment?.bind Text.nonBlank?) ∧
      ∀ table, table ≠ "tasks" → table ≠ "task_comments" → after table = before table
  | .createTaskComment .., comment =>
      AppendsOne TaskComment.model comment (before "task_comments") (after "task_comments") ∧
      ∀ table, table ≠ "task_comments" → after table = before table
  | .createMemory .., view =>
      (∃ entry, entry.view = view ∧
        AppendsOne MemoryEntry.model entry (before "board_memory") (after "board_memory")) ∧
      ∀ table, table ≠ "board_memory" → after table = before table
  | .createApproval .., view =>
      (∃ approval, approval.view = view ∧
        AppendsOne Approval.model approval (before "approvals") (after "approvals")) ∧
      ∀ table, table ≠ "approvals" → after table = before table
  | .createAgent .., issued =>
      (∃ agent, agent.view = issued.agent ∧ AppendsOne Agent.model agent (before "agents") (after "agents")) ∧
      ∀ table, table ≠ "agents" → after table = before table
  | .updateOnboarding .., view =>
      (∃ old session, session.view = view ∧ ReplacesOne OnboardingSession.model session.id old session
        (before "board_onboarding_sessions") (after "board_onboarding_sessions")) ∧
      ∀ table, table ≠ "board_onboarding_sessions" → after table = before table
  | .heartbeat .., view =>
      (∃ agent, agent.view = view ∧
        ReplacesOne Agent.model actor.id actor agent (before "agents") (after "agents")) ∧
      ∀ table, table ≠ "agents" → after table = before table
  | .listBoards, _ | .getBoard _, _ | .listTasks .., _ | .listTaskComments .., _ | .listMemory .., _
  | .listApprovals .., _ => after = before

/-- A request that fails leaves the rows as they were, and one that ends with a reply changes them as its
footprint says. -/
def Request.AllOrNothing (actor : Agent) (before : String → List Record) (request : Request) :
    Except Failure request.Reply × Tables × Entropy → Prop
  | (.error _, after, _) => after.rows = before
  | (.ok reply, after, _) => request.Footprint actor before after.rows reply

/-! ## Changes of tables -/

section Changes

variable {α : Type} {model : Model α} {id : String} {x y : α} {row : Record}

theorem appendsOne_of_insert (hdecode : model.decode? (.object row) = some x) :
    AppendsOne model x (tables.rows model.schema.table)
      ((tables.carryOut ⟨.insert, model.schema, row⟩).rows model.schema.table) :=
  ⟨row, rows_carryOut_insert, hdecode⟩

/-- Where identifiers are unique, an update of a stored row replaces that row. -/
theorem replacesOne_of_update (model : Model α) (row : Record) {old : Record} (hfield : model.schema.idField = "id")
    (hunique : ((tables.rows model.schema.table).filterMap (·.text? "id")).Nodup)
    (hold : old ∈ tables.rows model.schema.table) (hx : model.decode? (.object old) = some x)
    (hid : old.text? "id" = some id) (hy : model.decode? (.object row) = some y) (hid' : row.text? "id" = some id) :
    ReplacesOne model id x y (tables.rows model.schema.table)
      ((tables.carryOut ⟨.update, model.schema, row⟩).rows model.schema.table) := by
  rw [rows_carryOut_update (hfield ▸ hid'), hfield]
  obtain ⟨front, back, hbefore, hafter, hothers⟩ := replaceFirst_eq_append hunique hold hid
  exact ⟨front, old, row, back, hbefore, hafter, hx, hy, hid, hid', hothers⟩

end Changes

/-- One write changes no other table than its own. -/
theorem others_of_single {write : Write} {name : String} (hname : write.schema.table = name) :
    ∀ table, table ≠ name → ([write].foldl carryOut tables).rows table = tables.rows table :=
  fun _ hne => rows_carryOut_of_ne (hname ▸ hne)

/-- A comment that comes with a change of a task is added behind it, in a table of its own. -/
theorem footprint_of_commentWrites {drawn : Nat → List UInt8 → Prop} {task : Task} {now : String}
    {message? : Option String} {writes : List Write} (h : CommentWrites drawn actor task now message? writes) :
    CommentFootprint actor task now (tables.rows "task_comments")
        ((writes.foldl carryOut tables).rows "task_comments") message? ∧
      ∀ table, table ≠ "task_comments" → (writes.foldl carryOut tables).rows table = tables.rows table := by
  rcases message? with _ | message
  · subst h
    exact ⟨rfl, fun _ _ => rfl⟩
  · obtain ⟨id, -, rfl⟩ := h
    exact ⟨⟨id, appendsOne_of_insert (TaskComment.ofRecord?_record _)⟩, others_of_single rfl⟩

/-- What a request has written is what its footprint says. -/
theorem footprint_of_writes {drawn : Nat → List UInt8 → Prop} (hunique : tables.UniqueIds)
    (hstored : ∃ row ∈ tables.rows "agents", Agent.model.decode? (.object row) = some actor) {request : Request}
    {reply : request.Reply} {writes : List Write} (h : request.Writes drawn actor tables tables reply writes) :
    request.Footprint actor tables.rows (writes.foldl carryOut tables).rows reply := by
  cases request with
  | updateTask boardId taskId update now =>
    obtain ⟨-, hid, -, ⟨before, ⟨⟨old, hold, hbefore⟩, -⟩, hsame, -⟩, rest, hrest, rfl⟩ := h
    have hkey : old.text? "id" = some reply.id := by
      rw [(Task.text?_of_ofRecord? hbefore).1, hsame, hid]
    have htask : ReplacesOne Task.model reply.id before reply (tables.rows "tasks")
        ((tables.carryOut ⟨.update, Task.schema, reply.record⟩).rows "tasks") :=
      replacesOne_of_update Task.model _ rfl (hunique .task) hold hbefore hkey (Task.ofRecord?_record reply) rfl
    -- Tasks and comments have tables of their own, so neither write disturbs what the other did.
    obtain ⟨hcomment, hothers⟩ := footprint_of_commentWrites hrest
    refine ⟨hid, ⟨before, ?_⟩, ?_, fun table htasks hcomments => ?_⟩
    · rw [List.foldl_cons, hothers "tasks" (by decide)]
      exact htask
    · rw [rows_carryOut_of_ne (show "task_comments" ≠ "tasks" by decide)] at hcomment
      exact hcomment
    · exact (hothers table hcomments).trans (rows_carryOut_of_ne htasks)
  | createTaskComment boardId taskId payload now =>
    obtain ⟨-, -, -, -, rfl⟩ := h
    exact ⟨appendsOne_of_insert (TaskComment.ofRecord?_record reply), others_of_single rfl⟩
  | createMemory boardId payload now =>
    obtain ⟨-, entry, hview, -, -, rfl⟩ := h
    exact ⟨⟨entry, hview, appendsOne_of_insert (MemoryEntry.ofRecord?_record entry)⟩,
      others_of_single rfl⟩
  | createApproval boardId payload now =>
    obtain ⟨-, approval, hview, -, hlo, hhi, -, rfl⟩ := h
    exact ⟨⟨approval, hview, appendsOne_of_insert (Approval.ofRecord?_record_of_range hlo hhi)⟩,
      others_of_single rfl⟩
  | createAgent payload now =>
    obtain ⟨agent, hview, -, -, rfl⟩ := h
    exact ⟨⟨agent, hview, appendsOne_of_insert (Agent.ofRecord?_record agent)⟩,
      others_of_single rfl⟩
  | updateOnboarding boardId payload now =>
    obtain ⟨-, session, hview, -, ⟨before, ⟨⟨old, hold, hbefore⟩, -⟩, hid, -⟩, rfl⟩ := h
    refine ⟨⟨before, session, hview, ?_⟩, others_of_single rfl⟩
    have hkey : old.text? "id" = some session.id := by
      rw [(OnboardingSession.text?_of_ofRecord? hbefore).1, hid]
    exact replacesOne_of_update OnboardingSession.model session.record rfl (hunique .session) hold hbefore hkey
      (OnboardingSession.ofRecord?_record session) rfl
  | heartbeat payload now =>
    obtain ⟨hview, rfl⟩ := h
    obtain ⟨old, hold, hdecode⟩ := hstored
    refine ⟨⟨_, hview, ?_⟩, others_of_single rfl⟩
    exact replacesOne_of_update Agent.model (Agent.record _) rfl (hunique .agent) hold hdecode
      (Agent.text?_of_ofRecord? hdecode).1 (Agent.ofRecord?_record _) rfl
  | _ => cases h; rfl

/-- Every request is carried out wholly or not at all, and touches nothing outside its footprint. -/
theorem serve_atomic (hunique : tables.UniqueIds) (hcaller : Resolves tables actor) (request : Request)
    (source : Entropy) :
    request.AllOrNothing actor tables.rows (request.run actor tables source) := by
  -- The tables run in step with themselves; nothing need be known of the random bytes.
  have hstep := serve_inStep (SeenAlike.refl (fun _ _ => True) actor tables) request
  have hends := hstep.commits rfl source fun _ _ => trivial
  unfold Request.run
  rcases hrun : (request.serve actor).run store tables source with ⟨_ | reply, after, rest⟩ <;> rw [hrun] at hends
  · exact hends
  · obtain ⟨writes, ⟨-, hwrites⟩, hafter⟩ := hends
    show request.Footprint actor tables.rows after.rows reply
    rw [hafter]
    exact footprint_of_writes hunique (stored_of_resolves hcaller) hwrites

/-- In the small office the lead adds to the memory of its board, and nothing else changes. -/
theorem serve_atomic_office :
    (office []).UniqueIds ∧ Resolves (office []) lead ∧
      ((Request.createMemory "b1" ⟨"note", none, none⟩ "2024-01-02").run lead (office []) Entropy.counting).1.toBool = true ∧
      (Request.createMemory "b1" ⟨"note", none, none⟩ "2024-01-02").AllOrNothing lead (office []).rows
        ((Request.createMemory "b1" ⟨"note", none, none⟩ "2024-01-02").run lead (office []) Entropy.counting) :=
  have hunique : (office []).UniqueIds := uniqueIds_office List.nodup_nil
  ⟨hunique, resolves_office [], by decide +kernel, serve_atomic hunique (resolves_office []) _ _⟩

end Taskboard.Endpoint
