/-
What is not on a board cannot be seen from it. Two states that agree on what belongs to a board, on
which boards there are, and on where tasks and agents are placed (`Agree`) answer every request of an
agent of that board alike, and agree afterwards (`serve_alike`). Everything else may differ between
them. The argument has two halves: such states look alike to the agent (`seenAlike_of_alike`), and
writes that stay on the board keep the agreement (`Agree.confined`).
-/
import Taskboard.Proofs.Endpoint.Isolation

namespace Taskboard

/-- Whether a column of a row holds a text. -/
def Record.hasText (name text : String) (row : Record) : Bool :=
  row.text? name == some text

namespace Endpoint

open Taskboard.Flow Tables

variable {drawn : Nat → List UInt8 → Prop} {actor : Agent} {board : String} {s t : Tables}

/-! ## Agreement -/

/-- The identifiers of the tasks on a board. -/
def tasksOn (tables : Tables) (board : String) : List String :=
  ((tables.rows "tasks").filter (Record.hasText "board_id" board)).filterMap (·.text? "id")

/-- Whether a row is a comment on one of some tasks. -/
def commentsOn (tasks : List String) (row : Record) : Bool :=
  (row.text? "task_id").any tasks.contains

/-- The rows of two states agree on a board: on its own row, on what is placed on it, on the comments on
its tasks, on which boards there are, and on where tasks and agents are placed. Every row can be read. -/
structure Agree (board : String) (s t : Tables) : Prop where
  readable : s.Readable ∧ t.Readable
  own : (s.rows "boards").filter (Record.hasText "id" board) = (t.rows "boards").filter (Record.hasText "id" board)
  onBoard : ∀ entity ∈ listedByBoard, (s.rows entity.table).filter (Record.hasText "board_id" board) =
    (t.rows entity.table).filter (Record.hasText "board_id" board)
  comments : (s.rows "task_comments").filter (commentsOn (tasksOn s board)) =
    (t.rows "task_comments").filter (commentsOn (tasksOn t board))
  boards : ∀ id, s.Has "boards" id ↔ t.Has "boards" id
  tasks : ∀ id place?, s.Places "tasks" id place? ↔ t.Places "tasks" id place?
  agents : ∀ id place?, s.Places "agents" id place? ↔ t.Places "agents" id place?

/-- Two states that agree on a board, in which identifiers are unique and no failure waits. -/
structure Alike (board : String) (s t : Tables) : Prop extends Agree board s t where
  unique : s.UniqueIds ∧ t.UniqueIds
  quiet : s.fault? = none ∧ t.fault? = none

theorem Agree.congr {a b : Tables} (h : Agree board s t) (ha : a.rows = s.rows) (hb : b.rows = t.rows) :
    Agree board a b := by
  obtain ⟨rows, _, _⟩ := a
  obtain ⟨rows', _, _⟩ := b
  obtain rfl : rows = s.rows := ha
  obtain rfl : rows' = t.rows := hb
  exact ⟨h.readable, h.own, h.onBoard, h.comments, h.boards, h.tasks, h.agents⟩

/-- The tasks on the board are the same. -/
theorem Agree.tasksOn_eq (h : Agree board s t) : tasksOn s board = tasksOn t board := by
  have htasks : (s.rows "tasks").filter (Record.hasText "board_id" board) =
      (t.rows "tasks").filter (Record.hasText "board_id" board) := h.onBoard .task (by decide)
  unfold tasksOn
  rw [htasks]

/-! ## What the agents of the board see -/

theorem hasText_iff {name text : String} {row : Record} :
    Record.hasText name text row = true ↔ row.text? name = some text :=
  beq_iff_eq

theorem mem_tasksOn {task : Task} (hboard : task.boardId? = some board)
    (h : ∃ row ∈ s.rows "tasks", Task.model.decode? (.object row) = some task) : task.id ∈ tasksOn s board := by
  obtain ⟨row, hrow, hdecode⟩ := h
  obtain ⟨hid, hplace⟩ := Task.text?_of_ofRecord? hdecode
  rw [hboard] at hplace
  exact List.mem_filterMap.2 ⟨row, List.mem_filter.2 ⟨hrow, hasText_iff.2 hplace⟩, hid⟩

/-- Of what is listed by its board, the agents of a board see what is on the board. -/
theorem Agree.answer_of_board (h : Agree board s t) {plan : Plan} {entity : Entity}
    (hentity : entity ∈ listedByBoard) (hschema : plan.schema = entity.model.schema)
    (hboard : .equals "board_id" (.string board) ∈ plan.predicates) : s.answer plan = t.answer plan := by
  refine answer_eq_of_filter (Record.hasText "board_id" board) (fun row hmeets => ?_) ?_
  · exact hasText_iff.2 (Predicate.holds_equals_string.1 (hmeets _ hboard))
  · rw [hschema]
    exact h.onBoard entity hentity

/-- Comments are listed by their task, and so they belong to the board of the task. -/
theorem Agree.answer_of_task (h : Agree board s t) {plan : Plan} {task : Task} (hschema : plan.schema = TaskComment.schema)
    (hboard : task.boardId? = some board) (hstored : Task.model.Stored s t task)
    (htask : .equals "task_id" (.string task.id) ∈ plan.predicates) : s.answer plan = t.answer plan := by
  have hcomments := h.comments
  rw [← h.tasksOn_eq] at hcomments
  refine answer_eq_of_filter (commentsOn (tasksOn s board)) (fun row hmeets => ?_) ?_
  · unfold commentsOn
    rw [Predicate.holds_equals_string.1 (hmeets _ htask)]
    exact List.contains_iff_mem.2 (mem_tasksOn hboard hstored.1)
  · rw [hschema]
    exact hcomments

theorem Agree.answer_of_own (h : Agree board s t) {plan : Plan} (hschema : plan.schema = Board.schema)
    (hid : plan.predicates = [.equals "id" (.string board)]) : s.answer plan = t.answer plan := by
  refine answer_eq_of_filter (Record.hasText "id" board) (fun row hmeets => ?_) ?_
  · exact hasText_iff.2 ((meets_singleton hid).1 hmeets)
  · rw [hschema]
    exact h.own

/-- States that agree on a board look alike to its agents. -/
theorem seenAlike_of_alike (h : Alike board s t) (hbound : actor.boundBoard? = some board) :
    SeenAlike drawn actor s t where
  boards := by
    unfold listBoards
    rw [hbound]
    have hanswer : s.answer (boardPlan board) = t.answer (boardPlan board) := h.answer_of_own rfl rfl
    exact (InStep.query (.all_of_same hanswer)).mono fun x y writes hx => ⟨hx.1, hx.2.1⟩
  board boardId := by
    -- Another board is refused, and all that is learned of it is whether there is one.
    by_cases hpermits : Permits actor boardId
    · obtain rfl := eq_of_permits hbound hpermits
      exact boardFor_of_same (h.answer_of_own rfl rfl)
    · exact boardFor_of_refused hpermits (h.readable.1 .board) (h.readable.2 .board) (h.boards boardId) _
  task boardId taskId := by
    by_cases hpermits : Permits actor boardId
    · obtain rfl := eq_of_permits hbound hpermits
      refine taskFor_of_same (h.answer_of_own rfl rfl) (h.answer_of_board (show .task ∈ listedByBoard by decide) rfl ?_)
      exact List.mem_cons_of_mem _ (List.mem_singleton.2 rfl)
    · exact taskFor_of_refused hpermits (h.readable.1 .board) (h.readable.2 .board) (h.boards boardId)
        (h.readable.1 .task) (h.readable.2 .task) (h.tasks taskId _) _
  assignee task assignment :=
    resolveAssignee_of_readable task assignment (h.readable.1 .agent) (h.readable.2 .agent) h.agents (h.unique.2 .agent)
  onBoard hpermits _ _ hentity hschema hboard := by
    obtain rfl := eq_of_permits hbound hpermits
    exact h.answer_of_board hentity hschema hboard
  onTask hpermits _ _ hschema hboard hstored htask := by
    obtain rfl := eq_of_permits hbound hpermits
    exact h.answer_of_task hschema hboard hstored htask

/-! ## What the agents of the board write -/

theorem comments_ne_of_replaced : ∀ entity ∈ replacedKinds, "task_comments" ≠ entity.table := by
  decide

theorem tasks_ne_of_added : ∀ entity ∈ addedKinds, "tasks" ≠ entity.table := by
  decide

/-- A row replaced on a board leaves the tasks on it as they are. -/
theorem tasksOn_replaced {tables : Tables} {entity : Entity} {id : String} {row : Record} (hunique : tables.UniqueIds)
    (hplace : tables.Places entity.table id (some board)) (hrow : RowOn entity board id row) :
    tasksOn (tables.carryOut ⟨.update, entity.model.schema, row⟩) board = tasksOn tables board := by
  unfold tasksOn
  by_cases hentity : entity = .task
  · subst hentity
    have hfilter := filter_replaced hunique hplace hrow (· == some board)
    have hrows : ((tables.carryOut ⟨.update, Entity.task.model.schema, row⟩).rows "tasks").filter
        (Record.hasText "board_id" board) =
      ((tables.rows "tasks").filter (Record.hasText "board_id" board)).map (Record.replacedBy id row) := hfilter
    rw [hrows, List.filterMap_map]
    refine List.filterMap_congr fun stored hstored => ?_
    exact (text?_replacedBy hunique hplace hrow (List.mem_filter.1 hstored).1).1
  · have hne : "tasks" ≠ entity.table := fun heq => hentity (Entity.table_injective heq.symm)
    rw [rows_carryOut_of_ne hne]

/-- A row replaced on the board in both states keeps the agreement. -/
theorem Alike.replacement (h : Alike board s t) {w : Write} (hw : Replacement board s t w) :
    Agree board (s.carryOut w) (t.carryOut w) := by
  obtain ⟨entity, hkind, hrow, hs, ht⟩ := hw
  rename_i id row
  have hboards : "boards" ≠ entity.table := boards_ne_of_replaced _ hkind
  have hcomments : "task_comments" ≠ entity.table := comments_ne_of_replaced _ hkind
  have hplaces : ∀ (other : Entity) (otherId : String) (place? : Option String),
      (s.Places other.table otherId place? ↔ t.Places other.table otherId place?) →
      ((s.carryOut ⟨.update, entity.model.schema, row⟩).Places other.table otherId place? ↔
        (t.carryOut ⟨.update, entity.model.schema, row⟩).Places other.table otherId place?) := by
    intro other otherId place? hsame
    rw [places_replaced h.unique.1 hs hrow, places_replaced h.unique.2 ht hrow, hsame]
  exact
    { readable := ⟨readable_replaced h.unique.1 hrow h.readable.1, readable_replaced h.unique.2 hrow h.readable.2⟩
      own := by
        rw [rows_carryOut_of_ne hboards, rows_carryOut_of_ne hboards]
        exact h.own
      onBoard := by
        intro other hother
        by_cases hsame : other = entity
        · -- The replaced row is on the board, and it is replaced in the same place of the same list.
          subst hsame
          have hfilter := filter_replaced h.unique.1 hs hrow (· == some board)
          have hfilter' := filter_replaced h.unique.2 ht hrow (· == some board)
          exact hfilter.trans ((congrArg _ (h.onBoard other hother)).trans hfilter'.symm)
        · rw [rows_of_other hsame, rows_of_other hsame]
          exact h.onBoard other hother
      comments := by
        rw [rows_carryOut_of_ne hcomments, rows_carryOut_of_ne hcomments,
          tasksOn_replaced h.unique.1 hs hrow, tasksOn_replaced h.unique.2 ht hrow]
        exact h.comments
      boards := by
        intro id
        unfold Has
        rw [rows_carryOut_of_ne hboards, rows_carryOut_of_ne hboards]
        exact h.boards id
      tasks := fun id place? => hplaces .task id place? (h.tasks id place?)
      agents := fun id place? => hplaces .agent id place? (h.agents id place?) }

/-- A row added to the board in both states keeps the agreement. -/
theorem Agree.addition (h : Agree board s t) {w : Write} (hw : Addition drawn board w) :
    Agree board (s.carryOut w) (t.carryOut w) := by
  obtain ⟨entity, hkind, hrow, -⟩ := hw
  rename_i id row
  have hboards : "boards" ≠ entity.table := boards_ne_of_added _ hkind
  have htasks : "tasks" ≠ entity.table := tasks_ne_of_added _ hkind
  have hplaces : ∀ (other : Entity) (otherId : String) (place? : Option String),
      (s.Places other.table otherId place? ↔ t.Places other.table otherId place?) →
      ((s.carryOut ⟨.insert, entity.model.schema, row⟩).Places other.table otherId place? ↔
        (t.carryOut ⟨.insert, entity.model.schema, row⟩).Places other.table otherId place?) := by
    intro other otherId place? hsame
    rw [places_added hrow, places_added hrow, hsame]
  have hadded : ∀ (other : Entity) (test : Record → Bool),
      (s.rows other.table).filter test = (t.rows other.table).filter test →
      ((s.carryOut ⟨.insert, entity.model.schema, row⟩).rows other.table).filter test =
        ((t.carryOut ⟨.insert, entity.model.schema, row⟩).rows other.table).filter test := by
    intro other test hsame
    by_cases hother : other = entity
    · subst hother
      rw [rows_added, rows_added, List.filter_append, List.filter_append, hsame]
    · rw [rows_of_other hother, rows_of_other hother, hsame]
  have htasksOn : ∀ tables : Tables,
      tasksOn (tables.carryOut ⟨.insert, entity.model.schema, row⟩) board = tasksOn tables board := by
    intro tables
    unfold tasksOn
    rw [rows_carryOut_of_ne htasks]
  exact
    { readable := ⟨readable_added hrow h.readable.1, readable_added hrow h.readable.2⟩
      own := hadded .board _ h.own
      onBoard := fun other hother => hadded other _ (h.onBoard other hother)
      comments := by
        have hcomments := h.comments
        rw [← h.tasksOn_eq] at hcomments
        rw [htasksOn, htasksOn, ← h.tasksOn_eq]
        exact hadded .comment _ hcomments
      boards := by
        intro id
        unfold Has
        rw [rows_carryOut_of_ne hboards, rows_carryOut_of_ne hboards]
        exact h.boards id
      tasks := fun id place? => hplaces .task id place? (h.tasks id place?)
      agents := fun id place? => hplaces .agent id place? (h.agents id place?) }

theorem Alike.confined (h : Alike board s t) {writes : List Write} (hw : Confined drawn board s t writes) :
    Agree board (writes.foldl carryOut s) (writes.foldl carryOut t) := by
  cases hw with
  | nothing => exact h.toAgree
  | replace hw => exact h.replacement hw
  | add hw => exact h.toAgree.addition hw
  | replaceAndAdd hw hw' => exact (h.replacement hw).addition hw'

/-! ## In the small office -/

theorem filter_office {entries : List MemoryEntry} (h : ∀ entry ∈ entries, entry.boardId ≠ "b1") :
    ((office entries).rows "board_memory").filter (Record.hasText "board_id" "b1") = [] := by
  refine List.filter_eq_nil_iff.2 fun row hrow => ?_
  obtain ⟨entry, hentry, rfl⟩ := List.mem_map.1 hrow
  rw [hasText_iff]
  exact fun hboard => h entry hentry (Option.some.inj hboard)

/-- The memory of the second board cannot be seen from the first. -/
theorem alike_office {entries others : List MemoryEntry} (h : ∀ entry ∈ entries, entry.boardId ≠ "b1")
    (h' : ∀ entry ∈ others, entry.boardId ≠ "b1") (hunique : (entries.map (·.id)).Nodup)
    (hunique' : (others.map (·.id)).Nodup) : Alike "b1" (office entries) (office others) where
  readable := ⟨readable_office _, readable_office _⟩
  own := rfl
  onBoard entity _ := by
    cases entity with
    | memory => exact (filter_office h).trans (filter_office h').symm
    | _ => rfl
  comments := rfl
  boards _ := Iff.rfl
  tasks _ _ := Iff.rfl
  agents _ _ := Iff.rfl
  unique := ⟨uniqueIds_office hunique, uniqueIds_office hunique'⟩
  quiet := ⟨rfl, rfl⟩

theorem stored_office (entries others : List MemoryEntry) :
    Agent.model.Stored (office entries) (office others) lead :=
  ⟨⟨lead.record, List.mem_singleton.2 rfl, lead.ofRecord?_record⟩,
    lead.record, List.mem_singleton.2 rfl, lead.ofRecord?_record⟩

/-- An entry of the second board whose identifier is the first that is generated. -/
def taken : MemoryEntry :=
  ⟨"0102030405060708090a0b0c0d0e0f10", "b2", "taken", none, none, "2024-01-01"⟩

/-! ## Requests -/

/-- The agents of a board are answered the same in two states that agree on the board, whatever else is
in them, and the states agree afterwards. Identifiers stay unique when those that are generated are new. -/
theorem serve_alike (h : Alike board s t) (hbound : actor.boundBoard? = some board)
    (hstored : Agent.model.Stored s t actor) (request : Request) (source : Entropy) :
    (request.run actor s source).1 = (request.run actor t source).1 ∧
      (request.run actor s source).2.2 = (request.run actor t source).2.2 ∧
      Agree board (request.run actor s source).2.1 (request.run actor t source).2.1 ∧
      (request.run actor s source).2.1.fault? = none ∧ (request.run actor t source).2.1.fault? = none ∧
      ((∀ id ∈ request.identifiers actor s source, s.IsNew id ∧ t.IsNew id) →
        Alike board (request.run actor s source).2.1 (request.run actor t source).2.1) := by
  let drawn := (request.serve actor).Drawn store s source
  -- The bytes that the first run draws are those of the second, so both generate one identifier.
  have hseen : SeenAlike drawn actor s t := seenAlike_of_alike h hbound
  have hstep := serve_inStep hseen request
  obtain ⟨hends, -, hsource⟩ := hstep s t source rfl rfl (h.quiet.1.trans h.quiet.2.symm) fun _ h => h
  have hquiet := run_quiet (request.serve actor) h.quiet.1 source
  have hquiet' := run_quiet (request.serve actor) h.quiet.2 source
  unfold Request.run
  generalize (request.serve actor).run store s source = ended at hends hsource hquiet ⊢
  generalize (request.serve actor).run store t source = ended' at hends hsource hquiet' ⊢
  rcases ended with ⟨result, a, rest⟩
  rcases ended' with ⟨result', b, rest'⟩
  cases hends with
  | error ha hb =>
    have hagree := h.toAgree.congr ha hb
    refine ⟨rfl, hsource, hagree, hquiet, hquiet', fun _ => ⟨hagree, ⟨?_, ?_⟩, hquiet, hquiet'⟩⟩
    · exact h.unique.1.congr ha
    · exact h.unique.2.congr hb
  | ok hseen ha hb =>
    obtain ⟨rfl, hwrites⟩ := hseen
    have hconfined := confined_of_writes hbound hstored hwrites
    have hagree := (h.confined hconfined).congr ha hb
    refine ⟨rfl, hsource, hagree, hquiet, hquiet', fun hfresh => ?_⟩
    have hnew : ∀ id, Generated drawn id → s.IsNew id ∧ t.IsNew id := fun id h => hfresh id h.mem_identifiers
    have hleft := (hconfined.mono fun _ => Replacement.left).spares h.unique.1 fun id hid => (hnew id hid).1
    have hright := (hconfined.mono fun _ => Replacement.right).spares h.unique.2 fun id hid => (hnew id hid).2
    exact ⟨hagree, ⟨hleft.2.congr ha, hright.2.congr hb⟩, hquiet, hquiet'⟩

/-- What a note adds in two small offices does not depend on the memory of the other board. -/
theorem serve_alike_office :
    Alike "b1" (office [kept]) (office []) ∧ Agent.model.Stored (office [kept]) (office []) lead ∧
      ((Request.createMemory "b1" ⟨"note", none, none⟩ "2024-01-02").run lead (office [kept]) Entropy.counting).1 =
        ((Request.createMemory "b1" ⟨"note", none, none⟩ "2024-01-02").run lead (office []) Entropy.counting).1 ∧
      Agree "b1"
        ((Request.createMemory "b1" ⟨"note", none, none⟩ "2024-01-02").run lead (office [kept]) Entropy.counting).2.1
        ((Request.createMemory "b1" ⟨"note", none, none⟩ "2024-01-02").run lead (office []) Entropy.counting).2.1 := by
  have halike : Alike "b1" (office [kept]) (office []) :=
    alike_office (by decide) (by decide) (List.nodup_singleton _) List.nodup_nil
  have hstored := stored_office [kept] []
  obtain ⟨hanswer, -, hagree, -⟩ := serve_alike halike rfl hstored
    (.createMemory "b1" ⟨"note", none, none⟩ "2024-01-02") Entropy.counting
  exact ⟨halike, hstored, hanswer, hagree⟩

/-- Nothing keeps a generated identifier from being one that a row has already, and then two rows have
it: states that are alike need not be alike after a request. -/
theorem alike_lost_to_taken_identifier :
    ¬ ∀ (board : String) (s t : Tables) (actor : Agent) (request : Request) (source : Entropy),
      Alike board s t → actor.boundBoard? = some board → Agent.model.Stored s t actor →
        (request.run actor s source).1 = (request.run actor t source).1 ∧
          Alike board (request.run actor s source).2.1 (request.run actor t source).2.1 := by
  intro hall
  have halike : Alike "b1" (office [taken]) (office [taken]) :=
    alike_office (by decide) (by decide) (List.nodup_singleton _) (List.nodup_singleton _)
  obtain ⟨-, hafter⟩ := hall "b1" (office [taken]) (office [taken]) lead
    (.createMemory "b1" ⟨"note", none, none⟩ "2024-01-02") Entropy.counting halike rfl (stored_office _ _)
  -- Afterwards the entry that was there and the new one have the same identifier.
  have hids : (((Request.createMemory "b1" ⟨"note", none, none⟩ "2024-01-02").run lead (office [taken])
      Entropy.counting).2.1.rows "board_memory").filterMap (·.text? "id") = [taken.id, taken.id] := by
    decide +kernel
  have hnodup : [taken.id, taken.id].Nodup := hids ▸ hafter.unique.1 .memory
  exact absurd hnodup (by decide)

end Endpoint

end Taskboard
