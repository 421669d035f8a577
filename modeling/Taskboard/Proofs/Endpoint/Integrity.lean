/-
The constraints of the tables hold along every run, though tables in memory check none of them
(`run_constrained`). What a new row refers to was found by the request that adds it: its caller by the
token, its board and its task by their lookups, an assignee by a lookup of its own; and a new agent has a
name that was looked for on its board. Every row that a run has added has trimmed wording.
-/
import Taskboard.Proofs.Endpoint.Runs
import Taskboard.Proofs.Storage.Constraints

namespace Taskboard.Endpoint

open Taskboard.Flow Tables

variable {allowed : Tables → Agent → Request → Prop} {drawn : Nat → List UInt8 → Prop} {actor : Agent}
  {before after start now s : Tables}

/-! ## Rows that requests write -/

theorem has_of_storedIn (h : Agent.model.StoredIn s actor) : s.Has "agents" actor.id := by
  obtain ⟨row, hrow, hdecode⟩ := h
  exact ⟨row, hrow, (Agent.text?_of_ofRecord? hdecode).1⟩

theorem places_of_taskOn {boardId taskId : String} {task : Task} (h : TaskOn s boardId taskId task) :
    s.Places "tasks" task.id task.boardId? := by
  obtain ⟨⟨row, hrow, hdecode⟩, -, -⟩ := h
  exact ⟨row, hrow, Task.text?_of_ofRecord? hdecode⟩

/-- The assignee that a task is left with is an agent. -/
theorem has_assignee (hactor : Agent.model.StoredIn s actor) {task : Task} {assignment : Assignment}
    {status : TaskStatus} {assignee? : Option String} (hkept : ∀ id, task.assignee? = some id → s.Has "agents" id)
    (h : AssigneeGrounds s task assignment assignee?) :
    ∀ id, assigneeInProgress actor status assignee? = some id → s.Has "agents" id := by
  intro id hid
  unfold assigneeInProgress at hid
  split at hid
  · cases hid
    exact has_of_storedIn hactor
  · subst hid
    cases assignment with
    | keep => exact hkept id h.symm
    | clear => cases h
    | assign agentId =>
      obtain ⟨agent, hid, -, -, hstored⟩ := h
      cases hid
      exact has_of_storedIn hstored

/-- One write, whose row meets the constraints of its table. -/
theorem sound_single {kind : WriteKind} (entity : Entity) {row : Record} (h : RowSound s entity row) :
    ∀ w ∈ [Write.mk kind entity.model.schema row], ∀ other : Entity, other.table = w.schema.table →
      RowSound s other w.row := by
  intro w hw other hother
  obtain rfl := List.mem_singleton.1 hw
  obtain rfl := Entity.table_injective hother
  exact h

/-- The rows that a request writes on its grounds meet the constraints of their tables. -/
theorem sound_of_grounds (hs : s.Constrained) (hactor : Agent.model.StoredIn s actor) {request : Request}
    {reply : request.Reply} {writes : List Write} (h : request.Grounds drawn actor s reply writes) :
    ∀ w ∈ writes, ∀ entity : Entity, entity.table = w.schema.table → RowSound s entity w.row := by
  have hauthor : ∀ id, some actor.id = some id → s.Has "agents" id := by
    rintro _ ⟨⟩
    exact has_of_storedIn hactor
  cases request with
  | updateTask boardId taskId update now =>
    obtain ⟨-, task, status, assignee?, htask, -, hassignee, rfl, rest, hrest, rfl⟩ := h
    obtain ⟨hboard, hkept, hcreator⟩ := hs.task htask.1
    rw [← List.singleton_append, List.forall_mem_append]
    constructor
    · exact sound_single .task (Task.rowSound hboard (has_assignee hactor hkept hassignee) hcreator)
    · generalize update.comment?.bind Text.nonBlank? = message? at hrest
      rcases message? with _ | message
      · obtain rfl := hrest
        simp
      · obtain ⟨id, -, rfl⟩ := hrest
        exact sound_single .comment (TaskComment.rowSound (places_of_taskOn htask) hboard hauthor)
  | createTaskComment boardId taskId payload now =>
    obtain ⟨-, task, message, id, htask, -, -, rfl, rfl⟩ := h
    exact sound_single .comment (TaskComment.rowSound (places_of_taskOn htask) (hs.task htask.1).1 hauthor)
  | createMemory boardId payload now =>
    obtain ⟨-, entry, hboard, -, -, hentry, -, rfl⟩ := h
    exact sound_single .memory (MemoryEntry.rowSound (by rw [hentry]; exact hboard))
  | createApproval boardId payload now =>
    obtain ⟨-, approval, hboard, -, hlo, hhi, htask, -, happroval, -, rfl⟩ := h
    refine sound_single .approval ?_
    rw [happroval] at htask ⊢
    exact Approval.rowSound hlo hhi hboard htask hauthor
  | updateOnboarding boardId payload now =>
    obtain ⟨-, session, answer, messages, hboard, -, hplace, -, -, -, rfl⟩ := h
    refine sound_single .session (OnboardingSession.rowSound ?_)
    show s.Has "boards" session.boardId
    rw [hplace]
    exact hboard
  | createAgent payload now =>
    obtain ⟨boardId, name, token, id, hlead, -, -, -, -, -, rfl⟩ := h
    refine sound_single .agent (Agent.rowSound ?_)
    rintro _ ⟨⟩
    -- The board of the new agent is the one that its creator is bound to.
    exact hs.agent hactor boardId (boardId?_of_bound (boundBoard?_of_leadBoard hlead))
  | heartbeat payload now =>
    obtain ⟨-, -, rfl⟩ := h
    have hboard : ∀ id, actor.boardId? = some id → s.Has "boards" id := hs.agent hactor
    exact sound_single .agent (Agent.rowSound hboard)
  | _ =>
    obtain rfl : writes = [] := h
    simp

/-! ## Steps and runs -/

/-- Every row keeps what lasts of it, and every row that was not there before has trimmed wording. -/
structure Follows (before after : Tables) : Prop where
  kept : Extends before after
  worded : ∀ entity : Entity, ∀ row ∈ after.rows entity.table, ∀ id, row.text? "id" = some id →
    ¬ before.Has entity.table id → entity.Worded row

theorem Follows.refl (tables : Tables) : Follows tables tables :=
  ⟨.refl tables, fun _ row hrow _ hid hnot => absurd ⟨row, hrow, hid⟩ hnot⟩

theorem Follows.congr {mid : Tables} (h : Follows before mid) (hrows : after.rows = mid.rows) : Follows before after :=
  ⟨h.kept.congr hrows, fun entity => hrows ▸ h.worded entity⟩

theorem Follows.trans {mid : Tables} (hunique : after.UniqueIds) (h : Follows before mid) (h' : Follows mid after) :
    Follows before after := by
  refine ⟨h.kept.trans h'.kept, fun entity row hrow id hid hnot => ?_⟩
  by_cases hmid : mid.Has entity.table id
  · -- The row was added on the way to the middle, and has kept its wording since.
    obtain ⟨added, hadded, hid'⟩ := hmid
    obtain ⟨row', hrow', hkeeps⟩ := h'.kept entity added hadded
    obtain rfl := eq_of_nodup_filterMap (hunique entity) hrow hrow' hid (hkeeps.id.trans hid')
    exact hkeeps.worded (h.worded entity added hadded id hid' hnot)
  · exact h'.worded entity row hrow id hid hmid

/-- A step keeps the constraints. -/
theorem Served.constrained (hbefore : before.Constrained) (h : Served allowed before after) :
    after.Constrained ∧ Follows before after := by
  rcases h.cases with hrows | ⟨drawn, actor, request, reply, writes, hfresh, hactor, -, hgrounds, hrows⟩
  · exact ⟨hbefore.congr hrows, (Follows.refl before).congr hrows⟩
  · have hgrows := grows_of_grounds hfresh.id hactor hgrounds
    have hkeys := addsNewKeys_of_grounds hfresh.token hgrounds
    have hafter := hbefore.grown hgrows hkeys (sound_of_grounds hbefore hactor hgrounds)
    have hkept := (hgrows.intact hbefore.uniqueIds).1
    have hfollows : Follows before (writes.foldl carryOut before) :=
      ⟨hkept, fun entity row hrow id hid hnot => hgrows.worded hrow hid hnot⟩
    exact ⟨hafter.congr hrows, hfollows.congr hrows⟩

theorem follows_of_run (hstart : start.Constrained) (hrun : Relation.ReflTransGen (Served allowed) start now) :
    now.Constrained ∧ Follows start now := by
  induction hrun with
  | refl => exact ⟨hstart, .refl start⟩
  | tail _ hstep ih =>
    obtain ⟨hnow, hfollows⟩ := hstep.constrained ih.1
    exact ⟨hnow, ih.2.trans hnow.uniqueIds hfollows⟩

/-- Whatever callers do, the tables go on to meet the constraints that they are declared with: every row
can be read, identifiers, slugs, names of agents on a board and digests of tokens are unique, every column
that refers to a row finds it, status words and confidences are in range, and comments and approvals are
placed on the boards of their tasks. Every row that was not there at the start is a comment, an approval, an
agent or an entry, and its message, action, name or content is trimmed and not empty. -/
theorem run_constrained (hstart : start.Constrained) (hrun : Relation.ReflTransGen (Served allowed) start now) :
    now.Constrained ∧ ∀ entity : Entity, ∀ row ∈ now.rows entity.table, ∀ id, row.text? "id" = some id →
      ¬ start.Has entity.table id → entity.Worded row := by
  obtain ⟨hnow, hfollows⟩ := follows_of_run hstart hrun
  exact ⟨hnow, hfollows.worded⟩

theorem constrained_office : (office []).Constrained where
  uniqueIds := uniqueIds_office List.nodup_nil
  uniqueKeys entity key hkey := by
    cases entity with
    | board =>
      obtain rfl := List.mem_singleton.1 hkey
      exact (by decide : [["home"], ["away"]].Nodup)
    | agent =>
      show ([lead.record].filterMap (Record.key? key)).Nodup
      cases hlead : lead.record.key? key <;> simp [hlead]
    | task | comment | approval | memory | session => cases hkey
  rows entity row hrow := by
    have hreads := readable_office [] entity row hrow
    cases entity with
    | board => exact ⟨hreads, fun _ h => (nomatch h), fun _ h => (nomatch h), fun h => (nomatch h), by simp⟩
    | agent =>
      obtain rfl : row = lead.record := List.mem_singleton.1 hrow
      refine Agent.rowSound ?_
      rintro _ ⟨⟩
      exact ⟨_, List.mem_cons_self .., rfl⟩
    | task | comment | approval | memory | session => exact absurd hrow List.not_mem_nil

/-- The lead of the small office adds a note to the memory of its board. -/
theorem served_office : Served (fun _ _ _ => True) (office [])
    ((Request.createMemory "b1" ⟨"  note ", none, none⟩ "2024-01-02").run lead (office []) Entropy.counting).2.1 := by
  refine .serve (resolves_office []) _ trivial none _ (fun id hid => ?_) fun token htoken => ?_
  · have hids : (Request.createMemory "b1" ⟨"  note ", none, none⟩ "2024-01-02").identifiers lead (office [])
        Entropy.counting = ["0102030405060708090a0b0c0d0e0f10"] := by
      decide +kernel
    obtain rfl := List.mem_singleton.1 (hids ▸ hid)
    intro entity
    cases entity <;> unfold Has <;> decide
  · have htokens : (Request.createMemory "b1" ⟨"  note ", none, none⟩ "2024-01-02").tokens lead (office [])
        Entropy.counting = [] := by
      decide +kernel
    exact absurd (htokens ▸ htoken) List.not_mem_nil

/-- The note of the lead is in the memory, trimmed, and the office still meets its constraints. -/
theorem run_constrained_office : ∃ now, (office []).Constrained ∧
    Relation.ReflTransGen (Served fun _ _ _ => True) (office []) now ∧ now.Constrained ∧
    ∃ row ∈ now.rows "board_memory", row.text? "content" = some "note" ∧ Entity.memory.Worded row := by
  have hrun := Relation.ReflTransGen.single served_office
  obtain ⟨hnow, hworded⟩ := run_constrained constrained_office hrun
  refine ⟨_, constrained_office, hrun, hnow, ?_⟩
  have hrows : (((Request.createMemory "b1" ⟨"  note ", none, none⟩ "2024-01-02").run lead (office [])
      Entropy.counting).2.1.rows "board_memory").map (fun row => (row.text? "id", row.text? "content")) =
      [(some "0102030405060708090a0b0c0d0e0f10", some "note")] := by
    decide +kernel
  obtain ⟨row, heq, hcolumns⟩ := List.map_eq_singleton_iff.1 hrows
  obtain ⟨hid, hcontent⟩ := Prod.mk.inj hcolumns
  have hrow := heq ▸ List.mem_singleton_self row
  exact ⟨row, hrow, hcontent, hworded .memory row hrow _ hid (by unfold Has; decide)⟩

end Taskboard.Endpoint
