/-
Writes of callers that are bound to a board. Such a caller replaces at most one row of its board by a
row of its board with the same identifier, and adds at most one row, to its board and with a generated
identifier (`confined_of_writes`).
-/
import Taskboard.Proofs.Endpoint.Callers
import Taskboard.Proofs.Endpoint.Effects
import Taskboard.Proofs.Storage.Changes

namespace Taskboard.Endpoint

open Taskboard.Flow Tables

variable {drawn : Nat → List UInt8 → Prop} {actor : Agent} {board : String} {s t : Tables}

/-- The kinds of entities whose rows requests replace. -/
def replacedKinds : List Entity :=
  [.task, .agent, .session]

/-- The kinds of entities that requests add. -/
def addedKinds : List Entity :=
  [.comment, .agent, .approval, .memory]

theorem boards_ne_of_replaced : ∀ entity ∈ replacedKinds, "boards" ≠ entity.table := by
  decide

theorem boards_ne_of_added : ∀ entity ∈ addedKinds, "boards" ≠ entity.table := by
  decide

/-- A write that replaces a row of a board, in either state, by a row of the board. -/
inductive Replacement (board : String) (s t : Tables) : Write → Prop
  | update (entity : Entity) (hkind : entity ∈ replacedKinds) {id : String} {row : Record}
    (hrow : RowOn entity board id row) (hs : s.Places entity.table id (some board))
    (ht : t.Places entity.table id (some board)) : Replacement board s t ⟨.update, entity.model.schema, row⟩

/-- A write that adds a row to a board. -/
inductive Addition (drawn : Nat → List UInt8 → Prop) (board : String) : Write → Prop
  | insert (entity : Entity) (hkind : entity ∈ addedKinds) {id : String} {row : Record}
    (hrow : RowOn entity board id row) (hgenerated : Generated drawn id) :
    Addition drawn board ⟨.insert, entity.model.schema, row⟩

/-- Writes that stay on a board: at most one that replaces a row, and behind it at most one that adds
a row. -/
inductive Confined (drawn : Nat → List UInt8 → Prop) (board : String) (s t : Tables) : List Write → Prop
  | nothing : Confined drawn board s t []
  | replace {w : Write} (h : Replacement board s t w) : Confined drawn board s t [w]
  | add {w : Write} (h : Addition drawn board w) : Confined drawn board s t [w]
  | replaceAndAdd {w v : Write} (h : Replacement board s t w) (h' : Addition drawn board v) :
    Confined drawn board s t [w, v]

theorem Replacement.left {w : Write} (h : Replacement board s t w) : Replacement board s s w := by
  obtain ⟨entity, hkind, hrow, hs, -⟩ := h
  exact .update entity hkind hrow hs hs

theorem Replacement.right {w : Write} (h : Replacement board s t w) : Replacement board t t w := by
  obtain ⟨entity, hkind, hrow, -, ht⟩ := h
  exact .update entity hkind hrow ht ht

theorem Confined.mono {s' t' : Tables} {writes : List Write} (h : Confined drawn board s t writes)
    (himp : ∀ w, Replacement board s t w → Replacement board s' t' w) : Confined drawn board s' t' writes := by
  cases h with
  | nothing => exact .nothing
  | replace h => exact .replace (himp _ h)
  | add h => exact .add h
  | replaceAndAdd h h' => exact .replaceAndAdd (himp _ h) h'

/-! ## Stored entities have places -/

/-- A value that is stored has a place, when its row is read with its identifier and its board. -/
theorem places_of_stored {α : Type} {model : Model α} {x : α} {id : String} {place? : Option String}
    (hread : ∀ row : Record, model.decode? (.object row) = some x →
      row.text? "id" = some id ∧ row.text? "board_id" = place?)
    (h : ∃ row ∈ s.rows model.schema.table, model.decode? (.object row) = some x) :
    s.Places model.schema.table id place? := by
  obtain ⟨row, hrow, hdecode⟩ := h
  exact ⟨row, hrow, hread row hdecode⟩

/-! ## Writes of requests -/

theorem replacement_of_task {task before : Task} (hboard : task.boardId? = some board)
    (hstored : Task.model.Stored s t before) (hid : before.id = task.id) (hbefore : before.boardId? = some board) :
    Replacement board s t ⟨.update, Task.schema, task.record⟩ :=
  have hread : ∀ row : Record, Task.model.decode? (.object row) = some before →
      row.text? "id" = some task.id ∧ row.text? "board_id" = some board :=
    fun _ hdecode => hid ▸ hbefore ▸ Task.text?_of_ofRecord? hdecode
  .update .task (by decide) (Task.rowOn hboard) (places_of_stored hread hstored.1)
    (places_of_stored hread hstored.2)

/-- What a caller that is bound to a board writes stays on that board. -/
theorem confined_of_writes (hbound : actor.boundBoard? = some board)
    (hstored : Agent.model.Stored s t actor) {request : Request} {reply : request.Reply} {writes : List Write}
    (h : request.Writes drawn actor s t reply writes) : Confined drawn board s t writes := by
  cases request with
  | updateTask boardId taskId update now =>
    obtain ⟨hpermits, hid, hboard, ⟨before, hbefore, hsame, hplace⟩, rest, hrest, rfl⟩ := h
    obtain rfl := eq_of_permits hbound hpermits
    have hreplaced : Replacement boardId s t ⟨.update, Task.schema, Task.record reply⟩ :=
      replacement_of_task hboard hbefore (hsame.trans hid.symm) hplace
    generalize update.comment?.bind Text.nonBlank? = message? at hrest
    rcases message? with _ | message
    · obtain rfl := hrest
      exact .replace hreplaced
    · obtain ⟨id, hgenerated, rfl⟩ := hrest
      exact .replaceAndAdd hreplaced (.insert .comment (by decide) (TaskComment.rowOn hboard) hgenerated)
  | createTaskComment boardId taskId payload now =>
    obtain ⟨hpermits, -, hboard, hgenerated, rfl⟩ := h
    obtain rfl := eq_of_permits hbound hpermits
    exact .add (.insert .comment (by decide) (TaskComment.rowOn hboard) hgenerated)
  | createMemory boardId payload now =>
    obtain ⟨hpermits, entry, -, rfl, hgenerated, rfl⟩ := h
    obtain rfl := eq_of_permits hbound hpermits
    exact .add (.insert .memory (by decide) entry.rowOn hgenerated)
  | createApproval boardId payload now =>
    obtain ⟨hpermits, approval, -, rfl, hlo, hhi, hgenerated, rfl⟩ := h
    obtain rfl := eq_of_permits hbound hpermits
    exact .add (.insert .approval (by decide) (Approval.rowOn hlo hhi) hgenerated)
  | createAgent payload now =>
    obtain ⟨agent, -, ⟨boardId, hlead, hboard⟩, hgenerated, rfl⟩ := h
    obtain rfl := Option.some.inj (hbound.symm.trans hlead)
    exact .add (.insert .agent (by decide) (Agent.rowOn hboard) hgenerated)
  | updateOnboarding boardId payload now =>
    obtain ⟨hpermits, session, -, rfl, ⟨before, hbefore, hid, hboard⟩, rfl⟩ := h
    obtain rfl := eq_of_permits hbound hpermits
    have hread : ∀ row : Record, OnboardingSession.model.decode? (.object row) = some before →
        row.text? "id" = some session.id ∧ row.text? "board_id" = some session.boardId :=
      fun _ hdecode => hid ▸ hboard ▸ OnboardingSession.text?_of_ofRecord? hdecode
    exact .replace (.update .session (by decide) session.rowOn (places_of_stored hread hbefore.1)
      (places_of_stored hread hbefore.2))
  | heartbeat payload now =>
    obtain ⟨-, rfl⟩ := h
    have hboard := boardId?_of_bound hbound
    have hread : ∀ row : Record, Agent.model.decode? (.object row) = some actor →
        row.text? "id" = some actor.id ∧ row.text? "board_id" = some board :=
      fun _ hdecode => hboard ▸ Agent.text?_of_ofRecord? hdecode
    exact .replace (.update .agent (by decide) (Agent.rowOn hboard) (places_of_stored hread hstored.1)
      (places_of_stored hread hstored.2))
  | _ =>
    obtain rfl : writes = [] := h
    exact .nothing

end Taskboard.Endpoint
