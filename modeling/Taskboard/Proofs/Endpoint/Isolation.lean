/-
Boards are isolated from each other. However many requests the agents of one board make, with whatever
arguments and whatever failures, the boards stay as they are, every row that is not placed on their
board stays as it is and where it is among its like, and every row that was added or changed is placed
on their board (`run_spares`). Identifiers stay unique on the way, and each step of a run relies on it:
an update finds its row by the identifier alone.
-/
import Taskboard.Proofs.Endpoint.Confinement
import Mathlib.Logic.Relation

namespace Taskboard.Endpoint

open Taskboard.Flow Tables

variable {drawn : Nat → List UInt8 → Prop} {actor : Agent} {board : String} {before after start now : Tables}

/-! ## What stays as it is -/

/-- The rows that are not placed on a board, in their order. -/
def elsewhere (board : String) (rows : List Record) : List Record :=
  rows.filter fun row => decide (row.text? "board_id" ≠ some board)

/-- The boards are the same, and so are, in every table, the rows that are not placed on a board. -/
structure Spares (board : String) (before after : Tables) : Prop where
  boards : after.rows "boards" = before.rows "boards"
  others (table : String) : elsewhere board (after.rows table) = elsewhere board (before.rows table)

theorem Spares.refl (board : String) (tables : Tables) : Spares board tables tables :=
  ⟨rfl, fun _ => rfl⟩

theorem Spares.trans {mid : Tables} (h : Spares board before mid) (h' : Spares board mid after) :
    Spares board before after :=
  ⟨h'.boards.trans h.boards, fun table => (h'.others table).trans (h.others table)⟩

/-- A row that is not among the rows of before is placed on the board. -/
theorem Spares.board_of_new (h : Spares board before after) {table : String} {row : Record}
    (hrow : row ∈ after.rows table) (hnew : row ∉ before.rows table) : row.text? "board_id" = some board := by
  by_contra hboard
  have hmem : row ∈ elsewhere board (after.rows table) := List.mem_filter.2 ⟨hrow, decide_eq_true hboard⟩
  rw [h.others table] at hmem
  exact hnew (List.mem_filter.1 hmem).1

/-- Only the rows of two states matter. -/
theorem Spares.congr {mid : Tables} (h : Spares board before mid) (hrows : after.rows = mid.rows) :
    Spares board before after :=
  ⟨by rw [hrows]; exact h.boards, fun table => by rw [hrows]; exact h.others table⟩

/-! ## One write -/

theorem Replacement.spares (hunique : before.UniqueIds) {w : Write} (h : Replacement board before before w) :
    Spares board before (before.carryOut w) ∧ (before.carryOut w).UniqueIds := by
  obtain ⟨entity, hkind, hrow, hplace, -⟩ := h
  refine ⟨⟨rows_carryOut_of_ne (boards_ne_of_replaced _ hkind), fun table => ?_⟩,
    uniqueIds_replaced hunique hplace hrow⟩
  by_cases htable : table = entity.table
  · subst htable
    exact filter_replaced_elsewhere hunique hplace hrow (fun place? => decide (place? ≠ some board)) (by simp)
  · rw [rows_carryOut_of_ne htable]

theorem Replacement.isNew (hunique : before.UniqueIds) {w : Write} (h : Replacement board before before w)
    {id : String} (hnew : before.IsNew id) : (before.carryOut w).IsNew id := by
  obtain ⟨entity, -, hrow, hplace, -⟩ := h
  exact isNew_replaced hunique hplace hrow hnew

theorem Addition.spares (hunique : before.UniqueIds) (hnew : ∀ id, Generated drawn id → before.IsNew id) {w : Write}
    (h : Addition drawn board w) : Spares board before (before.carryOut w) ∧ (before.carryOut w).UniqueIds := by
  obtain ⟨entity, hkind, hrow, hgenerated⟩ := h
  refine ⟨⟨rows_carryOut_of_ne (boards_ne_of_added _ hkind), fun table => ?_⟩,
    uniqueIds_added hrow hunique (hnew _ hgenerated entity)⟩
  by_cases htable : table = entity.table
  · subst htable
    exact filter_added_elsewhere hrow (fun place? => decide (place? ≠ some board)) (by simp)
  · rw [rows_carryOut_of_ne htable]

/-- Writes that stay on a board spare the others, and identifiers stay unique when the new ones are new. -/
theorem Confined.spares (hunique : before.UniqueIds) (hnew : ∀ id, Generated drawn id → before.IsNew id)
    {writes : List Write} (h : Confined drawn board before before writes) :
    Spares board before (writes.foldl carryOut before) ∧ (writes.foldl carryOut before).UniqueIds := by
  cases h with
  | nothing => exact ⟨.refl board before, hunique⟩
  | replace h => exact h.spares hunique
  | add h => exact h.spares hunique hnew
  | replaceAndAdd h h' =>
    obtain ⟨hspares, hunique'⟩ := h.spares hunique
    -- The added row has an identifier that is new before the replacement, and still is behind it.
    obtain ⟨hspares', hunique''⟩ := h'.spares hunique' fun id hgenerated => h.isNew hunique (hnew id hgenerated)
    exact ⟨hspares.trans hspares', hunique''⟩

/-! ## One request -/

/-- A request of an agent of a board: the agent was authenticated on the tables as they are, any
failure may wait, and the identifiers that are generated are new. -/
inductive Turn (board : String) (before : Tables) : Tables → Prop
  | serve {actor : Agent} (hcaller : Resolves before actor) (hbound : actor.boundBoard? = some board)
    (request : Request) (fault? : Option Fault) (source : Entropy)
    (hfresh : ∀ id ∈ request.identifiers actor { before with fault? := fault? } source, before.IsNew id) :
    Turn board before (request.run actor { before with fault? := fault? } source).2.1

/-- A request spares what is not on the board of its caller, and keeps identifiers unique. -/
theorem Turn.spares (hunique : before.UniqueIds) (h : Turn board before after) :
    Spares board before after ∧ after.UniqueIds := by
  obtain ⟨hcaller, hbound, request, fault?, source, hfresh⟩ := h
  rename_i actor
  -- What is known of the random bytes is that this run draws them.
  let drawn := (request.serve actor).Drawn store { before with fault? := fault? } source
  have hnew : ∀ id, Generated drawn id → before.IsNew id := fun id h => hfresh id h.mem_identifiers
  have hstep := serve_inStep (SeenAlike.refl drawn actor before) request
  rcases hstep.rows_run (a := { before with fault? := fault? }) rfl source fun _ h => h with
    hrows | ⟨reply, writes, ⟨-, hwrites⟩, hrows⟩
  · exact ⟨(Spares.refl board before).congr hrows, hunique.congr hrows⟩
  · have hstored := stored_of_resolves hcaller
    obtain ⟨hspares, hunique'⟩ := (confined_of_writes hbound ⟨hstored, hstored⟩ hwrites).spares hunique hnew
    exact ⟨hspares.congr hrows, hunique'.congr hrows⟩

/-- An entry in the memory of the second board of the small office. -/
def kept : MemoryEntry :=
  ⟨"m1", "b2", "kept", none, none, "2024-01-01"⟩

/-- The lead of the small office adds to the memory of its board. -/
theorem turn_office : Turn "b1" (office [kept])
    ((Request.createMemory "b1" ⟨"note", none, none⟩ "2024-01-02").run lead (office [kept]) Entropy.counting).2.1 := by
  refine .serve (resolves_office _) rfl _ none _ fun id hid => ?_
  have hids : (Request.createMemory "b1" ⟨"note", none, none⟩ "2024-01-02").identifiers lead (office [kept])
      Entropy.counting = ["0102030405060708090a0b0c0d0e0f10"] := by
    decide +kernel
  obtain rfl := List.mem_singleton.1 (hids ▸ hid)
  intro entity
  cases entity <;> unfold Has <;> decide

/-! ## Runs -/

theorem spares_of_run (hunique : start.UniqueIds) (hrun : Relation.ReflTransGen (Turn board) start now) :
    Spares board start now ∧ now.UniqueIds := by
  induction hrun with
  | refl => exact ⟨.refl board start, hunique⟩
  | tail _ hturn ih =>
    obtain ⟨hspares, hunique'⟩ := hturn.spares ih.2
    exact ⟨ih.1.trans hspares, hunique'⟩

/-- Whatever the agents of one board do, the boards stay as they are, in every table the rows that are
not placed on their board stay as they are, and every row that was not there before is placed on it. -/
theorem run_spares (hunique : start.UniqueIds) (hrun : Relation.ReflTransGen (Turn board) start now) :
    now.rows "boards" = start.rows "boards" ∧
      (∀ table, elsewhere board (now.rows table) = elsewhere board (start.rows table)) ∧
      (∀ table, ∀ row ∈ start.rows table, row.text? "board_id" ≠ some board → row ∈ now.rows table) ∧
      ∀ table, ∀ row ∈ now.rows table, row ∉ start.rows table → row.text? "board_id" = some board := by
  obtain ⟨hspares, -⟩ := spares_of_run hunique hrun
  refine ⟨hspares.boards, hspares.others, fun table row hrow helse => ?_, fun table row => hspares.board_of_new⟩
  have hmem : row ∈ elsewhere board (start.rows table) := List.mem_filter.2 ⟨hrow, decide_eq_true helse⟩
  rw [← hspares.others table] at hmem
  exact (List.mem_filter.1 hmem).1

/-- What the lead of the small office adds leaves the entry of the other board where it was. -/
theorem run_spares_office : ∃ now, (office [kept]).UniqueIds ∧ Relation.ReflTransGen (Turn "b1") (office [kept]) now ∧
    (now.rows "board_memory").length = 2 ∧ now.rows "boards" = (office [kept]).rows "boards" ∧
    kept.record ∈ now.rows "board_memory" := by
  have hunique : (office [kept]).UniqueIds := uniqueIds_office (List.nodup_singleton _)
  have hrun := Relation.ReflTransGen.single turn_office
  obtain ⟨hboards, -, hpresent, -⟩ := run_spares hunique hrun
  refine ⟨_, hunique, hrun, by decide +kernel, hboards, hpresent "board_memory" _ (List.mem_singleton.2 rfl) ?_⟩
  decide

end Taskboard.Endpoint
