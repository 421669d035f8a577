/-
Entities that are saved. Every entity is held as a row with just the columns that its table declares, so
what a store in memory does with it is what the statement that it logs says (`saves_execute`): one entity that
is added or put in the place of the one with its identifier, or several in one trip.
-/
import Mathlib.Data.List.Sort
import Taskboard.Proofs.Storage.Growth
import Taskboard.Proofs.Storage.Trips
import Taskboard.Proofs.Storage.Writes

namespace Taskboard

open Sql Tables

/-! ## Rows of entities -/

namespace Entity

/-- The columns of an entity, by name. -/
def record : (entity : Entity) → entity.Value → Record
  | .board => Board.record
  | .task => Task.record
  | .comment => TaskComment.record
  | .agent => Agent.record
  | .approval => Approval.record
  | .memory => MemoryEntry.record
  | .session => OnboardingSession.record

/-- The identifier of an entity. -/
def key : (entity : Entity) → entity.Value → String
  | .board => Board.id
  | .task => Task.id
  | .comment => TaskComment.id
  | .agent => Agent.id
  | .approval => Approval.id
  | .memory => MemoryEntry.id
  | .session => OnboardingSession.id

variable (entity : Entity) (value : entity.Value)

theorem encode_eq : entity.model.encode value = .object (entity.record value) := by
  cases entity <;> rfl

theorem text?_record : (entity.record value).text? "id" = some (entity.key value) := by
  cases entity <;> rfl

theorem plain : entity.model.schema.Plain := by
  cases entity <;> exact ⟨by decide +kernel, by decide +kernel, by decide +kernel, by decide +kernel⟩

/-- The columns of an entity are those that its table declares, in the order of their names. -/
theorem names_record : (entity.record value).map Prod.fst = entity.model.schema.fields.insertionSort (· ≤ ·) := by
  cases entity <;> rfl

theorem exact_record : (entity.record value).Exact entity.model.schema.fields where
  ordered := by
    have hsorted := List.pairwise_insertionSort (· ≤ ·) entity.model.schema.fields
    have hnodup := (List.perm_insertionSort (· ≤ ·) entity.model.schema.fields).nodup_iff.2 entity.plain.nodup
    rw [← entity.names_record value] at hsorted hnodup
    exact List.pairwise_map.1 ((hsorted.and hnodup).imp fun h => lt_of_le_of_ne h.1 h.2)
  isSome_lookup_iff name := by
    rw [Record.isSome_lookup_iff_mem, names_record, List.mem_insertionSort]

end Entity

/-! ## Tables in good order -/

namespace Tables

/-- Every row of a kind has just the columns of its table. -/
def ExactRows (tables : Tables) (entity : Entity) : Prop :=
  ∀ row ∈ tables.rows entity.table, row.Exact entity.model.schema.fields

/-- The rows of a kind have just the columns of their table, and no two of them one identifying value. -/
structure WellKept (tables : Tables) (entity : Entity) : Prop where
  exact : tables.ExactRows entity
  distinct : DistinctIds entity.model.schema.idField (tables.rows entity.table)

variable {s t : Tables} {entity : Entity}

theorem ExactRows.congr (h : s.ExactRows entity) (hrows : t.rows = s.rows) : t.ExactRows entity := by
  unfold ExactRows
  rw [hrows]
  exact h

theorem WellKept.congr (h : s.WellKept entity) (hrows : t.rows = s.rows) : t.WellKept entity :=
  ⟨h.exact.congr hrows, hrows ▸ h.distinct⟩

end Tables

/-- An entity to save: to add, or to put in the place of the one with its identifier. -/
structure Saving where
  kind : WriteKind
  entity : Entity
  value : entity.Value

namespace Saving

/-- The write of the row that the entity is held as. -/
def write (saving : Saving) : Write :=
  ⟨saving.kind, saving.entity.model.schema, saving.entity.record saving.value⟩

/-- An entity that is added has an identifier that no row of its kind has. -/
def Fits (tables : Tables) (saving : Saving) : Prop :=
  saving.kind = .insert → ¬ tables.Has saving.entity.table (saving.entity.key saving.value)

/-- Every entity that is added has an identifier that no row of its kind has when its turn comes. -/
def AllFit (tables : Tables) : List Saving → Prop
  | [] => True
  | saving :: rest => saving.Fits tables ∧ AllFit (tables.carryOut saving.write) rest

variable {s : Tables} {entity : Entity} (saving : Saving)

theorem exactRows (h : s.ExactRows entity) : (s.carryOut saving.write).ExactRows entity := fun row hrow => by
  rcases mem_of_mem_carryOut hrow with hstored | ⟨htable, rfl⟩
  · exact h row hstored
  · obtain rfl := Entity.table_injective htable
    exact saving.entity.exact_record saving.value

/-- Identifying values stay different when a row takes the place of the one with its identifier, or is added with an
identifier that no row has. -/
theorem distinct (hfits : saving.Fits s) (h : DistinctIds entity.model.schema.idField (s.rows entity.table)) :
    DistinctIds entity.model.schema.idField ((s.carryOut saving.write).rows entity.table) := by
  obtain ⟨kind, saved, value⟩ := saving
  by_cases hother : entity = saved
  · subst hother
    have hid : (entity.record value).text? entity.model.schema.idField = some (entity.key value) := by
      rw [entity.idField_eq, entity.text?_record]
    cases kind with
    | insert =>
      have hrows : (s.carryOut (Saving.write ⟨.insert, entity, value⟩)).rows entity.table =
          s.rows entity.table ++ [entity.record value] := rows_added
      rw [hrows]
      refine h.added hid fun stored hstored hkey => hfits rfl ⟨stored, hstored, ?_⟩
      rwa [entity.idField_eq] at hkey
    | update =>
      have hrows : (s.carryOut (Saving.write ⟨.update, entity, value⟩)).rows entity.table =
          (s.rows entity.table).map fun stored =>
            if stored.text? entity.model.schema.idField = some (entity.key value) then entity.record value
            else stored :=
        (rows_carryOut_update hid).trans (replaceFirst_eq_map h.nodup_texts)
      rw [hrows]
      exact h.replaced hid
  · have hrows : (s.carryOut (Saving.write ⟨kind, saved, value⟩)).rows entity.table = s.rows entity.table :=
      rows_of_other hother
    rw [hrows]
    exact h

theorem wellKept (hfits : saving.Fits s) (h : s.WellKept entity) : (s.carryOut saving.write).WellKept entity :=
  ⟨saving.exactRows h.exact, saving.distinct hfits h.distinct⟩

/-! ## Statements that are executed -/

/-- What the statement of a saving says is what the store does. -/
theorem carryOut_execute (h : s.WellKept saving.entity) : ∃ statement, saving.write.statement = .ok statement ∧
    s.execute? statement = some (s.carryOut saving.write) := by
  obtain ⟨kind, entity, value⟩ := saving
  have hrow := entity.exact_record value
  cases kind with
  | insert => exact Write.execute?_insertStatement entity.plain hrow s
  | update =>
    have hid : (entity.record value).text? entity.model.schema.idField = some (entity.key value) := by
      rw [entity.idField_eq, entity.text?_record]
    exact Write.execute?_updateStatement entity.plain hrow hid h.exact h.distinct

/-- Savings one after another do what their statements say, one after another. -/
theorem carryOuts_execute {savings : List Saving} (h : ∀ saving ∈ savings, s.WellKept saving.entity)
    (hfit : AllFit s savings) : ∃ statements, savings.map (·.write.statement) = statements.map .ok ∧
      s.executeAll? statements = some ((savings.map write).foldl carryOut s) := by
  induction savings generalizing s with
  | nil => exact ⟨[], rfl, rfl⟩
  | cons saving savings ih =>
    obtain ⟨hfits, hrest⟩ := hfit
    obtain ⟨statement, hstatement, hexecute⟩ := saving.carryOut_execute (h saving (List.mem_cons_self ..))
    obtain ⟨statements, hstatements, hexecutes⟩ :=
      ih (fun other hother => saving.wellKept hfits (h other (List.mem_cons_of_mem _ hother))) hrest
    refine ⟨statement :: statements, ?_, ?_⟩
    · rw [List.map_cons, List.map_cons, hstatement, hstatements]
    · rw [executeAll?, List.foldlM_cons, hexecute]
      exact hexecutes

theorem wellKept_all {savings : List Saving} (hfit : AllFit s savings) (h : s.WellKept entity) :
    ((savings.map write).foldl carryOut s).WellKept entity := by
  induction savings generalizing s with
  | nil => exact h
  | cons saving savings ih => exact ih hfit.2 (saving.wellKept hfit.1 h)

end Saving

/-! ## Trips of writes -/

namespace Tables

theorem calls_carryOuts (writes : List Write) (tables : Tables) :
    (writes.foldl carryOut tables).calls = tables.calls := by
  induction writes generalizing tables with
  | nil => rfl
  | cons w writes ih =>
    rw [List.foldl_cons, ih]
    unfold carryOut
    split
    · rfl
    · split <;> rfl

/-- One write is a trip of its own. -/
theorem write_eq_batch (w : Write) (tables : Tables) : tables.write w = tables.batch [w] := by
  unfold write batch
  rw [logWrites]
  split <;> rfl

/-- Several writes are all carried out, or no row changes. -/
theorem rows_batch (writes : List Write) (tables : Tables) :
    (tables.batch writes).2.rows = tables.rows ∨
      (tables.batch writes).2.rows = (writes.foldl carryOut tables).rows := by
  have hrows := logWrites_rows writes tables
  unfold batch
  rcases hlog : tables.logWrites writes with ⟨e | _, logged⟩ <;> rw [hlog] at hrows
  · exact .inl hrows
  · exact .inr (carryOuts_congr writes hrows)

end Tables

/-- What becomes of savings: one statement for each is logged, and the rows are those that the statements give when
they are executed one after another; or a failure that waited is met, and no row changes. -/
inductive Saves (s : Tables) (savings : List Saving) : Except StorageError Unit × Tables × Entropy → Prop
  | done {statements : List Statement} {executed after : Tables} {source : Entropy}
      (hstatements : savings.map (·.write.statement) = statements.map .ok)
      (hcalls : after.calls = s.calls ++ List.zipWith (fun saving => saving.write.call) savings statements)
      (hexecuted : s.executeAll? statements = some executed) (hrows : after.rows = executed.rows) :
      Saves s savings (.ok (), after, source)
  | failed {e : StorageError} {after : Tables} {source : Entropy} (hfault : s.fault? ≠ none)
      (hrows : after.rows = s.rows) : Saves s savings (.error e, after, source)

variable {s : Tables} {entity : Entity}

theorem saves_batch {savings : List Saving} {statements : List Statement}
    (hstatements : savings.map (·.write.statement) = statements.map .ok)
    (hexecuted : s.executeAll? statements = some ((savings.map Saving.write).foldl carryOut s)) (source : Entropy) :
    Saves s savings ((s.batch (savings.map Saving.write)).1, (s.batch (savings.map Saving.write)).2, source) := by
  have hwrites : (savings.map Saving.write).map Write.statement = statements.map .ok := by
    rw [List.map_map]
    exact hstatements
  unfold batch
  rcases s.logWrites_ends (savings.map Saving.write) with ⟨_, hpasses, hlog⟩ | ⟨e, after, hstops, hlog⟩
  · obtain rfl := hpasses.unique hwrites
    rw [hlog]
    refine .done hstatements ?_ hexecuted (carryOuts_congr _ rfl)
    rw [calls_carryOuts, noting, List.zipWith_map_left]
  · rw [hlog]
    exact .failed (hstops.fault_ne_none hwrites) hstops.rows

/-- One saving is one write. -/
theorem run_send (saving : Saving) (s : Tables) (source : Entropy) :
    (saving.entity.model.send saving.kind saving.value).run store s source =
      ((s.batch [saving.write]).1, (s.batch [saving.write]).2, source) := by
  unfold Model.send
  rw [saving.entity.encode_eq, ← write_eq_batch]
  rfl

/-- The write of a saving, as a caller puts it together. -/
def Saving.asked (saving : Saving) : Except StorageError Write :=
  Write.ofJson saving.kind saving.entity.model.schema (saving.entity.model.encode saving.value)

theorem Saving.map_asked (savings : List Saving) :
    savings.map Saving.asked = (savings.map Saving.write).map .ok := by
  rw [List.map_map]
  refine List.map_congr_left fun saving _ => ?_
  rw [Saving.asked, saving.entity.encode_eq]
  rfl

theorem run_sendAll (savings : List Saving) (s : Tables) (source : Entropy) :
    (Flow.sendAll (savings.map Saving.asked)).run store s source =
      ((s.batch (savings.map Saving.write)).1, (s.batch (savings.map Saving.write)).2, source) := by
  rw [Saving.map_asked, Flow.sendAll_ok]
  rfl

/-- A saved entity leaves its table as the statement that is logged says, with just the columns of the table in every
row and, unless one with its identifier was there and it was added, with different identifying values. -/
theorem send_executes (saving : Saving) (hkept : s.WellKept saving.entity) (source : Entropy) :
    let ended := (saving.entity.model.send saving.kind saving.value).run store s source
    Saves s [saving] ended ∧ ended.2.1.ExactRows saving.entity ∧
      (saving.Fits s → ended.2.1.WellKept saving.entity) := by
  obtain ⟨statement, hstatement, hexecute⟩ := saving.carryOut_execute hkept
  have hexecutes : s.executeAll? [statement] = some (([saving].map Saving.write).foldl carryOut s) := by
    rw [executeAll?, List.foldlM_cons, hexecute]
    rfl
  have hstatements : [saving].map (·.write.statement) = [statement].map .ok := congrArg (fun x => [x]) hstatement
  have hsaves := saves_batch hstatements hexecutes source
  rw [run_send]
  refine ⟨hsaves, ?_, fun hfits => ?_⟩
  · rcases rows_batch [saving.write] s with hrows | hrows
    · exact hkept.exact.congr hrows
    · exact (saving.exactRows hkept.exact).congr hrows
  · rcases rows_batch [saving.write] s with hrows | hrows
    · exact hkept.congr hrows
    · exact (saving.wellKept hfits hkept).congr hrows

/-- Where rows have just the columns of their tables and no two rows of a table one identifying value, a store does
to its tables what the statements that it logs say. An entity that is added or overwritten leaves its table as the
database leaves it that executes the statement; several in one trip, of which those that are added have identifiers
that are not there yet, leave all tables as the database that executes their statements in order. The rows still
have just the columns of their tables then, and different identifying values unless an entity was added whose
identifier was there. -/
theorem saves_execute (s : Tables) (source : Entropy) :
    (∀ (entity : Entity) (value : entity.Value), s.WellKept entity →
      (let ended := (entity.model.insert value).run store s source
       Saves s [⟨.insert, entity, value⟩] ended ∧ ended.2.1.ExactRows entity ∧
         (¬ s.Has entity.table (entity.key value) → ended.2.1.WellKept entity)) ∧
      (let ended := (entity.model.update value).run store s source
       Saves s [⟨.update, entity, value⟩] ended ∧ ended.2.1.WellKept entity)) ∧
    ∀ savings : List Saving, (∀ saving ∈ savings, s.WellKept saving.entity) → Saving.AllFit s savings →
      let ended := (Flow.sendAll (savings.map Saving.asked)).run store s source
      Saves s savings ended ∧ ∀ entity, s.WellKept entity → ended.2.1.WellKept entity := by
  refine ⟨fun entity value hkept => ⟨?_, ?_⟩, fun savings hkept hfit => ?_⟩
  · obtain ⟨hsaves, hexact, hwell⟩ := send_executes ⟨.insert, entity, value⟩ hkept source
    exact ⟨hsaves, hexact, fun hnew => hwell fun _ => hnew⟩
  · obtain ⟨hsaves, -, hwell⟩ := send_executes ⟨.update, entity, value⟩ hkept source
    exact ⟨hsaves, hwell fun hkind => by cases hkind⟩
  · obtain ⟨statements, hstatements, hexecuted⟩ := Saving.carryOuts_execute hkept hfit
    have hsaves := saves_batch hstatements hexecuted source
    rw [run_sendAll]
    refine ⟨hsaves, fun entity hentity => ?_⟩
    rcases rows_batch (savings.map Saving.write) s with hrows | hrows
    · exact hentity.congr hrows
    · exact (Saving.wellKept_all hfit hentity).congr hrows

/-! ## A small shelf -/

/-- Two boards. -/
def shelf : Tables where
  rows
    | "boards" => [Board.record ⟨"b1", "Home", "home", none, "", ""⟩, Board.record ⟨"b2", "Away", "away", none, "", ""⟩]
    | _ => []
  calls := []
  fault? := none

theorem wellKept_shelf : shelf.WellKept .board where
  exact := List.forall_mem_cons.2
    ⟨Entity.exact_record .board _, List.forall_mem_singleton.2 (Entity.exact_record .board _)⟩
  distinct := List.pairwise_pair.2 rfl

/-- A board that is not there yet. -/
def lab : Board :=
  ⟨"b3", "Lab", "lab", some "Trials", "", ""⟩

/-- A board that is added, then a board that is overwritten. -/
def moves : List Saving :=
  [⟨.insert, .board, lab⟩, ⟨.update, .board, (⟨"b1", "House", "home", none, "", ""⟩ : Board)⟩]

theorem lab_isNew : ¬ shelf.Has Entity.board.table (Entity.board.key lab) := by
  rintro ⟨row, hrow, hid⟩
  rcases List.mem_pair.1 hrow with rfl | rfl <;> exact absurd hid (by decide)

theorem allFit_moves : Saving.AllFit shelf moves :=
  ⟨fun _ => lab_isNew, ⟨fun hkind => (by decide : WriteKind.update ≠ .insert) hkind |>.elim, trivial⟩⟩

theorem saves_execute_shelf :
    shelf.WellKept .board ∧ Saving.AllFit shelf moves ∧
      Saves shelf [⟨.insert, .board, lab⟩] ((Board.model.insert lab).run store shelf .counting) ∧
      ((Board.model.insert lab).run store shelf .counting).2.1.WellKept .board ∧
      Saves shelf moves ((Flow.sendAll (moves.map Saving.asked)).run store shelf .counting) ∧
      ((Flow.sendAll (moves.map Saving.asked)).run store shelf .counting).2.1.WellKept .board := by
  have hkept : ∀ saving ∈ moves, shelf.WellKept saving.entity :=
    List.forall_mem_cons.2 ⟨wellKept_shelf, List.forall_mem_singleton.2 wellKept_shelf⟩
  obtain ⟨hone, hmany⟩ := saves_execute shelf .counting
  obtain ⟨hsaves, -, hwell⟩ := (hone .board lab wellKept_shelf).1
  have hended := hmany moves hkept allFit_moves
  exact ⟨wellKept_shelf, allFit_moves, hsaves, hwell lab_isNew, hended.1, hended.2 .board wellKept_shelf⟩

end Taskboard
