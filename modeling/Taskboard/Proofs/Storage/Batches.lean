/-
Batches of writes. On tables a batch is carried out as its writes one after another would be, or it stops at the first
write that has no statement or that a failure waits for; then the tables have their rows as they had them. A database
is sent a batch in one trip with a statement for each write, or is sent nothing (`batch_atomic`).
-/
import Taskboard.Proofs.Storage.Replies

namespace Taskboard

/-! ## On tables -/

namespace Tables

/-- Writes one after another, each in a round trip of its own, until one fails. -/
def writeEach : List Write → Tables → Except StorageError Unit × Tables
  | [], tables => (.ok (), tables)
  | w :: rest, tables =>
    match tables.write w with
    | (.ok (), tables) => writeEach rest tables
    | (.error e, tables) => (.error e, tables)

variable {writes : List Write} {statements : List Statement}

/-- The log has no part in what a write does. -/
theorem carryOut_noting (tables : Tables) (trips : List Call) (w : Write) :
    (tables.noting trips).carryOut w = (tables.carryOut w).noting trips := by
  unfold carryOut
  split
  · rfl
  · dsimp only
    split <;> rfl

theorem carryOuts_noting (tables : Tables) (trips : List Call) (writes : List Write) :
    writes.foldl carryOut (tables.noting trips) = (writes.foldl carryOut tables).noting trips := by
  induction writes generalizing tables with
  | nil => rfl
  | cons w rest ih => rw [List.foldl_cons, List.foldl_cons, carryOut_noting, ih]

/-- Writes that pass are carried out one after another, each of them logged before it is. -/
theorem writeEach_passed {tables : Tables} (h : tables.Passes writes statements) : writeEach writes tables =
    (.ok (), (writes.foldl carryOut tables).noting (List.zipWith Write.call writes statements)) := by
  induction writes generalizing tables statements with
  | nil => exact congrArg (Prod.mk _) tables.noting_nil.symm
  | cons w writes ih =>
    obtain ⟨statement, statements, rfl, hstatement, hrest⟩ := List.map_eq_cons_iff.1 h.statements.symm
    obtain ⟨hspared, hspareds⟩ := List.forall_mem_cons.1 h.spared
    -- The failure that waits is still the same once the first write is carried out.
    have hpasses : ((tables.carryOut w).noting [w.call statement]).Passes writes statements :=
      Passes.congr ⟨hrest.symm, hspareds⟩ (carryOut_fault tables w)
    have hwrite : tables.write w = (.ok (), (tables.carryOut w).noting [w.call statement]) := by
      unfold write
      rw [logWrite_of_statement hstatement.symm, log_of_spared hspared, ← carryOut_noting]
    rw [writeEach, hwrite]
    dsimp only
    rw [ih hpasses, carryOuts_noting, noting_noting]
    rfl

/-- A batch is carried out as its writes one after another would be, or it stops with only the log changed. -/
theorem batch_ends (tables : Tables) (writes : List Write) :
    (∃ statements, tables.Passes writes statements ∧ tables.batch writes =
      (.ok (), (writes.foldl carryOut tables).noting (List.zipWith Write.call writes statements))) ∨
    ∃ e after, tables.Stops writes e after ∧ tables.batch writes = (.error e, after) := by
  unfold batch
  rcases tables.logWrites_ends writes with ⟨statements, hpasses, hlog⟩ | ⟨e, after, hstops, hlog⟩ <;> rw [hlog]
  · exact .inl ⟨statements, hpasses, congrArg (Prod.mk _) (carryOuts_noting _ _ _)⟩
  · exact .inr ⟨e, after, hstops, rfl⟩

/-- Where no failure waits, a batch of savings is carried out. -/
theorem batch_of_quiet {tables : Tables} (hquiet : tables.fault? = none) (savings : List Saving) :
    ∃ after, tables.batch (savings.map Saving.write) = (.ok (), after) ∧
      after.rows = ((savings.map Saving.write).foldl carryOut tables).rows := by
  have hsendable : ∀ w ∈ savings.map Saving.write, w.Sendable :=
    List.forall_mem_map.2 fun saving _ => saving.sendable
  obtain ⟨statements, hstatements⟩ := Write.exists_statements hsendable
  unfold batch
  rw [logWrites_of_quiet hquiet hstatements]
  exact ⟨_, rfl, carryOuts_congr _ rfl⟩

end Tables

/-! ## On a database -/

namespace Remote

/-- To prepare statements sends nothing. -/
theorem trips_prepareWrites (remote : Remote) (writes : List Write) :
    (remote.prepareWrites writes).2.trips = remote.trips := by
  induction writes generalizing remote with
  | nil => rfl
  | cons w rest ih =>
    rw [prepareWrites]
    rcases w.statement with e | statement
    · rfl
    have hprepare : (remote.prepare statement).2.trips = remote.trips := by
      unfold prepare
      split <;> rfl
    dsimp only
    rcases hprepared : remote.prepare statement with ⟨e | prepared, next⟩ <;> rw [hprepared] at hprepare
    · exact hprepare
    · have hrest := (ih next).trans hprepare
      dsimp only
      rcases hothers : next.prepareWrites rest with ⟨e | others, after⟩ <;> rw [hothers] at hrest <;> exact hrest

/-- Only writes that all have statements are prepared, and only where parameters can be bound. -/
theorem sendable_of_prepareWrites {remote after : Remote} {writes : List Write} {prepared : List Prepared}
    (h : remote.prepareWrites writes = (.ok prepared, after)) :
    ∀ w ∈ writes, w.Sendable ∧ remote.bindFault? = none := by
  induction writes generalizing prepared after with
  | nil => exact nofun
  | cons w rest ih =>
    rw [prepareWrites] at h
    rcases hstatement : w.statement with e | statement <;> rw [hstatement] at h
    · cases h
    rcases hbound : remote.bindFault? with _ | text
    · simp only [prepare_of_bound hbound] at h
      rcases hrest : remote.prepareWrites rest with ⟨e | others, next⟩ <;> rw [hrest] at h
      · cases h
      · have hothers := ih hrest
        rw [hbound] at hothers
        exact List.forall_mem_cons.2 ⟨⟨⟨statement, hstatement⟩, rfl⟩, hothers⟩
    · simp only [prepare, hbound] at h
      cases h

/-- A batch that is empty, or has a write without a statement, or a parameter that cannot be bound, is not sent. -/
theorem trips_batch_of_unsent {remote : Remote} {writes : List Write}
    (h : writes = [] ∨ (∃ w ∈ writes, ¬ w.Sendable) ∨ remote.bindFault? ≠ none) :
    (remote.batch writes).2.trips = remote.trips := by
  unfold batch
  split
  · rfl
  rename_i hne
  have htrips := remote.trips_prepareWrites writes
  rcases hprepare : remote.prepareWrites writes with ⟨e | prepared, after⟩ <;> rw [hprepare] at htrips
  · exact htrips
  · obtain ⟨first, hfirst⟩ := List.exists_mem_of_ne_nil writes (by simpa using hne)
    have hsendable := sendable_of_prepareWrites hprepare
    rcases h with hnil | ⟨w, hw, hnot⟩ | hbound
    · exact absurd hnil (List.ne_nil_of_mem hfirst)
    · exact absurd (hsendable w hw).1 hnot
    · exact absurd (hsendable first hfirst).2 hbound

end Remote

open Tables Remote

/-! ## All or nothing -/

/-- A batch on tables that ends well has done what its writes do one after another, with a trip of each in the log, and
whatever failure waits still waits. One that fails has left every row as it was, and has stopped at the first write
without a statement or that a failure waited for. A database is sent nothing for a batch that is empty, or has a write
without a statement, or a parameter that cannot be bound, and is sent any other in one trip with the statements of its
writes in order. -/
theorem batch_atomic (writes : List Write) (tables : Tables) (remote : Remote) :
    (∀ after, tables.batch writes = (.ok (), after) →
      writeEach writes tables = (.ok (), after) ∧ after.fault? = tables.fault? ∧
        ∃ statements, tables.Passes writes statements ∧
          after.calls = tables.calls ++ List.zipWith Write.call writes statements) ∧
    (∀ e after, tables.batch writes = (.error e, after) → after.rows = tables.rows ∧ tables.Stops writes e after) ∧
    (writes = [] ∨ (∃ w ∈ writes, ¬ w.Sendable) ∨ remote.bindFault? ≠ none →
      (remote.batch writes).2.trips = remote.trips) ∧
    (writes ≠ [] → (∀ w ∈ writes, w.Sendable) → remote.bindFault? = none →
      ∃ statements : List Statement, writes.map Write.statement = statements.map .ok ∧
        (remote.batch writes).2.trips = remote.trips ++ [⟨.batch, statements.map bound⟩]) := by
  refine ⟨fun after hended => ?_, fun e after hended => ?_, trips_batch_of_unsent, fun hne hsendable hbound => ?_⟩
  · rcases tables.batch_ends writes with ⟨statements, hpasses, hbatch⟩ | ⟨_, _, -, hbatch⟩ <;> rw [hbatch] at hended
    · obtain ⟨-, rfl⟩ := Prod.mk.inj hended
      refine ⟨writeEach_passed hpasses, carryOuts_fault writes tables, statements, hpasses, ?_⟩
      exact congrArg (· ++ _) (calls_carryOuts writes tables)
    · cases hended
  · rcases tables.batch_ends writes with ⟨_, -, hbatch⟩ | ⟨_, _, hstops, hbatch⟩ <;> rw [hbatch] at hended
    · cases hended
    · cases hended
      exact ⟨hstops.rows, hstops⟩
  · obtain ⟨statements, hstatements⟩ := Write.exists_statements hsendable
    refine ⟨statements, hstatements, ?_⟩
    show (store.batch writes remote).2.trips = _
    rw [batch_of_bound hbound hne hstatements]
    rfl

theorem sendable_moves : ∀ w ∈ moves.map Saving.write, w.Sendable :=
  List.forall_mem_map.2 fun saving _ => saving.sendable

/-- Two boards are written together, or neither is when the trip of the second fails. -/
theorem batch_atomic_moves :
    (∃ after, shelf.batch (moves.map Saving.write) = (.ok (), after) ∧
      writeEach (moves.map Saving.write) shelf = (.ok (), after)) ∧
    (∃ after, (shelf.failOn .update (.backend "offline")).batch (moves.map Saving.write) =
      (.error (.backend "offline"), after) ∧ after.rows = shelf.rows ∧ after.calls.length = 2) ∧
    ∃ statements, (Remote.batch (moves.map Saving.write) ⟨[], none, []⟩).2.trips = [⟨.batch, statements⟩] := by
  refine ⟨?_, ?_, ?_⟩
  · obtain ⟨after, hbatch, -⟩ := @batch_of_quiet shelf rfl moves
    obtain ⟨hdone, -⟩ := batch_atomic (moves.map Saving.write) shelf ⟨[], none, []⟩
    exact ⟨after, hbatch, (hdone after hbatch).1⟩
  · obtain ⟨-, hstopped, -⟩ := batch_atomic (moves.map Saving.write) (shelf.failOn .update (.backend "offline"))
      ⟨[], none, []⟩
    exact ⟨_, rfl, (hstopped _ _ rfl).1, rfl⟩
  · obtain ⟨-, -, -, hsent⟩ := batch_atomic (moves.map Saving.write) shelf ⟨[], none, []⟩
    obtain ⟨statements, -, htrips⟩ := hsent (by simp [moves]) sendable_moves rfl
    exact ⟨_, htrips⟩

/-- The two boards are not sent to a database that does not take their parameters, though both have statements. -/
theorem moves_unsent : moves.map Saving.write ≠ [] ∧ (∀ w ∈ moves.map Saving.write, w.Sendable) ∧
    ∀ statements, (Remote.batch (moves.map Saving.write) ⟨[], some "unsupported type", []⟩).2.trips ≠
      [⟨.batch, statements⟩] := by
  refine ⟨by simp [moves], sendable_moves, fun statements => ?_⟩
  rw [trips_batch_of_unsent (.inr (.inr (Option.some_ne_none _)))]
  exact nofun

end Taskboard
