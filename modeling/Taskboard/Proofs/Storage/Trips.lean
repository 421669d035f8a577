/-
Trips of writes to tables. A failure that waits strikes the first write that it waits for and spares the others. So
writes are logged with their statements one after another as long as each has one and is spared (`logWrites_passed`),
and that is all, or they stop at the first that is not (`logWrites_ends`).
-/
import Taskboard.Proofs.Storage.Queries

namespace Taskboard

open Tables

/-! ## One write -/

/-- The round trip of a write with its statement. -/
def Write.call (w : Write) (statement : Statement) : Call :=
  ⟨kindOf w.kind, w.schema.table, statement.text⟩

/-- A failure waits for the round trip of a write. -/
def Fault.Strikes (fault : Fault) (w : Write) : Prop :=
  ∀ kind ∈ fault.target?, kind = kindOf w.kind

theorem Fault.strikes_iff {fault : Fault} {w : Write} :
    fault.Strikes w ↔ fault.target?.all (· == kindOf w.kind) = true := by
  unfold Strikes
  cases fault.target? <;> simp

namespace Tables

/-- The failure that waits, if there is one, does not wait for a write. -/
def Spares (tables : Tables) (w : Write) : Prop :=
  ∀ fault ∈ tables.fault?, ¬ fault.Strikes w

/-- The tables once the failure that waits has been met. -/
def struck (tables : Tables) : Tables :=
  { tables with fault? := none }

variable {tables : Tables} {w : Write} {statement : Statement}

theorem log_of_spared (h : tables.Spares w) (statement : Statement) :
    tables.log (w.call statement) = (.ok (), tables.noting [w.call statement]) := by
  unfold log
  split
  · rfl
  · rename_i fault hfault
    exact if_neg (mt Fault.strikes_iff.2 (h fault hfault))

theorem log_of_struck {fault : Fault} (hfault : fault ∈ tables.fault?) (h : fault.Strikes w) (statement : Statement) :
    tables.log (w.call statement) = (.error fault.error, (tables.noting [w.call statement]).struck) := by
  unfold log
  rw [Option.mem_def.1 hfault]
  exact if_pos (Fault.strikes_iff.1 h)

theorem logWrite_of_statement (h : w.statement = .ok statement) :
    tables.logWrite w = tables.log (w.call statement) := by
  unfold logWrite
  rw [h]
  rfl

theorem logWrite_of_error {e : StorageError} (h : w.statement = .error e) :
    tables.logWrite w = (.error e, tables) := by
  unfold logWrite
  rw [h]

/-! ## Several writes -/

/-- Writes have these statements, and the failure that waits is for none of them. -/
structure Passes (tables : Tables) (writes : List Write) (statements : List Statement) : Prop where
  statements : writes.map Write.statement = statements.map .ok
  spared : ∀ w ∈ writes, tables.Spares w

/-- Writes stop at one of them with an error. What was logged up to there stays logged: the write itself too, if a
failure waited for it, and that failure waits no longer; but not a write without a statement, and then whatever
failure waits still waits. -/
inductive Stops (tables : Tables) : List Write → StorageError → Tables → Prop
  | struck {before behind : List Write} {w : Write} {statements : List Statement} {statement : Statement}
      {fault : Fault} (hbefore : tables.Passes before statements) (hstatement : w.statement = .ok statement)
      (hfault : fault ∈ tables.fault?) (hstrikes : fault.Strikes w) :
      Stops tables (before ++ w :: behind) fault.error
        (tables.noting (List.zipWith Write.call before statements ++ [w.call statement])).struck
  | unsendable {before behind : List Write} {w : Write} {statements : List Statement} {e : StorageError}
      (hbefore : tables.Passes before statements) (hstatement : w.statement = .error e) :
      Stops tables (before ++ w :: behind) e (tables.noting (List.zipWith Write.call before statements))

variable {writes : List Write} {statements : List Statement}

/-- Whether writes pass depends on nothing but the failure that waits. -/
theorem Passes.congr {s t : Tables} (h : s.Passes writes statements) (hfault : t.fault? = s.fault?) :
    t.Passes writes statements :=
  ⟨h.statements, fun w hw fault hwaits => h.spared w hw fault (hfault ▸ hwaits)⟩

/-- Writes that pass are logged with their statements. -/
theorem logWrites_passed (h : tables.Passes writes statements) (behind : List Write) :
    tables.logWrites (writes ++ behind) =
      (tables.noting (List.zipWith Write.call writes statements)).logWrites behind := by
  induction writes generalizing tables statements with
  | nil => exact congrArg (logWrites · behind) tables.noting_nil.symm
  | cons w writes ih =>
    obtain ⟨statement, statements, rfl, hstatement, hrest⟩ := List.map_eq_cons_iff.1 h.statements.symm
    obtain ⟨hspared, hspareds⟩ := List.forall_mem_cons.1 h.spared
    have hpasses : (tables.noting [w.call statement]).Passes writes statements := ⟨hrest.symm, hspareds⟩
    rw [List.cons_append, logWrites, logWrite_of_statement hstatement.symm, log_of_spared hspared]
    exact (ih hpasses).trans (congrArg (logWrites · behind) (tables.noting_noting _ _))

/-- All writes pass, or there is a first that does not. -/
theorem passes_or (tables : Tables) (writes : List Write) :
    (∃ statements, tables.Passes writes statements) ∨
      ∃ before w behind statements, writes = before ++ w :: behind ∧ tables.Passes before statements ∧
        ((∃ e, w.statement = .error e) ∨
          ∃ statement, w.statement = .ok statement ∧ ∃ fault ∈ tables.fault?, fault.Strikes w) := by
  induction writes with
  | nil => exact .inl ⟨[], rfl, nofun⟩
  | cons w writes ih =>
    have hnil : tables.Passes [] [] := ⟨rfl, nofun⟩
    rcases hstatement : w.statement with e | statement
    · exact .inr ⟨[], w, writes, [], rfl, hnil, .inl ⟨e, hstatement⟩⟩
    by_cases hspared : tables.Spares w
    · -- A write that is spared only puts itself in front, of all that pass or of those before the first that does not.
      have hcons : ∀ {others statements}, tables.Passes others statements →
          tables.Passes (w :: others) (statement :: statements) := fun hothers =>
        ⟨congrArg₂ List.cons hstatement hothers.statements, List.forall_mem_cons.2 ⟨hspared, hothers.spared⟩⟩
      rcases ih with ⟨statements, hpasses⟩ | ⟨before, other, behind, statements, rfl, hpasses, hother⟩
      · exact .inl ⟨statement :: statements, hcons hpasses⟩
      · exact .inr ⟨w :: before, other, behind, statement :: statements, rfl, hcons hpasses, hother⟩
    · obtain ⟨fault, hfault, hstrikes⟩ : ∃ fault ∈ tables.fault?, fault.Strikes w := by
        unfold Spares at hspared
        push Not at hspared
        exact hspared
      exact .inr ⟨[], w, writes, [], rfl, hnil, .inr ⟨statement, hstatement, fault, hfault, hstrikes⟩⟩

/-- Writes are all logged with their statements, or they stop. -/
theorem logWrites_ends (tables : Tables) (writes : List Write) :
    (∃ statements, tables.Passes writes statements ∧
      tables.logWrites writes = (.ok (), tables.noting (List.zipWith Write.call writes statements))) ∨
    ∃ e after, tables.Stops writes e after ∧ tables.logWrites writes = (.error e, after) := by
  -- What passes is logged first; then either nothing is left, or the write that does not pass decides.
  rcases tables.passes_or writes with ⟨statements, hpasses⟩ |
    ⟨before, w, behind, statements, rfl, hpasses, ⟨e, hstatement⟩ | ⟨statement, hstatement, fault, hfault, hstrikes⟩⟩
  · refine .inl ⟨statements, hpasses, ?_⟩
    rw [← List.append_nil writes, logWrites_passed hpasses, List.append_nil]
    rfl
  · refine .inr ⟨e, _, .unsendable hpasses hstatement, ?_⟩
    rw [logWrites_passed hpasses, logWrites, logWrite_of_error hstatement]
  · refine .inr ⟨fault.error, _, .struck hpasses hstatement hfault hstrikes, ?_⟩
    have hnoted : fault ∈ (tables.noting (List.zipWith Write.call before statements)).fault? := hfault
    rw [logWrites_passed hpasses, logWrites, logWrite_of_statement hstatement, log_of_struck hnoted hstrikes,
      ← noting_noting]

/-- Writes that have statements stop at nothing but a failure that waits. -/
theorem Stops.fault_ne_none {e : StorageError} {after : Tables} (h : tables.Stops writes e after)
    (hstatements : writes.map Write.statement = statements.map .ok) : tables.fault? ≠ none := by
  cases h with
  | struck _ _ hfault _ => exact Option.ne_none_iff_exists'.2 ⟨_, hfault⟩
  | @unsendable before behind w _ e _ hstatement =>
    have hmem : w.statement ∈ statements.map Except.ok :=
      hstatements ▸ List.mem_map_of_mem (List.mem_append_right before (List.mem_cons_self ..))
    rw [hstatement] at hmem
    obtain ⟨_, -, hok⟩ := List.mem_map.1 hmem
    cases hok

/-- Writes that stop change no row. -/
theorem Stops.rows {e : StorageError} {after : Tables} (h : tables.Stops writes e after) :
    after.rows = tables.rows := by
  cases h <;> rfl

/-- The statements that writes pass with are theirs. -/
theorem Passes.unique (h : tables.Passes writes statements) {others : List Statement}
    (hothers : writes.map Write.statement = others.map .ok) : statements = others :=
  List.map_injective_iff.2 (fun _ _ hok => Except.ok.inj hok) (h.statements.symm.trans hothers)

/-- Where no failure waits, writes are logged with their statements. -/
theorem logWrites_of_quiet (hquiet : tables.fault? = none)
    (hstatements : writes.map Write.statement = statements.map .ok) :
    tables.logWrites writes = (.ok (), tables.noting (List.zipWith Write.call writes statements)) := by
  rcases tables.logWrites_ends writes with ⟨_, hpasses, hlog⟩ | ⟨_, _, hstops, -⟩
  · rw [hlog, hpasses.unique hstatements]
  · exact absurd hquiet (hstops.fault_ne_none hstatements)

end Tables

end Taskboard
