/-
Requests that are replayed. What callers ask of tables can be asked of a database instead: as long as the replies of
the database say what the tables answered, and no parameter fails to be bound, every request is answered alike, and
the database is sent the very texts that the tables log (`serveAll_replayed`).
-/
import Taskboard.Proofs.Endpoint.Callers
import Taskboard.Proofs.Endpoint.Faults
import Taskboard.Proofs.Storage.Replies

namespace Taskboard.Endpoint

open Taskboard.Flow

/-- What requests one after another ask of a store, with the answers, the first first. -/
def historyAll {σ : Type} (store : Flow.Store σ) : List (Agent × Request) → σ → Entropy → List Exchange
  | [], _, _ => []
  | (actor, request) :: calls, state, source =>
    let (_, after, rest) := (request.serve actor).run store state source
    (request.serve actor).history store state source ++ historyAll store calls after rest

/-- Requests of callers one after another, on tables where no failure waits, are answered alike by a database that
binds every parameter and whose replies answer what is asked as the tables did; and the texts that it is sent are
those that the tables log, in the same order. -/
theorem serveAll_replayed (calls : List (Agent × Request)) {tables : Tables} (hquiet : tables.fault? = none)
    (source : Entropy) {remote : Remote} (hbound : remote.bindFault? = none)
    (hanswers : remote.Answers (historyAll Tables.store calls tables source)) :
    (serveAll Remote.store calls remote source).1 = (serveAll Tables.store calls tables source).1 ∧
      (serveAll Remote.store calls remote source).2.2 = (serveAll Tables.store calls tables source).2.2 ∧
      ∃ sent, Backend.texts .tables (serveAll Tables.store calls tables source).2.1 =
          Backend.texts .tables tables ++ sent ∧
        Backend.texts .remote (serveAll Remote.store calls remote source).2.1 =
          Backend.texts .remote remote ++ sent := by
  induction calls generalizing tables source remote with
  | nil => exact ⟨rfl, rfl, [], (List.append_nil _).symm, (List.append_nil _).symm⟩
  | cons call calls ih =>
    obtain ⟨actor, request⟩ := call
    have hprudent := serve_blames actor request
    obtain ⟨hsame, hresult, hsource⟩ := run_replayed hprudent hbound hanswers.left
    have hmakes := run_makes hprudent hbound source
    rw [hsame] at hmakes
    obtain ⟨hresults, hsources, sent, htables, hremote⟩ := ih (run_quiet (request.serve actor) hquiet source) _
      (hmakes.bindFault.trans hbound) (hmakes.answers_rest hanswers)
    rw [serveAll_cons, serveAll_cons, hresult, hsource]
    refine ⟨congrArg _ hresults, hsources,
      ((request.serve actor).history Tables.store tables source).flatMap (·.ask.texts) ++ sent, ?_, ?_⟩
    · rw [← List.append_assoc, ← texts_run_tables hprudent hquiet source]
      exact htables
    · rw [← List.append_assoc, ← hmakes.texts]
      exact hremote

/-- A task on the first board of the small office. -/
def sweep : Task where
  id := "t1"
  boardId? := some "b1"
  title := "Sweep"
  description? := none
  status := .inbox
  priority := "medium"
  assignee? := none
  creator? := none
  createdAt := "2024-01-01"
  updatedAt := "2024-01-01"

/-- The lead takes up the task and comments on it, then gives a sign of life. -/
def workday : List (Agent × Request) :=
  [(lead, .updateTask "b1" "t1" ⟨some "in_progress", .keep, some "on it"⟩ "2024-01-02"),
    (lead, .heartbeat ⟨"Ada", none⟩ "2024-01-03")]

/-- A database that replies what the small office answers on a workday. -/
def workdayRemote : Remote where
  replies := (historyAll Tables.store workday ((office []).seed "tasks" [sweep.record]) Entropy.counting).filterMap
    Exchange.reply?
  bindFault? := none
  trips := []

theorem serveAll_replayed_workday :
    ((office []).seed "tasks" [sweep.record]).fault? = none ∧ workdayRemote.bindFault? = none ∧
      workdayRemote.Answers
        (historyAll Tables.store workday ((office []).seed "tasks" [sweep.record]) Entropy.counting) ∧
      Backend.texts .remote (serveAll Remote.store workday workdayRemote Entropy.counting).2.1 =
        ["SELECT * FROM boards WHERE id = ?1 LIMIT ?2",
          "SELECT * FROM tasks WHERE id = ?1 AND board_id = ?2 LIMIT ?3",
          "UPDATE tasks SET board_id = ?1, title = ?2, description = ?3, status = ?4, priority = ?5, " ++
            "assigned_agent_id = ?6, created_by_agent_id = ?7, created_at = ?8, updated_at = ?9 WHERE id = ?10",
          "INSERT INTO task_comments (id, task_id, board_id, author_agent_id, message, created_at) " ++
            "VALUES (?1, ?2, ?3, ?4, ?5, ?6)",
          "UPDATE agents SET board_id = ?1, name = ?2, status = ?3, is_board_lead = ?4, agent_token_hash = ?5, " ++
            "last_seen_at = ?6, created_at = ?7, updated_at = ?8 WHERE id = ?9"] := by
  have hanswers : workdayRemote.Answers
      (historyAll Tables.store workday ((office []).seed "tasks" [sweep.record]) Entropy.counting) :=
    Remote.answers_of_replies (List.all_eq_true.1 (by decide +kernel)) rfl
  refine ⟨rfl, rfl, hanswers, ?_⟩
  obtain ⟨-, -, sent, htables, hremote⟩ := serveAll_replayed workday rfl Entropy.counting rfl hanswers
  rw [hremote]
  refine htables.symm.trans ?_
  decide +kernel

end Taskboard.Endpoint
