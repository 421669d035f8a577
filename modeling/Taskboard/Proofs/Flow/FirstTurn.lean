/-
First turns on tables in memory. A call that only reads before its first write leaves every row as it is in
its first turn, and then has either failed or decided on its write and its reply (`Decides`). The rules follow
how such a call is put together: parts that only read (`ReadsOnly`), of which it is known what they read, and
a write at the end. The turn behind carries the write out or fails (`Tables.write_cases`).
-/
import Taskboard.Proofs.Flow.Turns
import Taskboard.Proofs.Storage.Queries

namespace Taskboard

open Tables

/-! ## Queries only read -/

section Reads

variable {α : Type}

theorem Plan.ask_readsOnly (plan : Plan) (whenEmpty : α) {request : Flow QueryError α} (h : request.ReadsOnly) :
    (plan.ask whenEmpty request).ReadsOnly := by
  unfold Plan.ask
  split
  · exact .done _
  · split
    · exact .done _
    · exact h

namespace Model

variable (model : Model α) (plan : Plan)

theorem all_readsOnly : (model.all plan).ReadsOnly :=
  plan.ask_readsOnly [] (.select fun _ => .done _)

theorem first_readsOnly : (model.first plan).ReadsOnly :=
  .bind (model.all_readsOnly (plan.take 1)) fun _ => .done _

theorem hasAny_readsOnly : (model.hasAny plan).ReadsOnly :=
  .bind (model.first_readsOnly plan) fun _ => .done _

end Model

end Reads

namespace Flow

variable {ε α β : Type} {s : Tables}

/-! ## The turn that reads -/

/-- On tables with the rows of `s`, whatever failure waits, a flow gets to its first write without a change
of a row, where what is left of it is known, or fails before. -/
def Decides (s : Tables) (flow : Flow ε α) (leaves : Flow ε α → Prop) : Prop :=
  ∀ (a : Tables) (source : Entropy), a.rows = s.rows →
    (flow.pause store a source).2.1.rows = s.rows ∧
      ((∃ e, (flow.pause store a source).1 = .done (.error e)) ∨ leaves (flow.pause store a source).1)

namespace Decides

variable {leaves : Flow ε β → Prop}

theorem fail (e : ε) : Decides s (.fail e) leaves :=
  fun _ _ ha => ⟨ha, .inl ⟨e, rfl⟩⟩

theorem commit {w : Write} {tell : StorageError → ε} {reply : β} (h : leaves (Flow.commit w tell reply)) :
    Decides s (Flow.commit w tell reply) leaves :=
  fun _ _ ha => ⟨ha, .inr h⟩

/-- Behind a flow that only reads, a flow decides when it does for every value that may be read. -/
theorem bind {flow : Flow ε α} {next : α → Flow ε β} {mid : α → Prop} (hreads : flow.ReadsOnly)
    (hflow : InStep (fun _ _ => True) s s flow flow fun x y writes => writes = [] ∧ x = y ∧ mid x)
    (hnext : ∀ x, mid x → Decides s (next x) leaves) : Decides s (flow >>= next) leaves := by
  intro a source ha
  have hread := hflow.commits ha source fun _ _ => trivial
  rw [hreads.pause_bind]
  rcases hrun : flow.run store a source with ⟨e | x, after, rest⟩ <;> rw [hrun] at hread
  · exact ⟨hread, .inl ⟨e, rfl⟩⟩
  · obtain ⟨writes, ⟨rfl, -, hmid⟩, hrows⟩ := hread
    exact hnext x hmid after rest hrows

end Decides

end Flow

/-! ## The turn that writes -/

/-- A write is carried out, or fails and leaves the rows as they are. -/
theorem Tables.write_cases (w : Write) (a : Tables) :
    (∃ e after, after.rows = a.rows ∧ store.write w a = (.error e, after)) ∨
      ∃ after, after.rows = (a.carryOut w).rows ∧ store.write w a = (.ok (), after) := by
  have hrows := logWrite_rows a w
  show (∃ e after, _ ∧ Tables.write w a = _) ∨ ∃ after, _ ∧ Tables.write w a = _
  unfold Tables.write
  rcases hlog : a.logWrite w with ⟨e | _, logged⟩ <;> rw [hlog] at hrows
  · exact .inl ⟨e, logged, hrows, rfl⟩
  · exact .inr ⟨logged.carryOut w, carryOut_congr hrows w, rfl⟩

end Taskboard
