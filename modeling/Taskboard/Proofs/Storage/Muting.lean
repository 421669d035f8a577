/-
Failures and their texts. Of the text of a failure only one thing matters: whether it says that a constraint failed.
A database whose texts say that and nothing else answers requests as before, up to the texts (`select_muted`); so a
prudent flow that ends alike at errors that differ in text alone ends alike on both (`run_muted`).
-/
import Taskboard.Proofs.Storage.Replies

namespace Taskboard

/-- What a text says that says of a constraint that it failed, and nothing else. -/
def refusalText : String := "constraint failed"

/-- An error without the text that a database gave. -/
def StorageError.muted : StorageError → StorageError
  | .backend _ => .backend ""
  | .constraint _ => .constraint refusalText
  | .decode cause => .decode cause

namespace Remote

/-- Whether a text says that a constraint failed. -/
def saysConstraint (text : String) : Bool :=
  occurs refusalText.toList text.toList

/-- What is left of a text when it only says whether a constraint failed. -/
def mute (text : String) : String :=
  if saysConstraint text then refusalText else ""

/-- A reply with its text muted. -/
def Reply.muted : Reply → Reply
  | .rows found => .rows found
  | .failure text => .failure (mute text)

/-- A database with the texts of its failures muted. -/
def muted (remote : Remote) : Remote :=
  { remote with replies := remote.replies.map Reply.muted, bindFault? := remote.bindFault?.map mute }

/-! ## Errors -/

theorem errorOf_eq (text : String) :
    errorOf text = if saysConstraint text then .constraint text else .backend text :=
  rfl

theorem errorOf_mute (text : String) : errorOf (mute text) = (errorOf text).muted := by
  unfold mute
  cases hsays : saysConstraint text <;> rw [errorOf_eq text, hsays]
  · exact errorOf_eq ""
  · exact errorOf_eq refusalText

/-! ## Requests -/

variable (remote : Remote)

theorem prepare_muted (statement : Statement) : remote.muted.prepare statement =
    ((remote.prepare statement).1.mapError StorageError.muted, (remote.prepare statement).2.muted) := by
  obtain ⟨replies, bindFault?, trips⟩ := remote
  cases bindFault? with
  | none => rfl
  | some text =>
    show (Except.error (errorOf (mute text)), _) = (Except.error (errorOf text).muted, _)
    rw [errorOf_mute]
    rfl

theorem trip_muted (method : Method) (statements : List Prepared) : remote.muted.trip method statements =
    ((remote.trip method statements).1.mapError StorageError.muted, (remote.trip method statements).2.muted) := by
  obtain ⟨_ | ⟨_ | text, replies⟩, bindFault?, trips⟩ := remote
  · rfl
  · rfl
  · show (Except.error (errorOf (mute text)), _) = (Except.error (errorOf text).muted, _)
    rw [errorOf_mute]
    rfl

theorem send_muted (method : Method) (statement : Statement) : remote.muted.send method statement =
    ((remote.send method statement).1.mapError StorageError.muted, (remote.send method statement).2.muted) := by
  unfold send
  rw [prepare_muted]
  rcases remote.prepare statement with ⟨_ | prepared, after⟩
  · rfl
  · exact trip_muted after method [prepared]

theorem select_muted (plan : Plan) : store.select plan remote.muted =
    ((store.select plan remote).1.mapError StorageError.muted, (store.select plan remote).2.muted) :=
  send_muted remote .all plan.selectStatement

theorem write_muted {w : Write} (hw : w.Sendable) : store.write w remote.muted =
    ((store.write w remote).1.mapError StorageError.muted, (store.write w remote).2.muted) := by
  obtain ⟨statement, hstatement⟩ := hw
  show write w remote.muted = ((write w remote).1.mapError _, (write w remote).2.muted)
  unfold write
  rw [hstatement]
  simp only [send_muted]
  rcases remote.send .run statement with ⟨_ | _, _⟩ <;> rfl

theorem prepareWrites_muted {writes : List Write} (h : ∀ w ∈ writes, w.Sendable) : remote.muted.prepareWrites writes =
    ((remote.prepareWrites writes).1.mapError StorageError.muted, (remote.prepareWrites writes).2.muted) := by
  induction writes generalizing remote with
  | nil => rfl
  | cons w writes ih =>
    obtain ⟨⟨statement, hstatement⟩, hrest⟩ := List.forall_mem_cons.1 h
    unfold prepareWrites
    rw [hstatement]
    simp only [prepare_muted]
    rcases remote.prepare statement with ⟨_ | prepared, after⟩
    · rfl
    · simp only [Except.mapError, ih after hrest]
      rcases after.prepareWrites writes with ⟨_ | _, _⟩ <;> rfl

theorem batch_muted {writes : List Write} (h : ∀ w ∈ writes, w.Sendable) : store.batch writes remote.muted =
    ((store.batch writes remote).1.mapError StorageError.muted, (store.batch writes remote).2.muted) := by
  show batch writes remote.muted = ((batch writes remote).1.mapError _, (batch writes remote).2.muted)
  unfold batch
  split
  · rfl
  · rw [prepareWrites_muted remote h]
    rcases remote.prepareWrites writes with ⟨_ | prepared, after⟩
    · rfl
    · simp only [Except.mapError, trip_muted]
      rcases after.trip .batch prepared with ⟨_ | _, _⟩ <;> rfl

end Remote

namespace Flow

variable {ε α β : Type} {ended : Ask → StorageError → Except ε α}

/-- Behind an answer: a flow that ends at every error, and goes on alike from any other answer. -/
theorem run_behind_muted {ask : Ask} {k : Except StorageError β → Flow ε α}
    (hended : ∀ e, ended ask e.muted = ended ask e)
    (hfault : ∀ e, k (.error e) = .done (ended ask e)) {source : Entropy}
    (hgo : ∀ answer remote source, ((k answer).run Remote.store (Remote.muted remote) source).1 =
      ((k answer).run Remote.store remote source).1) (answer : Except StorageError β) (remote : Remote) :
    ((k (answer.mapError StorageError.muted)).run Remote.store remote.muted source).1 =
      ((k answer).run Remote.store remote source).1 := by
  cases answer with
  | ok x => exact hgo (.ok x) remote source
  | error e =>
    show ((k (.error e.muted)).run Remote.store remote.muted source).1 = _
    rw [hfault, hfault, hended]
    rfl

/-- A prudent flow that ends alike at errors that differ in text alone ends alike on databases whose failures do. -/
theorem run_muted {flow : Flow ε α} (h : flow.Prudent ended) (hended : ∀ ask e, ended ask e.muted = ended ask e)
    (remote : Remote) (source : Entropy) :
    (flow.run Remote.store remote.muted source).1 = (flow.run Remote.store remote source).1 := by
  induction h generalizing remote source with
  | done result => rfl
  | random _ ih => exact ih _ remote _
  | @select plan k _ hfault _ ih =>
    simp only [run, Remote.select_muted]
    exact run_behind_muted (hended _) (fun e => hfault _ e .select) ih _ _
  | @write w k hw hfault _ ih =>
    simp only [run, Remote.write_muted remote hw]
    exact run_behind_muted (hended _) (fun e => hfault _ e .write) ih _ _
  | @batch ws k _ hws hfault _ ih =>
    simp only [run, Remote.batch_muted remote hws]
    exact run_behind_muted (hended _) (fun e => hfault _ e .batch) ih _ _

end Flow

end Taskboard
