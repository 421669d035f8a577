/-
Calls that run side by side. A call takes turns: one turn goes on up to the next write, which is left for
the turn after it, so a call that decides on one write and then replies takes two turns, one that reads and
one that writes. Turns of several calls on one store may follow one another in any order (`Race.after`), and
turns that nothing comes between make the run of the call (`run_advance`). What is preserved by one turn
holds after any turns (`Race.after_induction`).
-/
import Taskboard.Proofs.Flow.Run
import Mathlib.Logic.Function.Basic
import Mathlib.Data.List.Induction

namespace Taskboard

namespace Flow

variable {ε δ α β σ : Type}

/-! ## Turns of one flow -/

/-- Goes on up to the first write: what is then left of the flow, of the store and of the source. -/
def pause (store : Store σ) : Flow ε α → σ → Entropy → Flow ε α × σ × Entropy
  | .done result, state, source => (.done result, state, source)
  | .select plan k, state, source =>
    let (answer, state) := store.select plan state
    (k answer).pause store state source
  | .count plan k, state, source =>
    let (answer, state) := store.count plan state
    (k answer).pause store state source
  | .write w k, state, source => (.write w k, state, source)
  | .batch ws k, state, source => (.batch ws k, state, source)
  | .random size k, state, source =>
    let (answer, source) := source.draw size
    (k answer).pause store state source

/-- One turn: a write that comes next is carried out, and then all up to the next one. -/
def advance (store : Store σ) : Flow ε α → σ → Entropy → Flow ε α × σ × Entropy
  | .write w k, state, source =>
    let (answer, state) := store.write w state
    (k answer).pause store state source
  | .batch ws k, state, source =>
    let (answer, state) := store.batch ws state
    (k answer).pause store state source
  | flow, state, source => flow.pause store state source

/-- What a pause leaves of a flow ends as the flow does. -/
theorem run_pause (store : Store σ) (flow : Flow ε α) (state : σ) (source : Entropy) :
    (flow.pause store state source).1.run store (flow.pause store state source).2.1
      (flow.pause store state source).2.2 = flow.run store state source := by
  induction flow generalizing state source with
  | done result => rfl
  | select plan k ih | count plan k ih | random size k ih => exact ih _ _ _
  | write w k | batch ws k => rfl

/-- What a turn leaves of a flow ends as the flow does. -/
theorem run_advance (store : Store σ) (flow : Flow ε α) (state : σ) (source : Entropy) :
    (flow.advance store state source).1.run store (flow.advance store state source).2.1
      (flow.advance store state source).2.2 = flow.run store state source := by
  cases flow with
  | write w k | batch ws k => exact run_pause store (k _) _ _
  | done result | select plan k | count plan k | random size k => exact run_pause store _ _ _

/-! ## Flows that only read -/

/-- A flow without a write. -/
inductive ReadsOnly : Flow ε α → Prop
  | done (result : Except ε α) : ReadsOnly (.done result)
  | select {plan : Plan} {k : Except StorageError (List Json) → Flow ε α} (h : ∀ answer, ReadsOnly (k answer)) :
    ReadsOnly (.select plan k)
  | count {plan : Plan} {k : Except StorageError Nat → Flow ε α} (h : ∀ answer, ReadsOnly (k answer)) :
    ReadsOnly (.count plan k)
  | random {size : Nat} {k : Option (List UInt8) → Flow ε α} (h : ∀ bytes?, ReadsOnly (k bytes?)) :
    ReadsOnly (.random size k)

namespace ReadsOnly

theorem andThen {flow : Flow ε α} {next : Except ε α → Flow δ β} (h : flow.ReadsOnly)
    (hnext : ∀ result, (next result).ReadsOnly) : (flow.andThen next).ReadsOnly := by
  induction h with
  | done result => exact hnext result
  | select _ ih => exact .select ih
  | count _ ih => exact .count ih
  | random _ ih => exact .random ih

theorem bind {flow : Flow ε α} {next : α → Flow ε β} (h : flow.ReadsOnly) (hnext : ∀ x, (next x).ReadsOnly) :
    (flow >>= next).ReadsOnly := by
  refine andThen h fun result => ?_
  cases result with
  | ok x => exact hnext x
  | error e => exact .done _

theorem mapError {flow : Flow ε α} (tell : ε → δ) (h : flow.ReadsOnly) : (flow.mapError tell).ReadsOnly := by
  refine andThen h fun result => ?_
  cases result <;> exact .done _

/-- Behind a flow that only reads, a pause is reached from where that flow ended, unless with an error. -/
theorem pause_bind (store : Store σ) {flow : Flow ε α} (h : flow.ReadsOnly) (next : α → Flow ε β) (state : σ)
    (source : Entropy) :
    (flow >>= next).pause store state source =
      match flow.run store state source with
      | (.ok x, state, source) => (next x).pause store state source
      | (.error e, state, source) => (.done (.error e), state, source) := by
  show (flow.andThen _).pause store state source = _
  induction h generalizing state source with
  | done result => cases result <;> rfl
  | select _ ih | count _ ih | random _ ih => exact ih _ _ _

end ReadsOnly

/-! ## One write and a reply -/

/-- What is left of a call that has decided on its write and on its reply. -/
def commit (w : Write) (tell : StorageError → ε) (reply : α) : Flow ε α :=
  .write w fun
    | .ok () => .done (.ok reply)
    | .error e => .done (.error (tell e))

/-- A write of a value and a reply behind it. -/
theorem commit_eq (w : Write) (tell : StorageError → ε) (reply : α) :
    ((Flow.write w .done : Flow StorageError Unit).mapError tell >>= fun _ => pure reply) = commit w tell reply :=
  congrArg (Flow.write w) (funext fun answer => by cases answer <;> rfl)

theorem advance_commit (store : Store σ) (w : Write) (tell : StorageError → ε) (reply : α) (state : σ)
    (source : Entropy) :
    (commit w tell reply).advance store state source =
      (.done (((store.write w state).1.mapError tell).map fun _ => reply), (store.write w state).2, source) := by
  rcases hwrite : store.write w state with ⟨_ | _, after⟩ <;> simp only [commit, advance, hwrite] <;> rfl

end Flow

/-! ## Turns of several calls -/

/-- Calls that run side by side: what is left of each, and the store and the random source that they share. -/
structure Race (ι ε α σ : Type) where
  left : ι → Flow ε α
  state : σ
  source : Entropy

namespace Race

variable {ι ε α σ : Type} [DecidableEq ι] {store : Flow.Store σ} {race : Race ι ε α σ} {i j : ι}

/-- One call takes a turn. -/
def turn (store : Flow.Store σ) (race : Race ι ε α σ) (i : ι) : Race ι ε α σ :=
  let (rest, state, source) := (race.left i).advance store race.state race.source
  ⟨Function.update race.left i rest, state, source⟩

/-- Calls take turns in a given order. -/
def after (store : Flow.Store σ) (race : Race ι ε α σ) (turns : List ι) : Race ι ε α σ :=
  turns.foldl (turn store) race

omit [DecidableEq ι] in
/-- A call has ended with a value. -/
def Succeeds (race : Race ι ε α σ) (i : ι) : Prop :=
  ∃ x, race.left i = .done (.ok x)

omit [DecidableEq ι] in
instance : Decidable (race.Succeeds i) :=
  match h : race.left i with
  | .done (.ok x) => .isTrue ⟨x, h⟩
  | .done (.error _) | .select .. | .count .. | .write .. | .batch .. | .random .. =>
    .isFalse fun ⟨_, hx⟩ => by cases h.symm.trans hx

omit [DecidableEq ι] in
/-- A call has ended with an error. -/
def Fails (race : Race ι ε α σ) (i : ι) : Prop :=
  ∃ e, race.left i = .done (.error e)

theorem after_nil : race.after store [] = race :=
  rfl

theorem after_cons (turns : List ι) : race.after store (i :: turns) = (race.turn store i).after store turns :=
  rfl

theorem after_append_singleton (turns : List ι) :
    race.after store (turns ++ [i]) = (race.after store turns).turn store i := by
  rw [after, List.foldl_append]
  rfl

/-- What holds at the start and is preserved by every turn holds after any turns. -/
theorem after_induction {P : List ι → Race ι ε α σ → Prop} (hstart : P [] race)
    (hturn : ∀ turns reached i, P turns reached → P (turns ++ [i]) (reached.turn store i)) (turns : List ι) :
    P turns (race.after store turns) := by
  induction turns using List.reverseRecOn with
  | nil => exact hstart
  | append_singleton turns i ih =>
    rw [after_append_singleton]
    exact hturn turns _ i ih

theorem left_turn_self : (race.turn store i).left i = ((race.left i).advance store race.state race.source).1 :=
  Function.update_self ..

theorem left_turn_of_ne (h : j ≠ i) : (race.turn store i).left j = race.left j :=
  Function.update_of_ne h ..

theorem state_turn : (race.turn store i).state = ((race.left i).advance store race.state race.source).2.1 :=
  rfl

theorem source_turn : (race.turn store i).source = ((race.left i).advance store race.state race.source).2.2 :=
  rfl

/-- A call that has ended takes its turns without effect. -/
theorem turn_of_done {result : Except ε α} (h : race.left i = .done result) : race.turn store i = race := by
  unfold turn
  rw [h]
  show Race.mk (Function.update race.left i (.done result)) race.state race.source = race
  rw [← h, Function.update_eq_self]

theorem left_turn_of_done {result : Except ε α} (h : race.left i = .done result) :
    (race.turn store j).left i = .done result := by
  by_cases hj : i = j
  · subst hj
    rw [turn_of_done h, h]
  · rw [left_turn_of_ne hj, h]

theorem Succeeds.turn (h : race.Succeeds i) : (race.turn store j).Succeeds i :=
  h.imp fun _ => left_turn_of_done

theorem Fails.turn (h : race.Fails i) : (race.turn store j).Fails i :=
  h.imp fun _ => left_turn_of_done

omit [DecidableEq ι] in
theorem Fails.not_succeeds (h : race.Fails i) : ¬ race.Succeeds i := by
  obtain ⟨e, he⟩ := h
  rintro ⟨x, hx⟩
  cases he.symm.trans hx

/-- A call that alone takes turns gets where its run gets. -/
theorem run_left_of_alone {turns : List ι} (h : ∀ j ∈ turns, j = i) :
    ((race.after store turns).left i).run store (race.after store turns).state (race.after store turns).source =
      (race.left i).run store race.state race.source := by
  induction turns using List.reverseRecOn with
  | nil => rfl
  | append_singleton turns j ih =>
    obtain rfl : j = i := h j (by simp)
    rw [after_append_singleton, left_turn_self, state_turn, source_turn, Flow.run_advance]
    exact ih fun k hk => h k (List.mem_append_left _ hk)

end Race

end Taskboard
