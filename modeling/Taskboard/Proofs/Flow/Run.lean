/-
Runs of flows. A run of one flow behind another is the second run from where the first one ended
(`run_andThen`, `run_bind`), and what the random source answers on the way is the answers of the
first run and then those of the second (`draws_andThen`). Telling errors in other terms changes
nothing but the error.
-/
import Taskboard.Storage.Flow
import Taskboard.Text.Hex

namespace Taskboard.Flow

variable {ε δ α β σ : Type}

/-! ## One run behind another -/

theorem run_andThen (store : Store σ) (flow : Flow ε α) (next : Except ε α → Flow δ β) (state : σ)
    (source : Entropy) :
    (flow.andThen next).run store state source =
      (next (flow.run store state source).1).run store (flow.run store state source).2.1
        (flow.run store state source).2.2 := by
  induction flow generalizing state source with
  | done result => rfl
  | select plan k ih | count plan k ih | write w k ih | batch ws k ih | random size k ih =>
    simp only [andThen, run]
    exact ih _ _ _

/-- How a run goes on behind a value or an error. -/
theorem run_bind (store : Store σ) (flow : Flow ε α) (next : α → Flow ε β) (state : σ)
    (source : Entropy) :
    (flow >>= next).run store state source =
      match flow.run store state source with
      | (.ok value, state, source) => (next value).run store state source
      | (.error e, state, source) => (.error e, state, source) := by
  show (flow.bind next).run store state source = _
  rw [Flow.bind, run_andThen]
  rcases flow.run store state source with ⟨_ | _, _, _⟩ <;> rfl

theorem run_mapError (store : Store σ) (f : ε → δ) (flow : Flow ε α) (state : σ)
    (source : Entropy) :
    (flow.mapError f).run store state source =
      ((flow.run store state source).1.mapError f, (flow.run store state source).2) := by
  rw [mapError, run_andThen]
  rcases flow.run store state source with ⟨_ | _, _, _⟩ <;> rfl

/-- What is made of the value of a flow leaves its trace as it is. -/
theorem run_return (store : Store σ) (f : α → β) (flow : Flow ε α) (state : σ) (source : Entropy) :
    (flow >>= fun value => pure (f value)).run store state source =
      ((flow.run store state source).1.map f, (flow.run store state source).2) := by
  rw [run_bind]
  rcases flow.run store state source with ⟨_ | _, _, _⟩ <;> rfl

/-! ## Random bytes -/

/-- The random bytes that a run gets, each with the number of bytes asked for, the first first. -/
def draws (store : Store σ) : Flow ε α → σ → Entropy → List (Nat × List UInt8)
  | .done _, _, _ => []
  | .select plan k, state, source =>
    let (answer, state) := store.select plan state
    (k answer).draws store state source
  | .count plan k, state, source =>
    let (answer, state) := store.count plan state
    (k answer).draws store state source
  | .write w k, state, source =>
    let (answer, state) := store.write w state
    (k answer).draws store state source
  | .batch ws k, state, source =>
    let (answer, state) := store.batch ws state
    (k answer).draws store state source
  | .random size k, state, source =>
    let (answer, source) := source.draw size
    answer.toList.map (size, ·) ++ (k answer).draws store state source

/-- Bytes that a run gets when it asks for some number of them. -/
def Drawn (store : Store σ) (flow : Flow ε α) (state : σ) (source : Entropy) (size : Nat) (bytes : List UInt8) : Prop :=
  (size, bytes) ∈ flow.draws store state source

/-- The identifiers that a run generates: its draws of 16 bytes, as text. -/
def identifiers (store : Store σ) (flow : Flow ε α) (state : σ) (source : Entropy) : List String :=
  ((flow.draws store state source).filter (·.1 = 16)).map fun draw => Text.hex draw.2

theorem mem_identifiers {store : Store σ} {flow : Flow ε α} {state : σ} {source : Entropy}
    {bytes : List UInt8} (h : flow.Drawn store state source 16 bytes) :
    Text.hex bytes ∈ flow.identifiers store state source :=
  List.mem_map.2 ⟨(16, bytes), List.mem_filter.2 ⟨h, rfl⟩, rfl⟩

theorem draws_andThen (store : Store σ) (flow : Flow ε α) (next : Except ε α → Flow δ β) (state : σ)
    (source : Entropy) :
    (flow.andThen next).draws store state source =
      flow.draws store state source ++
        (next (flow.run store state source).1).draws store (flow.run store state source).2.1
          (flow.run store state source).2.2 := by
  induction flow generalizing state source with
  | done result => rfl
  | select plan k ih | count plan k ih | write w k ih | batch ws k ih =>
    simp only [andThen, draws, run]
    exact ih _ _ _
  | random size k ih =>
    simp only [andThen, draws, run, List.append_assoc]
    rw [ih]

theorem draws_bind (store : Store σ) (flow : Flow ε α) (next : α → Flow ε β) (state : σ)
    (source : Entropy) :
    (flow >>= next).draws store state source =
      flow.draws store state source ++
        match flow.run store state source with
        | (.ok value, state, source) => (next value).draws store state source
        | (.error _, _, _) => [] := by
  show (flow.bind next).draws store state source = _
  rw [Flow.bind, draws_andThen]
  rcases flow.run store state source with ⟨_ | _, _, _⟩ <;> rfl

theorem draws_mapError (store : Store σ) (f : ε → δ) (flow : Flow ε α) (state : σ)
    (source : Entropy) :
    (flow.mapError f).draws store state source = flow.draws store state source := by
  rw [mapError, draws_andThen]
  rcases flow.run store state source with ⟨_ | _, _, _⟩ <;> exact List.append_nil _

end Taskboard.Flow
