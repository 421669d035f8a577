/-
Programs that talk to a store. A flow is either finished or asks one thing, of the store or of the
random source, and says how to go on with each answer. Nothing happens until a store runs the flow,
so one flow can be run against different stores, stopped between two requests, or interleaved with
others.
-/
import Taskboard.Storage.Write
import Taskboard.Storage.Entropy

namespace Taskboard

/-- A program that asks a store and a random source, and ends with a value or an error. -/
inductive Flow (ε α : Type) where
  | done (result : Except ε α)
  /-- The rows of a plan. -/
  | select (plan : Plan) (next : Except StorageError (List Json) → Flow ε α)
  /-- The number of rows that meet the conditions of a plan. -/
  | count (plan : Plan) (next : Except StorageError Nat → Flow ε α)
  /-- One write. -/
  | write (write : Write) (next : Except StorageError Unit → Flow ε α)
  /-- Several writes, all or none. -/
  | batch (writes : List Write) (next : Except StorageError Unit → Flow ε α)
  /-- Random bytes. -/
  | random (size : Nat) (next : Option (List UInt8) → Flow ε α)

namespace Flow

variable {ε δ α β : Type}

/-! ## Sequencing -/

/-- Goes on with the outcome of a flow, value or error. -/
def andThen (flow : Flow ε α) (next : Except ε α → Flow δ β) : Flow δ β :=
  match flow with
  | .done result => next result
  | .select plan k => .select plan fun answer => (k answer).andThen next
  | .count plan k => .count plan fun answer => (k answer).andThen next
  | .write w k => .write w fun answer => (k answer).andThen next
  | .batch ws k => .batch ws fun answer => (k answer).andThen next
  | .random size k => .random size fun answer => (k answer).andThen next

/-- Goes on with the value of a flow; an error ends it. -/
def bind (flow : Flow ε α) (next : α → Flow ε β) : Flow ε β :=
  flow.andThen fun
    | .ok value => next value
    | .error e => .done (.error e)

instance : Monad (Flow ε) where
  pure value := .done (.ok value)
  bind := bind

/-- Ends with an error. -/
def fail (e : ε) : Flow ε α :=
  .done (.error e)

/-- The same flow with its errors told in other terms. -/
def mapError (f : ε → δ) (flow : Flow ε α) : Flow δ α :=
  flow.andThen fun
    | .ok value => .done (.ok value)
    | .error e => .done (.error (f e))

/-! ## Stores -/

/-- How one kind of store answers requests, and what becomes of its state. -/
structure Store (σ : Type) where
  select : Plan → σ → Except StorageError (List Json) × σ
  count : Plan → σ → Except StorageError Nat × σ
  write : Write → σ → Except StorageError Unit × σ
  batch : List Write → σ → Except StorageError Unit × σ

/-- Runs a flow to its end: its result, and what it leaves of the store and of the random source. -/
def run {σ : Type} (store : Store σ) : Flow ε α → σ → Entropy → Except ε α × σ × Entropy
  | .done result, state, source => (result, state, source)
  | .select plan k, state, source =>
    let (answer, state) := store.select plan state
    (k answer).run store state source
  | .count plan k, state, source =>
    let (answer, state) := store.count plan state
    (k answer).run store state source
  | .write w k, state, source =>
    let (answer, state) := store.write w state
    (k answer).run store state source
  | .batch ws k, state, source =>
    let (answer, state) := store.batch ws state
    (k answer).run store state source
  | .random size k, state, source =>
    let (answer, source) := source.draw size
    (k answer).run store state source

end Flow

end Taskboard
