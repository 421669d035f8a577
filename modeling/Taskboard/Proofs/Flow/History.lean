/-
What a flow asks of a store and what it is answered. A run has a history: its requests with their answers, the
first first. A prudent flow makes only requests that a database can be sent, and ends at the first that fails or
that brings a row which cannot be read (`Prudent`); so such a request is the last of its history, and decides what
the run ends with (`run_of_fault`). The rules follow how flows are put together.
-/
import Taskboard.Proofs.Flow.Run
import Taskboard.Proofs.Storage.Savings

namespace Taskboard

/-- What a store is asked. -/
inductive Ask where
  | select (plan : Plan)
  | count (plan : Plan)
  | write (write : Write)
  | batch (writes : List Write)

/-- What a store is asked, and what it answers. -/
inductive Exchange where
  | select (plan : Plan) (answer : Except StorageError (List Json))
  | count (plan : Plan) (answer : Except StorageError Nat)
  | write (write : Write) (answer : Except StorageError Unit)
  | batch (writes : List Write) (answer : Except StorageError Unit)

namespace Exchange

/-- What is asked. -/
def ask : Exchange → Ask
  | .select plan _ => .select plan
  | .count plan _ => .count plan
  | .write w _ => .write w
  | .batch ws _ => .batch ws

/-- What is wrong with an answer: the request failed, or one of the rows that it brought does not stand for an
entity of its table. -/
inductive Fault : Exchange → StorageError → Prop
  | select {plan : Plan} {e : StorageError} : Fault (.select plan (.error e)) e
  | unreadable {plan : Plan} {rows : List Json} {row : Json} {entity : Entity}
      (hschema : plan.schema = entity.model.schema) (hrow : row ∈ rows)
      (hdecode : (entity.model.decode? row).isNone) :
      Fault (.select plan (.ok rows)) (.decode .malformedRow)
  | count {plan : Plan} {e : StorageError} : Fault (.count plan (.error e)) e
  | write {w : Write} {e : StorageError} : Fault (.write w (.error e)) e
  | batch {ws : List Write} {e : StorageError} : Fault (.batch ws (.error e)) e

end Exchange

/-- A write that has a statement. -/
def Write.Sendable (w : Write) : Prop :=
  ∃ statement, w.statement = .ok statement

namespace Flow

variable {ε δ α β σ : Type}

/-! ## Histories -/

/-- The requests of a run with their answers, the first first. -/
def history (store : Store σ) : Flow ε α → σ → Entropy → List Exchange
  | .done _, _, _ => []
  | .select plan k, state, source =>
    let (answer, state) := store.select plan state
    .select plan answer :: (k answer).history store state source
  | .count plan k, state, source =>
    let (answer, state) := store.count plan state
    .count plan answer :: (k answer).history store state source
  | .write w k, state, source =>
    let (answer, state) := store.write w state
    .write w answer :: (k answer).history store state source
  | .batch ws k, state, source =>
    let (answer, state) := store.batch ws state
    .batch ws answer :: (k answer).history store state source
  | .random size k, state, source =>
    let (answer, source) := source.draw size
    (k answer).history store state source

/-! ## Prudent flows -/

/-- A flow that asks for rows of entities and for writes that have statements, no trip being without one, and that
ends at the first fault as `ended` says. -/
inductive Prudent (ended : Ask → StorageError → Except ε α) : Flow ε α → Prop
  | done (result : Except ε α) : Prudent ended (.done result)
  | select {plan : Plan} {k : Except StorageError (List Json) → Flow ε α}
      (hkind : ∃ entity : Entity, plan.schema = entity.model.schema)
      (hfault : ∀ answer e, (Exchange.select plan answer).Fault e → k answer = .done (ended (.select plan) e))
      (h : ∀ answer, Prudent ended (k answer)) : Prudent ended (.select plan k)
  | write {w : Write} {k : Except StorageError Unit → Flow ε α} (hw : w.Sendable)
      (hfault : ∀ answer e, (Exchange.write w answer).Fault e → k answer = .done (ended (.write w) e))
      (h : ∀ answer, Prudent ended (k answer)) : Prudent ended (.write w k)
  | batch {ws : List Write} {k : Except StorageError Unit → Flow ε α} (hne : ws ≠ []) (hws : ∀ w ∈ ws, w.Sendable)
      (hfault : ∀ answer e, (Exchange.batch ws answer).Fault e → k answer = .done (ended (.batch ws) e))
      (h : ∀ answer, Prudent ended (k answer)) : Prudent ended (.batch ws k)
  | random {size : Nat} {k : Option (List UInt8) → Flow ε α} (h : ∀ bytes?, Prudent ended (k bytes?)) :
      Prudent ended (.random size k)

/-- A prudent flow that ends at the first fault with the error that `blame` names. -/
def Blames (blame : Ask → StorageError → ε) (flow : Flow ε α) : Prop :=
  flow.Prudent fun ask e => .error (blame ask e)

section Runs

variable {ended : Ask → StorageError → Except ε α} {flow : Flow ε α} (h : flow.Prudent ended)
include h

/-- A fault decides what a run ends with. -/
theorem run_of_fault (store : Store σ) {state : σ} {source : Entropy} {x : Exchange} {e : StorageError}
    (hx : x ∈ flow.history store state source) (hfault : x.Fault e) :
    (flow.run store state source).1 = ended x.ask e := by
  induction h generalizing state source with
  | done result => cases hx
  | random _ ih => exact ih _ hx
  | select _ hend _ ih | write _ hend _ ih | batch _ _ hend _ ih =>
    rcases List.mem_cons.1 hx with rfl | hx
    · exact congrArg (fun flow => (run store flow _ _).1) (hend _ e hfault)
    · exact ih _ hx

/-- The rows that a run asks for are those of a kind of entities. -/
theorem kind_of_history (store : Store σ) {state : σ} {source : Entropy} {plan : Plan}
    {answer : Except StorageError (List Json)} (hx : .select plan answer ∈ flow.history store state source) :
    ∃ entity : Entity, plan.schema = entity.model.schema := by
  induction h generalizing state source with
  | done result => cases hx
  | random _ ih => exact ih _ hx
  | select hkind _ _ ih =>
    rcases List.mem_cons.1 hx with heq | hx
    · cases heq
      exact hkind
    · exact ih _ hx
  | write _ _ _ ih | batch _ _ _ _ ih =>
    rcases List.mem_cons.1 hx with heq | hx
    · cases heq
    · exact ih _ hx

end Runs

namespace Prudent

variable {ended : Ask → StorageError → Except ε α} {ended' : Ask → StorageError → Except δ β}

theorem andThen {flow : Flow ε α} {next : Except ε α → Flow δ β} (h : flow.Prudent ended)
    (hended : ∀ ask e, next (ended ask e) = .done (ended' ask e))
    (hnext : ∀ result, (next result).Prudent ended') : (flow.andThen next).Prudent ended' := by
  -- At a fault the first flow ends, and what follows it ends as well.
  have hend : ∀ {k : Flow ε α} {ask : Ask} {e : StorageError}, k = .done (ended ask e) →
      k.andThen next = .done (ended' ask e) := by
    rintro _ ask e rfl
    exact hended ask e
  induction h with
  | done result => exact hnext result
  | random _ ih => exact .random ih
  | select hkind hfault _ ih => exact .select hkind (fun answer e he => hend (hfault answer e he)) ih
  | write hw hfault _ ih => exact .write hw (fun answer e he => hend (hfault answer e he)) ih
  | batch hne hws hfault _ ih => exact .batch hne hws (fun answer e he => hend (hfault answer e he)) ih

end Prudent

namespace Blames

variable {blame : Ask → StorageError → ε}

theorem told (tell : δ → ε) (result : Except δ α) : ((Flow.done result).mapError tell).Blames blame := by
  cases result <;> exact .done _

theorem bind {flow : Flow ε α} {next : α → Flow ε β} (h : flow.Blames blame)
    (hnext : ∀ x, (next x).Blames blame) : (flow >>= next).Blames blame := by
  refine Prudent.andThen h (fun _ _ => rfl) fun result => ?_
  cases result with
  | ok x => exact hnext x
  | error e => exact .done _

end Blames

end Flow

/-! ## Queries and writes of entities -/

theorem Entity.schema_injective {entity other : Entity} (h : entity.model.schema = other.model.schema) :
    entity = other :=
  Entity.table_injective (congrArg Schema.table h)

theorem Model.decodeAll_of_unreadable {α : Type} {model : Model α} {rows : List Json} {row : Json} (hrow : row ∈ rows)
    (h : (model.decode? row).isNone) : model.decodeAll rows = .error (.decode .malformedRow) := by
  have hnone : rows.mapM model.decode? = none := by
    cases hall : rows.mapM model.decode? with
    | none => rfl
    | some values =>
      have hmem : model.decode? row ∈ values.map some :=
        Model.mapM_eq_some_iff.1 hall ▸ List.mem_map_of_mem hrow
      obtain ⟨x, -, hx⟩ := List.mem_map.1 hmem
      rw [← hx] at h
      cases h
  rw [decodeAll, hnone]

theorem Saving.sendable (saving : Saving) : saving.write.Sendable := by
  have hkept : Tables.empty.WellKept saving.entity := ⟨fun row hrow => absurd hrow List.not_mem_nil, List.Pairwise.nil⟩
  obtain ⟨statement, hstatement, -⟩ := saving.carryOut_execute hkept
  exact ⟨statement, hstatement⟩

namespace Flow

theorem mapError_bind {ε δ α β : Type} (tell : ε → δ) (flow : Flow ε α) (next : α → Flow ε β) :
    (flow >>= next).mapError tell = flow.mapError tell >>= fun x => (next x).mapError tell := by
  induction flow with
  | done result => cases result <;> rfl
  | select plan _ ih => exact congrArg (select plan) (funext ih)
  | count plan _ ih => exact congrArg (count plan) (funext ih)
  | write w _ ih => exact congrArg (write w) (funext ih)
  | batch ws _ ih => exact congrArg (batch ws) (funext ih)
  | random size _ ih => exact congrArg (random size) (funext ih)

namespace Blames

variable {ε : Type} {blame : Ask → StorageError → ε}

section Queries

variable {tell : QueryError → ε} (htell : ∀ plan e, blame (.select plan) e = tell (.storage e))
  (entity : Entity) {plan : Plan} (hschema : plan.schema = entity.model.schema)
include htell hschema

/-- A query of entities of a kind tells the error of the store, or that a row cannot be read. -/
theorem all : ((entity.model.all plan).mapError tell).Blames blame := by
  unfold Model.all Plan.ask
  split
  · exact .done _
  · split
    · exact .done _
    · refine .select ⟨entity, hschema⟩ (fun answer e hfault => ?_) fun answer => ?_
      · rw [htell]
        cases hfault with
        | select => rfl
        | unreadable hschema' hrow hdecode =>
          obtain rfl := Entity.schema_injective (hschema'.symm.trans hschema)
          simp only [Except.bind, Model.decodeAll_of_unreadable hrow hdecode]
          rfl
      · exact told tell _

theorem first : ((entity.model.first plan).mapError tell).Blames blame := by
  unfold Model.first
  rw [mapError_bind]
  exact .bind (all htell entity hschema) fun _ => .done _

theorem hasAny : ((entity.model.hasAny plan).mapError tell).Blames blame := by
  unfold Model.hasAny
  rw [mapError_bind]
  exact .bind (first htell entity hschema) fun _ => .done _

end Queries

section Writes

variable {tell : StorageError → ε}

/-- A saving tells the error of the store. -/
theorem send (saving : Saving) (htell : ∀ e, blame (.write saving.write) e = tell e) :
    ((saving.entity.model.send saving.kind saving.value).mapError tell).Blames blame := by
  unfold Model.send
  rw [saving.entity.encode_eq]
  refine .write saving.sendable (fun answer e hfault => ?_) fun answer => ?_
  · cases hfault
    exact congrArg (fun e => done (.error e)) (htell e).symm
  · exact told tell answer

theorem sendAll {savings : List Saving} (htell : ∀ e, blame (.batch (savings.map Saving.write)) e = tell e)
    (hne : savings ≠ []) : ((Flow.sendAll (savings.map Saving.asked)).mapError tell).Blames blame := by
  rw [Saving.map_asked, Flow.sendAll_ok]
  refine .batch (by simpa using hne) ?_ (fun answer e hfault => ?_) fun answer => told tell answer
  · rintro _ hw
    obtain ⟨saving, -, rfl⟩ := List.mem_map.1 hw
    exact saving.sendable
  · cases hfault
    exact congrArg (fun e => done (.error e)) (htell e).symm

end Writes

end Blames

end Flow

end Taskboard
