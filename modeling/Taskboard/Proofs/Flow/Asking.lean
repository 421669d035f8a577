/-
What a flow may ask of a store. A flow asks only for what is of a kind (`Asks`) when each of its requests is,
whatever it is answered on the way. The trips that a run of it makes on a database are those of such requests,
one after another, also where parameters cannot be bound or writes have no statement (`trips_run`). The rules
follow how flows are put together.
-/
import Taskboard.Proofs.Storage.Batches

namespace Taskboard

/-! ## One request -/

namespace Remote

/-- A request is sent in one trip, or it is not sent. -/
def SentOr (remote : Remote) (ask : Ask) (after : Remote) : Prop :=
  after.trips = remote.trips ∨ after.trips = remote.trips ++ [ask.trip]

variable (remote : Remote)

/-- The trips that a database has made since are those of requests of a kind. -/
def TripsOf (kind : Ask → Prop) (remote after : Remote) : Prop :=
  ∃ asks : List Ask, after.trips = remote.trips ++ asks.map Ask.trip ∧ ∀ ask ∈ asks, kind ask

namespace TripsOf

variable {kind : Ask → Prop} {remote next after : Remote} {ask : Ask}

theorem refl (remote : Remote) : remote.TripsOf kind remote :=
  ⟨[], (List.append_nil _).symm, nofun⟩

/-- A request in front of others. -/
theorem sent (hkind : kind ask) (hsent : remote.SentOr ask next) (h : next.TripsOf kind after) :
    remote.TripsOf kind after := by
  obtain ⟨asks, htrips, hasks⟩ := h
  rcases hsent with hsent | hsent
  · exact ⟨asks, by rw [htrips, hsent], hasks⟩
  · refine ⟨ask :: asks, ?_, List.forall_mem_cons.2 ⟨hkind, hasks⟩⟩
    rw [htrips, hsent, List.append_assoc]
    rfl

end TripsOf

end Remote

/-! ## Flows -/

namespace Flow

variable {ε δ α β : Type} {kind : Ask → Prop}

/-- Whatever the flow is answered, what it asks is of a kind. -/
inductive Asks (kind : Ask → Prop) : Flow ε α → Prop
  | done (result : Except ε α) : Asks kind (.done result)
  | select {plan : Plan} {k : Except StorageError (List Json) → Flow ε α} (hplan : kind (.select plan))
      (h : ∀ answer, Asks kind (k answer)) : Asks kind (.select plan k)
  | count {plan : Plan} {k : Except StorageError Nat → Flow ε α} (hplan : kind (.count plan))
      (h : ∀ answer, Asks kind (k answer)) : Asks kind (.count plan k)
  | write {w : Write} {k : Except StorageError Unit → Flow ε α} (hw : kind (.write w))
      (h : ∀ answer, Asks kind (k answer)) : Asks kind (.write w k)
  | batch {ws : List Write} {k : Except StorageError Unit → Flow ε α} (hws : kind (.batch ws))
      (h : ∀ answer, Asks kind (k answer)) : Asks kind (.batch ws k)
  | random {size : Nat} {k : Option (List UInt8) → Flow ε α} (h : ∀ bytes?, Asks kind (k bytes?)) :
      Asks kind (.random size k)

namespace Asks

theorem andThen {flow : Flow ε α} {next : Except ε α → Flow δ β} (h : flow.Asks kind)
    (hnext : ∀ result, (next result).Asks kind) : (flow.andThen next).Asks kind := by
  induction h with
  | done result => exact hnext result
  | select hplan _ ih => exact .select hplan ih
  | count hplan _ ih => exact .count hplan ih
  | write hw _ ih => exact .write hw ih
  | batch hws _ ih => exact .batch hws ih
  | random _ ih => exact .random ih

theorem bind {flow : Flow ε α} {next : α → Flow ε β} (h : flow.Asks kind) (hnext : ∀ x, (next x).Asks kind) :
    (flow >>= next).Asks kind := by
  refine andThen h fun result => ?_
  cases result with
  | ok x => exact hnext x
  | error e => exact .done _

theorem mapError {flow : Flow ε α} (tell : ε → δ) (h : flow.Asks kind) : (flow.mapError tell).Asks kind := by
  refine andThen h fun result => ?_
  cases result <;> exact .done _

/-- Behind a result that is there without asking. -/
theorem ofResult {result : Except ε α} {next : α → Flow ε β} (h : ∀ x, result = .ok x → (next x).Asks kind) :
    (Flow.done result >>= next).Asks kind := by
  cases result with
  | ok x => exact h x rfl
  | error e => exact .done _

/-! ### Queries and writes -/

variable {model : Model α} {plan : Plan}

theorem all (h : kind (.select plan)) : (model.all plan).Asks kind := by
  unfold Model.all Plan.ask
  split
  · exact .done _
  · split
    · exact .done _
    · exact .select h fun _ => .done _

theorem first (h : kind (.select (plan.take 1))) : (model.first plan).Asks kind :=
  .bind (all h) fun _ => .done _

theorem hasAny (h : kind (.select (plan.take 1))) : (model.hasAny plan).Asks kind :=
  .bind (first h) fun _ => .done _

theorem send (saving : Saving) (h : kind (.write saving.write)) :
    (saving.entity.model.send saving.kind saving.value).Asks kind := by
  unfold Model.send
  rw [saving.entity.encode_eq]
  exact .write h fun _ => .done _

theorem sendAll (savings : List Saving) (h : kind (.batch (savings.map Saving.write))) :
    (Flow.sendAll (savings.map Saving.asked)).Asks kind := by
  rw [Saving.map_asked, Flow.sendAll_ok]
  exact .batch h fun _ => .done _

end Asks

end Flow

end Taskboard
