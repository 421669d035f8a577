/-
The errors that flows end with. A flow fails only with errors of a kind (`FailsOnly`) when each of its
ends does, whatever it is answered on the way; then so does every run of it, on any store
(`kind_of_run`). The rules follow how flows are put together.
-/
import Taskboard.Proofs.Flow.Run

namespace Taskboard.Flow

variable {ε δ α β σ : Type} {kind : ε → Prop}

/-- Whatever the flow is answered, an error that it ends with is of a kind. -/
inductive FailsOnly (kind : ε → Prop) : Flow ε α → Prop
  | ok (x : α) : FailsOnly kind (.done (.ok x))
  | error {e : ε} (h : kind e) : FailsOnly kind (.done (.error e))
  | select {plan : Plan} {k : Except StorageError (List Json) → Flow ε α} (h : ∀ answer, FailsOnly kind (k answer)) :
    FailsOnly kind (.select plan k)
  | count {plan : Plan} {k : Except StorageError Nat → Flow ε α} (h : ∀ answer, FailsOnly kind (k answer)) :
    FailsOnly kind (.count plan k)
  | write {w : Write} {k : Except StorageError Unit → Flow ε α} (h : ∀ answer, FailsOnly kind (k answer)) :
    FailsOnly kind (.write w k)
  | batch {ws : List Write} {k : Except StorageError Unit → Flow ε α} (h : ∀ answer, FailsOnly kind (k answer)) :
    FailsOnly kind (.batch ws k)
  | random {size : Nat} {k : Option (List UInt8) → Flow ε α} (h : ∀ bytes?, FailsOnly kind (k bytes?)) :
    FailsOnly kind (.random size k)

/-- A run ends with an error of the kind, if with any. -/
theorem kind_of_run (store : Store σ) {flow : Flow ε α} (h : flow.FailsOnly kind) {state : σ} {source : Entropy}
    {e : ε} (hrun : (flow.run store state source).1 = .error e) : kind e := by
  induction h generalizing state source with
  | ok x => cases hrun
  | error h =>
    cases hrun
    exact h
  | select _ ih | count _ ih | write _ ih | batch _ ih | random _ ih => exact ih _ hrun

namespace FailsOnly

theorem andThen {flow : Flow ε α} {next : Except ε α → Flow δ β} {kind' : δ → Prop} (h : flow.FailsOnly kind)
    (hok : ∀ x, (next (.ok x)).FailsOnly kind') (herror : ∀ e, kind e → (next (.error e)).FailsOnly kind') :
    (flow.andThen next).FailsOnly kind' := by
  induction h with
  | ok x => exact hok x
  | error h => exact herror _ h
  | select _ ih => exact .select ih
  | count _ ih => exact .count ih
  | write _ ih => exact .write ih
  | batch _ ih => exact .batch ih
  | random _ ih => exact .random ih

theorem bind {flow : Flow ε α} {next : α → Flow ε β} (h : flow.FailsOnly kind)
    (hnext : ∀ x, (next x).FailsOnly kind) : (flow >>= next).FailsOnly kind :=
  andThen h hnext fun _ he => .error he

theorem any (flow : Flow ε α) : flow.FailsOnly fun _ => True := by
  induction flow with
  | done result =>
    cases result with
    | ok x => exact .ok x
    | error e => exact .error trivial
  | select plan k ih => exact .select ih
  | count plan k ih => exact .count ih
  | write w k ih => exact .write ih
  | batch ws k ih => exact .batch ih
  | random size k ih => exact .random ih

/-- Errors told in other terms are of what kind those terms are, whatever they were before. -/
theorem mapError {tell : ε → δ} {kind' : δ → Prop} (flow : Flow ε α) (h : ∀ e, kind' (tell e)) :
    (flow.mapError tell).FailsOnly kind' :=
  andThen (any flow) .ok fun e _ => .error (h e)

theorem ofExcept {result : Except ε α} (h : ∀ e, result = .error e → kind e) :
    (Flow.done result).FailsOnly kind := by
  cases result with
  | ok x => exact .ok x
  | error e => exact .error (h e rfl)

end FailsOnly

end Taskboard.Flow
