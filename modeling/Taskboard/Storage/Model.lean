/-
Values as rows of a table, and the queries that bring them back. A query is checked against its
table before the store is asked, and is not asked at all when its form shows that no row will do.
-/
import Taskboard.Storage.Flow

namespace Taskboard

/-- How values of a type are held as rows of a table. -/
structure Model (α : Type) where
  schema : Schema
  encode : α → Json
  decode? : Json → Option α

/-! ## Queries -/

/-- Asks for an answer unless the plan is refused, or its form shows that no row will do. -/
def Plan.ask {α : Type} (plan : Plan) (whenEmpty : α) (request : Flow QueryError α) :
    Flow QueryError α :=
  match plan.validate with
  | .error e => .fail (.unknownField e)
  | .ok () => if plan.isVacuous then pure whenEmpty else request

/-- The number of rows that meet the conditions of a plan. -/
def Plan.count (plan : Plan) : Flow QueryError Nat :=
  plan.ask 0 (.count plan fun answer => .done (answer.mapError .storage))

namespace Model

variable {α : Type} (model : Model α)

/-- The values that rows stand for; an error when one of them stands for none. -/
def decodeAll (rows : List Json) : Except StorageError (List α) :=
  match rows.mapM model.decode? with
  | some values => .ok values
  | none => .error (.decode .malformedRow)

/-- The rows of a plan. -/
def all (plan : Plan) : Flow QueryError (List α) :=
  plan.ask [] (.select plan fun answer => .done ((answer.bind model.decodeAll).mapError .storage))

/-- The first row of a plan, whatever its limit. -/
def first (plan : Plan) : Flow QueryError (Option α) := do
  return (← model.all (plan.take 1)).head?

/-- Whether a plan has a row. -/
def hasAny (plan : Plan) : Flow QueryError Bool := do
  return (← model.first plan).isSome

/-! ## Writes -/

/-- Sends one write of a value. -/
def send (kind : WriteKind) (value : α) : Flow StorageError Unit :=
  match Write.ofJson kind model.schema (model.encode value) with
  | .error e => .fail e
  | .ok write => .write write .done

/-- Adds a row. -/
def insert (value : α) : Flow StorageError Unit :=
  model.send .insert value

/-- Replaces the row with the same identifying value. -/
def update (value : α) : Flow StorageError Unit :=
  model.send .update value

end Model

/-- Sends several writes, all or none; nothing is sent when one of them is no row. -/
def Flow.sendAll (writes : List (Except StorageError Write)) : Flow StorageError Unit :=
  match writes.mapM id with
  | .error e => .fail e
  | .ok writes => .batch writes .done

end Taskboard
