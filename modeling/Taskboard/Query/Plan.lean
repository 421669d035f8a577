/-
Query plans: a table, conditions that must all hold, sort terms, and bounds. Every builder gives a
new plan; the result depends only on the conditions in order, the sort terms in order, and the last
bounds given.
-/
import Taskboard.Query.Predicate
import Taskboard.Query.Schema

namespace Taskboard

/-- The direction of a sort term. -/
inductive Direction where
  | ascending
  | descending
deriving DecidableEq

/-- One column that a listing is sorted by. -/
structure SortTerm where
  field : String
  direction : Direction
deriving DecidableEq

/-- What is asked of a store. No conditions means every row. -/
structure Plan where
  schema : Schema
  predicates : List Predicate
  sortTerms : List SortTerm
  limit? : Option Nat
  offset? : Option Nat

namespace Plan

/-- Equality of plans, with values compared as values. -/
def same (p q : Plan) : Bool :=
  p.schema == q.schema && Predicate.sameParts p.predicates q.predicates &&
    p.sortTerms == q.sortTerms && p.limit? == q.limit? && p.offset? == q.offset?

instance : BEq Plan := ⟨same⟩

/-! ## Builders -/

/-- Adds a condition, taken apart into its conjuncts. -/
def filter (plan : Plan) (predicate : Predicate) : Plan :=
  { plan with predicates := plan.predicates ++ predicate.conjuncts }

/-- Adds several conditions. -/
def filterAll (plan : Plan) (predicates : List Predicate) : Plan :=
  predicates.foldl filter plan

/-- Adds a sort term behind those already given. -/
def sortBy (plan : Plan) (field : String) (direction : Direction) : Plan :=
  { plan with sortTerms := plan.sortTerms ++ [⟨field, direction⟩] }

/-- Keeps at most `n` rows. -/
def take (plan : Plan) (n : Nat) : Plan :=
  { plan with limit? := some n }

/-- Leaves out the first `n` rows. -/
def drop (plan : Plan) (n : Nat) : Plan :=
  { plan with offset? := some n }

/-! ## Checks before a store is asked -/

/-- Whether some condition shows by its form that no row will do. -/
def isVacuous (plan : Plan) : Bool :=
  plan.predicates.any Predicate.isImpossible

/-- The columns a plan speaks of: those of its conditions, then those of its sort terms. -/
def fields (plan : Plan) : List String :=
  Predicate.fieldsOfParts plan.predicates ++ plan.sortTerms.map SortTerm.field

/-- Checks every column that the plan speaks of. -/
def validate (plan : Plan) : Except UnknownField Unit :=
  plan.schema.resolveAll plan.fields

end Plan

/-! ## Plans of a table -/

namespace Schema

/-- Every row. -/
def all (schema : Schema) : Plan :=
  ⟨schema, [], [], none, none⟩

/-- No row at all. -/
def nothing (schema : Schema) : Plan :=
  schema.all.filter .never

/-- The rows that meet a condition. -/
def filter (schema : Schema) (predicate : Predicate) : Plan :=
  schema.all.filter predicate

/-- Adds an equality for each pair, as long as the columns are declared. -/
def withEach (schema : Schema) (plan : Plan) : List (String × Json) → Except UnknownField Plan
  | [] => .ok plan
  | (field, value) :: rest =>
    match schema.resolve field with
    | .ok field => schema.withEach (plan.filter (.is field value)) rest
    | .error e => .error e

/-- The rows whose columns have the given values. -/
def withValues (schema : Schema) (pairs : List (String × Json)) : Except UnknownField Plan :=
  schema.withEach schema.all pairs

/-- The rows with an identifying value. -/
def withId (schema : Schema) (id : Json) : Plan :=
  schema.filter (.is schema.idField id)

/-- The rows with one of some identifying values. -/
def withIds (schema : Schema) (ids : List Json) : Plan :=
  if ids.isEmpty then schema.nothing else schema.filter (.isOneOf schema.idField ids)

/-- The rows whose column has a value. -/
def withValue (schema : Schema) (field : String) (value : Json) : Except UnknownField Plan :=
  (schema.resolve field).map fun field => schema.filter (.is field value)

/-- The rows whose column has one of some values. -/
def withValueIn (schema : Schema) (field : String) (values : List Json) : Except UnknownField Plan :=
  (schema.resolve field).map fun field =>
    if values.isEmpty then schema.nothing else schema.filter (.isOneOf field values)

end Schema

end Taskboard
