/-
Chains of builders: a way to begin on a table, and builders behind it. Which plan a chain gives
depends on the conditions given in order, the sort terms in order, and the last bound of either kind,
and it is refused for the first name that a way to begin resolves in vain (`plan?_eq`). The columns
of the plan are those that the conditions given mention at any depth, and behind them those of the
sort terms (`fields_plan`, `mem_fields_iff`).
-/
import Taskboard.Query.Plan

namespace Taskboard

/-! ## Resolving names -/

namespace Schema

variable {schema : Schema}

theorem declares_iff {field : String} : schema.declares field = true ↔ field ∈ schema.fields :=
  List.contains_iff_mem

/-- The first of some names that the table does not declare. -/
def firstUndeclared? (schema : Schema) (names : List String) : Option String :=
  names.find? fun field => !schema.declares field

theorem firstUndeclared?_eq_none_iff {names : List String} :
    schema.firstUndeclared? names = none ↔ ∀ field ∈ names, field ∈ schema.fields := by
  simp [firstUndeclared?, ← declares_iff]

/-- Resolving names fails with the first that is not declared. -/
theorem resolveAll_eq (names : List String) : schema.resolveAll names =
    match schema.firstUndeclared? names with
    | some field => .error ⟨schema.table, field⟩
    | none => .ok () := by
  unfold firstUndeclared?
  induction names with
  | nil => rfl
  | cons field rest ih =>
    rw [resolveAll, resolve, List.find?_cons]
    cases schema.declares field with
    | true => exact ih
    | false => rfl

theorem resolveAll_of_declared {names : List String} (h : ∀ field ∈ names, field ∈ schema.fields) :
    schema.resolveAll names = .ok () := by
  rw [resolveAll_eq, firstUndeclared?_eq_none_iff.2 h]

end Schema

/-- A plan that speaks of declared columns alone is not refused. -/
theorem Plan.validate_of_declared {plan : Plan} (h : ∀ field ∈ plan.fields, field ∈ plan.schema.fields) :
    plan.validate = .ok () :=
  Schema.resolveAll_of_declared h

/-! ## Columns of conditions -/

namespace Predicate

/-- A condition mentions a column, at any depth. -/
inductive Mentions (field : String) : Predicate → Prop where
  | equals (value : Json) : Mentions field (.equals field value)
  | differs (value : Json) : Mentions field (.differs field value)
  | among (values : List Json) : Mentions field (.among field values)
  | missing : Mentions field (.missing field)
  | present : Mentions field (.present field)
  | all {part : Predicate} {parts : List Predicate} (hmem : part ∈ parts) (hpart : Mentions field part) :
      Mentions field (.all parts)
  | any {part : Predicate} {parts : List Predicate} (hmem : part ∈ parts) (hpart : Mentions field part) :
      Mentions field (.any parts)

theorem fieldsOfParts_eq_flatMap (parts : List Predicate) : fieldsOfParts parts = parts.flatMap fields := by
  induction parts with
  | nil => rfl
  | cons part rest ih => rw [fieldsOfParts, ih, List.flatMap_cons]

mutual

theorem mentions_of_mem_fields {field : String} (p : Predicate) (h : field ∈ p.fields) : p.Mentions field := by
  cases p with
  | never => cases h
  | equals | differs | among | missing | present =>
    obtain rfl := List.mem_singleton.1 h
    constructor
  | all parts =>
    obtain ⟨part, hmem, hpart⟩ := exists_mentions_of_mem_fieldsOfParts parts h
    exact .all hmem hpart
  | any parts =>
    obtain ⟨part, hmem, hpart⟩ := exists_mentions_of_mem_fieldsOfParts parts h
    exact .any hmem hpart

theorem exists_mentions_of_mem_fieldsOfParts {field : String} (parts : List Predicate)
    (h : field ∈ fieldsOfParts parts) : ∃ part ∈ parts, part.Mentions field := by
  cases parts with
  | nil => cases h
  | cons part rest =>
    rcases List.mem_append.1 h with hpart | hrest
    · exact ⟨part, List.mem_cons_self .., mentions_of_mem_fields part hpart⟩
    · obtain ⟨other, hmem, hother⟩ := exists_mentions_of_mem_fieldsOfParts rest hrest
      exact ⟨other, List.mem_cons_of_mem _ hmem, hother⟩

end

/-- No column that a condition mentions is left out of its columns, however deep. -/
theorem mem_fields_iff {field : String} {p : Predicate} : field ∈ p.fields ↔ p.Mentions field := by
  refine ⟨mentions_of_mem_fields p, fun h => ?_⟩
  induction h with
  | equals | differs | among | missing | present => exact List.mem_singleton_self _
  | all hmem _ ih | any hmem _ ih =>
    rw [fields, fieldsOfParts_eq_flatMap]
    exact List.mem_flatMap.2 ⟨_, hmem, ih⟩

mutual

/-- Taking conjunctions apart leaves the columns in their order. -/
theorem fields_conjuncts (p : Predicate) : p.conjuncts.flatMap fields = p.fields := by
  cases p with
  | all parts => exact fields_conjunctsOfParts parts
  | _ => simp [conjuncts]

theorem fields_conjunctsOfParts (parts : List Predicate) :
    (conjunctsOfParts parts).flatMap fields = fieldsOfParts parts := by
  cases parts with
  | nil => rfl
  | cons part rest =>
    rw [conjunctsOfParts, List.flatMap_append, fields_conjuncts part, fields_conjunctsOfParts rest, fieldsOfParts]

end

end Predicate

/-! ## Ways to begin -/

/-- The ways to begin a plan of a table. -/
inductive Start where
  | all
  | nothing
  | filter (predicate : Predicate)
  | withValues (pairs : List (String × Json))
  | withId (id : Json)
  | withIds (ids : List Json)
  | withValue (field : String) (value : Json)
  | withValueIn (field : String) (values : List Json)

namespace Start

/-- The plan to begin with. -/
def plan? (schema : Schema) : Start → Except UnknownField Plan
  | .all => .ok schema.all
  | .nothing => .ok schema.nothing
  | .filter predicate => .ok (schema.filter predicate)
  | .withValues pairs => schema.withValues pairs
  | .withId id => .ok (schema.withId id)
  | .withIds ids => .ok (schema.withIds ids)
  | .withValue field value => schema.withValue field value
  | .withValueIn field values => schema.withValueIn field values

/-- The names that are resolved before there is a plan. -/
def named : Start → List String
  | .withValues pairs => pairs.map Prod.fst
  | .withValue field _ | .withValueIn field _ => [field]
  | .all | .nothing | .filter _ | .withId _ | .withIds _ => []

/-- The conditions that are given. -/
def given (schema : Schema) : Start → List Predicate
  | .all => []
  | .nothing => [.never]
  | .filter predicate => [predicate]
  | .withValues pairs => pairs.map fun (field, value) => .is field value
  | .withId id => [.is schema.idField id]
  | .withIds ids => [.isOneOf schema.idField ids]
  | .withValue field value => [.is field value]
  | .withValueIn field values => [.isOneOf field values]

end Start

namespace Schema

variable {schema : Schema}

theorem withEach_eq (plan : Plan) (pairs : List (String × Json)) : schema.withEach plan pairs =
    (schema.resolveAll (pairs.map Prod.fst)).map fun _ =>
      plan.filterAll (pairs.map fun (field, value) => .is field value) := by
  induction pairs generalizing plan with
  | nil => rfl
  | cons pair rest ih =>
    rw [withEach, List.map_cons, List.map_cons, resolveAll]
    unfold resolve
    cases schema.declares pair.1 with
    | true => exact ih _
    | false => rfl

/-- Asking for one of no values is asking for nothing. -/
theorem nothing_or_filter (field : String) (values : List Json) :
    (if values.isEmpty then schema.nothing else schema.filter (.isOneOf field values)) =
      schema.filter (.isOneOf field values) := by
  cases values <;> rfl

theorem map_resolve (field : String) (f : String → Plan) :
    (schema.resolve field).map f = (schema.resolveAll [field]).map fun _ => f field := by
  rw [resolveAll]
  unfold resolve
  cases schema.declares field <;> rfl

end Schema

/-- A plan begins as the conditions given, once the names are resolved. -/
theorem Start.plan?_eq (schema : Schema) (start : Start) : start.plan? schema =
    (schema.resolveAll start.named).map fun _ => schema.all.filterAll (start.given schema) := by
  cases start with
  | all | nothing | filter | withId => rfl
  | withValues pairs => exact schema.withEach_eq schema.all pairs
  | withIds ids => exact congrArg Except.ok (schema.nothing_or_filter schema.idField ids)
  | withValue field value => exact schema.map_resolve field _
  | withValueIn field values =>
    simp only [plan?, Schema.withValueIn, Schema.nothing_or_filter]
    exact schema.map_resolve field _

/-! ## Builders behind -/

/-- The builders of a plan. -/
inductive Refinement where
  | filter (predicate : Predicate)
  | filterAll (predicates : List Predicate)
  | sortBy (field : String) (direction : Direction)
  | take (n : Nat)
  | drop (n : Nat)

namespace Refinement

/-- The plan with one builder more. -/
def apply (plan : Plan) : Refinement → Plan
  | .filter predicate => plan.filter predicate
  | .filterAll predicates => plan.filterAll predicates
  | .sortBy field direction => plan.sortBy field direction
  | .take n => plan.take n
  | .drop n => plan.drop n

/-- The conditions that are given. -/
def given : Refinement → List Predicate
  | .filter predicate => [predicate]
  | .filterAll predicates => predicates
  | .sortBy .. | .take _ | .drop _ => []

/-- The sort term that is given, if any. -/
def sortTerm? : Refinement → Option SortTerm
  | .sortBy field direction => some ⟨field, direction⟩
  | .filter _ | .filterAll _ | .take _ | .drop _ => none

/-- The limit that is given, if any. -/
def limit? : Refinement → Option Nat
  | .take n => some n
  | .filter _ | .filterAll _ | .sortBy .. | .drop _ => none

/-- The offset that is given, if any. -/
def offset? : Refinement → Option Nat
  | .drop n => some n
  | .filter _ | .filterAll _ | .sortBy .. | .take _ => none

end Refinement

namespace Plan

theorem filterAll_eq (plan : Plan) (predicates : List Predicate) : plan.filterAll predicates =
    { plan with predicates := plan.predicates ++ predicates.flatMap Predicate.conjuncts } := by
  induction predicates generalizing plan with
  | nil => simp [filterAll]
  | cons predicate rest ih =>
    rw [filterAll, List.foldl_cons, ← filterAll, ih, filter]
    simp

/-- What builders add to a plan, whatever their order among those of other kinds. -/
theorem foldl_apply (plan : Plan) (steps : List Refinement) : steps.foldl Refinement.apply plan =
    { schema := plan.schema
      predicates := plan.predicates ++ (steps.flatMap Refinement.given).flatMap Predicate.conjuncts
      sortTerms := plan.sortTerms ++ steps.filterMap Refinement.sortTerm?
      limit? := (steps.filterMap Refinement.limit?).getLast?.or plan.limit?
      offset? := (steps.filterMap Refinement.offset?).getLast?.or plan.offset? } := by
  induction steps generalizing plan with
  | nil => simp
  | cons step rest ih =>
    rw [List.foldl_cons, ih]
    cases step <;>
      simp [Refinement.apply, Refinement.given, Refinement.sortTerm?, Refinement.limit?, Refinement.offset?,
        filter, filterAll_eq, sortBy, take, drop, List.filterMap_cons, List.getLast?_cons, Option.or_some]

end Plan

/-! ## Chains -/

/-- A way to begin, and builders behind it. -/
structure Chain where
  start : Start
  steps : List Refinement

namespace Chain

/-- The plan of a chain; an error when its way to begin names a column that is not declared. -/
def plan? (schema : Schema) (chain : Chain) : Except UnknownField Plan :=
  (chain.start.plan? schema).map fun plan => chain.steps.foldl Refinement.apply plan

/-- The conditions given, from left to right. -/
def given (schema : Schema) (chain : Chain) : List Predicate :=
  chain.start.given schema ++ chain.steps.flatMap Refinement.given

/-- The sort terms given, from left to right. -/
def sortTerms (chain : Chain) : List SortTerm :=
  chain.steps.filterMap Refinement.sortTerm?

/-- The columns of the conditions given, from left to right, and then those of the sort terms. -/
def fields (schema : Schema) (chain : Chain) : List String :=
  (chain.given schema).flatMap Predicate.fields ++ chain.sortTerms.map SortTerm.field

/-- A chain mentions a column in a condition, at any depth, or in a sort term. -/
def Mentions (schema : Schema) (chain : Chain) (field : String) : Prop :=
  (∃ p ∈ chain.given schema, p.Mentions field) ∨ ∃ term ∈ chain.sortTerms, term.field = field

/-- The plan that a chain gives once its names are resolved. -/
def plan (schema : Schema) (chain : Chain) : Plan where
  schema := schema
  predicates := (chain.given schema).flatMap Predicate.conjuncts
  sortTerms := chain.sortTerms
  limit? := (chain.steps.filterMap Refinement.limit?).getLast?
  offset? := (chain.steps.filterMap Refinement.offset?).getLast?

variable {schema : Schema} {chain : Chain}

/-- A chain gives what its conditions, its sort terms and its last bounds say. -/
theorem plan?_eq : chain.plan? schema =
    (schema.resolveAll chain.start.named).map fun _ => chain.plan schema := by
  rw [plan?, Start.plan?_eq]
  cases schema.resolveAll chain.start.named with
  | error e => rfl
  | ok =>
    simp only [Except.map, Plan.foldl_apply, Plan.filterAll_eq]
    simp [plan, given, sortTerms, Schema.all]

theorem plan?_eq_ok_iff {plan : Plan} : chain.plan? schema = .ok plan ↔
    schema.resolveAll chain.start.named = .ok () ∧ chain.plan schema = plan := by
  rw [plan?_eq]
  cases schema.resolveAll chain.start.named <;> simp [Except.map]

theorem mem_fields_iff {field : String} : field ∈ chain.fields schema ↔ chain.Mentions schema field := by
  simp [fields, Mentions, Predicate.mem_fields_iff]

/-- The columns that a plan is checked for are those that the chain mentions, in order. -/
theorem fields_plan : (chain.plan schema).fields = chain.fields schema := by
  have hconditions : Predicate.fieldsOfParts (chain.plan schema).predicates =
      (chain.given schema).flatMap Predicate.fields := by
    simp [Predicate.fieldsOfParts_eq_flatMap, plan, List.flatMap_assoc, Predicate.fields_conjuncts]
  rw [Plan.fields, hconditions]
  rfl

/-- The plan of a chain that mentions declared columns alone is not refused. -/
theorem validate_of_mentions (h : ∀ field, chain.Mentions schema field → field ∈ schema.fields) :
    (chain.plan schema).validate = .ok () := by
  refine Plan.validate_of_declared fun field hfield => h field ?_
  rwa [fields_plan, mem_fields_iff] at hfield

end Chain

end Taskboard
