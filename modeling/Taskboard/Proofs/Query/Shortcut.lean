/-
Reads of plans that show by their form that no row will do. No row meets such a condition, however
deep its parts are nested (`holds_eq_false_of_isImpossible`), so a read that is answered without a
round trip gives what the store would have answered (`shortcut_sound`). A chain that begins with
nothing stays such a plan, whatever is built behind it (`isVacuous_plan`).
-/
import Taskboard.Proofs.Query.Reads
import Taskboard.Proofs.Storage.Queries

namespace Taskboard

/-! ## Conditions that no row meets -/

namespace Predicate

mutual

/-- A condition that shows by its form that no row meets it is met by none. -/
theorem holds_eq_false_of_isImpossible (row : Record) (p : Predicate) (h : p.isImpossible = true) :
    p.holds row = false := by
  cases p with
  | never => rfl
  | among field values =>
    obtain rfl := List.isEmpty_iff.1 h
    rw [holds]
    cases row.value? field <;> rfl
  | all parts => exact allHold_eq_false_of_anyImpossible row parts h
  | any parts => exact anyHolds_eq_false_of_allImpossible row parts h
  | equals | differs | missing | present => cases h

/-- One part that no row meets is enough among parts that must all hold. -/
theorem allHold_eq_false_of_anyImpossible (row : Record) (parts : List Predicate) (h : anyImpossible parts = true) :
    allHold row parts = false := by
  cases parts with
  | nil => cases h
  | cons part rest =>
    rw [anyImpossible, Bool.or_eq_true] at h
    rw [allHold, Bool.and_eq_false_iff]
    rcases h with hpart | hrest
    · exact .inl (holds_eq_false_of_isImpossible row part hpart)
    · exact .inr (allHold_eq_false_of_anyImpossible row rest hrest)

/-- Of alternatives none may be left that a row meets. -/
theorem anyHolds_eq_false_of_allImpossible (row : Record) (parts : List Predicate) (h : allImpossible parts = true) :
    anyHolds row parts = false := by
  cases parts with
  | nil => rfl
  | cons part rest =>
    rw [allImpossible, Bool.and_eq_true] at h
    rw [anyHolds, Bool.or_eq_false_iff]
    exact ⟨holds_eq_false_of_isImpossible row part h.1, anyHolds_eq_false_of_allImpossible row rest h.2⟩

end

mutual

/-- Taking conjunctions apart leaves a part that shows by its form that no row meets it. -/
theorem any_conjuncts_isImpossible (p : Predicate) : p.conjuncts.any isImpossible = p.isImpossible := by
  cases p with
  | all parts => exact any_conjunctsOfParts_isImpossible parts
  | _ => simp [conjuncts]

theorem any_conjunctsOfParts_isImpossible (parts : List Predicate) :
    (conjunctsOfParts parts).any isImpossible = anyImpossible parts := by
  cases parts with
  | nil => rfl
  | cons part rest =>
    rw [conjunctsOfParts, List.any_append, any_conjuncts_isImpossible part, any_conjunctsOfParts_isImpossible rest,
      anyImpossible]

end

end Predicate

/-! ## Plans that no row meets -/

namespace Tables

variable {plan : Plan}

theorem rowsMeeting_of_isVacuous (tables : Tables) (h : plan.isVacuous = true) : tables.rowsMeeting plan = [] := by
  obtain ⟨part, hpart, himpossible⟩ := List.any_eq_true.1 h
  refine List.filter_eq_nil_iff.2 fun row _ hall => ?_
  have hholds := Predicate.allHold_iff.1 hall part hpart
  rw [part.holds_eq_false_of_isImpossible row himpossible] at hholds
  cases hholds

theorem answer_of_isVacuous (tables : Tables) (h : plan.isVacuous = true) : tables.answer plan = [] := by
  unfold answer
  rw [rowsMeeting_of_isVacuous tables h, sorted, List.mergeSort_nil]
  unfold bounded
  cases plan.limit? <;> simp

theorem count_of_quiet {tables : Tables} (hquiet : tables.fault? = none) :
    Tables.count plan tables = (.ok (tables.rowsMeeting plan).length,
      tables.noting [⟨.count, plan.schema.table, plan.countStatement.text⟩]) := by
  unfold Tables.count
  rw [log_of_quiet hquiet]
  rfl

end Tables

/-! ## Reading past the shortcut -/

namespace Model

variable {α : Type} (model : Model α)

/-- The rows of a plan, asked of the store in any case. -/
def fetch (plan : Plan) : Flow QueryError (List α) :=
  .select plan fun answer => .done ((answer.bind model.decodeAll).mapError .storage)

/-- The first row of a plan, asked of the store in any case. -/
def fetchFirst (plan : Plan) : Flow QueryError (Option α) := do
  return (← model.fetch (plan.take 1)).head?

variable {σ : Type} (store : Flow.Store σ) (state : σ) (source : Entropy) (plan : Plan)

theorem run_fetchFirst : (model.fetchFirst plan).run store state source =
    (((model.fetch (plan.take 1)).run store state source).1.map List.head?,
      ((model.fetch (plan.take 1)).run store state source).2) :=
  Flow.run_return store List.head? (model.fetch (plan.take 1)) state source

end Model

namespace Way

/-- Reads what a plan asks for, with a round trip in any case. -/
def direct {α : Type} (model : Model α) (plan : Plan) : (way : Way) → Flow QueryError (way.Answer α)
  | .all => model.fetch plan
  | .first => model.fetchFirst plan
  | .count => .count plan fun answer => .done (answer.mapError .storage)
  | .any => do return (← model.fetchFirst plan).isSome

/-- What reading gives where there is no row. -/
def nothing {α : Type} : (way : Way) → way.Answer α
  | .all => []
  | .first => none
  | .count => (0 : Nat)
  | .any => false

/-- The round trip of a read. -/
def trip (plan : Plan) : Way → Call
  | .all => plan.trip
  | .first | .any => (plan.take 1).trip
  | .count => ⟨.count, plan.schema.table, plan.countStatement.text⟩

section Flows

variable {α : Type} {model : Model α} {plan : Plan} (hvalid : plan.validate = .ok ())
include hvalid

theorem all_of_isVacuous (hvacuous : plan.isVacuous = true) : model.all plan = pure [] := by
  unfold Model.all Plan.ask
  rw [hvalid, hvacuous]
  rfl

theorem all_eq_fetch (hvacuous : plan.isVacuous = false) : model.all plan = model.fetch plan := by
  unfold Model.all Plan.ask
  rw [hvalid, hvacuous]
  rfl

/-- A plan that no row meets is answered without asking for anything. -/
theorem flow_of_isVacuous (way : Way) (hvacuous : plan.isVacuous = true) : way.flow model plan = pure way.nothing := by
  have hone : model.all (plan.take 1) = pure [] := all_of_isVacuous hvalid hvacuous
  have hfirst : model.first plan = pure none := by
    unfold Model.first
    rw [hone]
    rfl
  cases way with
  | all => exact all_of_isVacuous hvalid hvacuous
  | first => exact hfirst
  | count =>
    show plan.count = _
    unfold Plan.count Plan.ask
    rw [hvalid, hvacuous]
    rfl
  | any =>
    show model.hasAny plan = _
    unfold Model.hasAny
    rw [hfirst]
    rfl

/-- Any other plan is put to the store. -/
theorem flow_eq_direct (way : Way) (hvacuous : plan.isVacuous = false) :
    way.flow model plan = way.direct model plan := by
  have hone : model.all (plan.take 1) = model.fetch (plan.take 1) := all_eq_fetch hvalid hvacuous
  have hfirst : model.first plan = model.fetchFirst plan := by
    unfold Model.first
    rw [hone]
    rfl
  cases way with
  | all => exact all_eq_fetch hvalid hvacuous
  | first => exact hfirst
  | count =>
    show plan.count = _
    unfold Plan.count Plan.ask
    rw [hvalid, hvacuous]
    rfl
  | any =>
    show model.hasAny plan = _
    unfold Model.hasAny
    rw [hfirst]
    rfl

end Flows

section Runs

variable {α : Type} {model : Model α} {plan : Plan} {tables : Tables} (source : Entropy)

theorem run_direct_any {σ : Type} (store : Flow.Store σ) (state : σ) :
    (Way.any.direct model plan).run store state source =
      (((model.fetchFirst plan).run store state source).1.map Option.isSome,
        ((model.fetchFirst plan).run store state source).2) :=
  Flow.run_return store Option.isSome (model.fetchFirst plan) state source

/-- Where no failure waits, the store answers a plan that no row meets with nothing. -/
theorem run_direct_of_isVacuous (way : Way) (hquiet : tables.fault? = none) (hvacuous : plan.isVacuous = true) :
    ((way.direct model plan).run Tables.store tables source).1 = .ok way.nothing := by
  have hfetch : ∀ plan : Plan, plan.isVacuous = true →
      ((model.fetch plan).run Tables.store tables source).1 = .ok [] := by
    intro plan hvacuous
    simp only [Model.fetch, Flow.run, Tables.store, Tables.select_of_quiet hquiet,
      tables.answer_of_isVacuous hvacuous]
    rfl
  have hfirst : ((model.fetchFirst plan).run Tables.store tables source).1 = .ok none := by
    rw [Model.run_fetchFirst, hfetch (plan.take 1) hvacuous]
    rfl
  cases way with
  | all => exact hfetch plan hvacuous
  | first => exact hfirst
  | count =>
    simp only [direct, Flow.run, Tables.store, Tables.count_of_quiet hquiet,
      tables.rowsMeeting_of_isVacuous hvacuous]
    rfl
  | any =>
    rw [run_direct_any, hfirst]
    rfl

/-- A read that is put to the store is one round trip, whatever becomes of it. -/
theorem calls_run_direct (way : Way) :
    ((way.direct model plan).run Tables.store tables source).2.1.calls = tables.calls ++ [way.trip plan] := by
  have hfetch : ∀ plan : Plan,
      ((model.fetch plan).run Tables.store tables source).2.1.calls = tables.calls ++ [plan.trip] := by
    intro plan
    rw [← Backend.calls_log tables plan.trip]
    show (Tables.select plan tables).2.calls = _
    unfold Tables.select
    split <;> rename_i heq <;> rw [Plan.trip, heq]
  have hfirst : ((model.fetchFirst plan).run Tables.store tables source).2.1.calls =
      tables.calls ++ [(plan.take 1).trip] := by
    rw [Model.run_fetchFirst]
    exact hfetch (plan.take 1)
  cases way with
  | all => exact hfetch plan
  | first => exact hfirst
  | count =>
    rw [← Backend.calls_log tables (Way.count.trip plan)]
    show (Tables.count plan tables).2.calls = _
    unfold Tables.count
    split <;> rename_i heq <;> rw [Way.trip, heq]
  | any =>
    rw [run_direct_any]
    exact hfirst

end Runs

end Way

/-! ## Chains that begin with nothing -/

/-- The ways to begin with no row: outright, or with no values to look for. -/
inductive Start.Empty : Start → Prop where
  | nothing : Empty .nothing
  | withIds : Empty (.withIds [])
  | withValueIn (field : String) : Empty (.withValueIn field [])

namespace Chain

variable {schema : Schema} {chain : Chain}

/-- A plan shows that no row will do when one of the conditions given does. -/
theorem isVacuous_plan_eq : (chain.plan schema).isVacuous = (chain.given schema).any Predicate.isImpossible := by
  show ((chain.given schema).flatMap Predicate.conjuncts).any Predicate.isImpossible = _
  rw [List.any_flatMap]
  exact congrArg (List.any _) (funext Predicate.any_conjuncts_isImpossible)

/-- Whatever is built behind nothing, the plan shows by its form that no row will do. -/
theorem isVacuous_plan (h : chain.start.Empty) : (chain.plan schema).isVacuous = true := by
  have hstart : chain.start.given schema = [.never] := by
    cases hstart : chain.start <;> rw [hstart] at h <;> cases h <;> rfl
  rw [isVacuous_plan_eq, given, hstart]
  rfl

/-- A chain whose names are all declared has a plan, and the plan speaks of declared columns only. -/
theorem validate_plan (hnamed : ∀ field ∈ chain.start.named, field ∈ schema.fields)
    (hmentioned : ∀ field, chain.Mentions schema field → field ∈ schema.fields) :
    chain.plan? schema = .ok (chain.plan schema) ∧ (chain.plan schema).validate = .ok () := by
  refine ⟨?_, validate_of_mentions hmentioned⟩
  rw [plan?_eq, Schema.resolveAll_of_declared hnamed]
  rfl

end Chain

/-! ## The shortcut -/

/-- No row meets a condition that shows by its form that none does. So a read of declared columns that is
answered without asking the store gives what the store would have answered, makes no round trip and leaves a
failure that waits; any other read makes one round trip. And a chain that begins with no row brings none,
counts none and makes no round trip, whatever is built behind it. -/
theorem shortcut_sound {α : Type} (model : Model α) :
    (∀ (p : Predicate) (row : Record), p.isImpossible = true → p.holds row = false) ∧
    (∀ plan : Plan, (∀ field ∈ plan.fields, field ∈ plan.schema.fields) →
      ∀ (way : Way) (tables : Tables) (source : Entropy),
        (tables.fault? = none → ((way.flow model plan).run Tables.store tables source).1 =
          ((way.direct model plan).run Tables.store tables source).1) ∧
        (plan.isVacuous = true →
          (way.flow model plan).run Tables.store tables source = (.ok way.nothing, tables, source)) ∧
        (plan.isVacuous = false →
          ((way.flow model plan).run Tables.store tables source).2.1.calls = tables.calls ++ [way.trip plan])) ∧
    ∀ chain : Chain, chain.start.Empty → (∀ field ∈ chain.start.named, field ∈ model.schema.fields) →
      (∀ field, chain.Mentions model.schema field → field ∈ model.schema.fields) →
      ∃ plan, chain.plan? model.schema = .ok plan ∧ ∀ (way : Way) (tables : Tables) (source : Entropy),
        (way.flow model plan).run Tables.store tables source = (.ok way.nothing, tables, source) := by
  refine ⟨fun p row => p.holds_eq_false_of_isImpossible row, fun plan hdeclared way tables source => ?_,
    fun chain hempty hnamed hmentioned => ?_⟩
  · have hvalid : plan.validate = .ok () := by
      rw [Plan.validate, plan.schema.resolveAll_eq, Schema.firstUndeclared?_eq_none_iff.2 hdeclared]
    refine ⟨fun hquiet => ?_, fun hvacuous => ?_, fun hvacuous => ?_⟩
    · rcases hvacuous : plan.isVacuous with _ | _
      · rw [Way.flow_eq_direct hvalid way hvacuous]
      · rw [Way.flow_of_isVacuous hvalid way hvacuous, Way.run_direct_of_isVacuous source way hquiet hvacuous]
        rfl
    · rw [Way.flow_of_isVacuous hvalid way hvacuous]
      rfl
    · rw [Way.flow_eq_direct hvalid way hvacuous]
      exact Way.calls_run_direct source way
  · obtain ⟨hplan, hvalid⟩ := Chain.validate_plan hnamed hmentioned
    refine ⟨_, hplan, fun way tables source => ?_⟩
    rw [Way.flow_of_isVacuous hvalid way (Chain.isVacuous_plan hempty)]
    rfl

/-- Tasks that are assigned and are not, or have one of no statuses, the newest first. -/
def nowhere : Plan :=
  (Task.schema.filter (.any [.all [.present "assigned_agent_id", .never], .among "status" []])).sortBy "created_at"
    .descending

/-- Tables whose next round trip fails. -/
def interrupted : Tables :=
  Tables.empty.failNext "down"

theorem shortcut_sound_nowhere :
    (Way.first.flow Task.model nowhere).run Tables.store interrupted Entropy.counting =
      (.ok none, interrupted, Entropy.counting) ∧
    ((Way.all.flow Task.model nowhere).run Tables.store Tables.empty Entropy.counting).1 =
      ((Way.all.direct Task.model nowhere).run Tables.store Tables.empty Entropy.counting).1 ∧
    ((Way.count.flow Task.model Task.schema.all).run Tables.store interrupted Entropy.counting).2.1.calls.map Call.text =
      ["SELECT COUNT(*) AS count FROM tasks"] ∧
    ∃ plan, Chain.plan? Task.schema ⟨.withValueIn "status" [], [.filter (.missing "title"), .take 3]⟩ = .ok plan ∧
      (Way.any.flow Task.model plan).run Tables.store interrupted Entropy.counting =
        (.ok false, interrupted, Entropy.counting) := by
  obtain ⟨-, hread, hempty⟩ := shortcut_sound Task.model
  obtain ⟨-, hshort, -⟩ := hread nowhere (by decide +kernel) .first interrupted Entropy.counting
  obtain ⟨hsame, -, -⟩ := hread nowhere (by decide +kernel) .all Tables.empty Entropy.counting
  obtain ⟨-, -, hasked⟩ := hread Task.schema.all (by decide +kernel) .count interrupted Entropy.counting
  have hmentioned : ∀ field,
      Chain.Mentions Task.schema ⟨.withValueIn "status" [], [.filter (.missing "title"), .take 3]⟩ field →
        field ∈ Task.schema.fields := by
    intro field hfield
    obtain rfl : field = "title" := List.mem_singleton.1 (Chain.mem_fields_iff.2 hfield)
    decide +kernel
  obtain ⟨plan, hplan, hrun⟩ := hempty _ (.withValueIn "status") (by decide +kernel) hmentioned
  refine ⟨hshort (by decide +kernel), hsame rfl, ?_, plan, hplan, hrun .any interrupted Entropy.counting⟩
  rw [hasked (by decide +kernel)]
  decide +kernel

end Taskboard
