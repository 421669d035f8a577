/-
Conditions put together, and builders in any order. Taking conjunctions apart leaves no conjunction at the
top (`ne_all_of_mem_conjuncts`), so doing it again changes nothing and joining conditions is associative
(`and_assoc`, `or_assoc`). What a chain of builders gives goes by what it is given of each kind, and a plan
answers the same whatever the order of its conditions (`answer_eq`). So to filter twice is to filter by a
conjunction, and builders of different kinds change places (`conditions_conjoin`).
-/
import Taskboard.Proofs.Query.Shortcut

namespace Taskboard

/-! ## Conditions taken apart and put together -/

namespace Predicate

theorem conjunctsOfParts_eq_flatMap (parts : List Predicate) : conjunctsOfParts parts = parts.flatMap conjuncts := by
  induction parts with
  | nil => rfl
  | cons part rest ih => rw [conjunctsOfParts, ih, List.flatMap_cons]

theorem conjuncts_of_ne_all {p : Predicate} (h : ∀ parts, p ≠ .all parts) : p.conjuncts = [p] := by
  cases p with
  | all parts => exact absurd rfl (h parts)
  | _ => rfl

mutual

/-- However deep conjunctions are nested, none is left among the conjuncts. -/
theorem ne_all_of_mem_conjuncts (p : Predicate) {part : Predicate} (h : part ∈ p.conjuncts) (parts : List Predicate) :
    part ≠ .all parts := by
  cases p with
  | all inner => exact ne_all_of_mem_conjunctsOfParts inner h parts
  | _ =>
    rw [List.mem_singleton.1 h]
    exact fun heq => nomatch heq

theorem ne_all_of_mem_conjunctsOfParts (inner : List Predicate) {part : Predicate} (h : part ∈ conjunctsOfParts inner)
    (parts : List Predicate) : part ≠ .all parts := by
  cases inner with
  | nil => cases h
  | cons first rest =>
    rcases List.mem_append.1 h with hfirst | hrest
    · exact ne_all_of_mem_conjuncts first hfirst parts
    · exact ne_all_of_mem_conjunctsOfParts rest hrest parts

end

/-- Conjuncts are not taken apart any further. -/
theorem flatMap_conjuncts_conjuncts (p : Predicate) : p.conjuncts.flatMap conjuncts = p.conjuncts := by
  have hsingle : ∀ part ∈ p.conjuncts, part.conjuncts = [part] :=
    fun part hpart => conjuncts_of_ne_all (p.ne_all_of_mem_conjuncts hpart)
  rw [List.flatMap_congr hsingle, List.flatMap_singleton']

theorem conjuncts_and (p q : Predicate) : (p.and q).conjuncts = p.conjuncts ++ q.conjuncts := by
  rw [Predicate.and, conjuncts, conjunctsOfParts_eq_flatMap, List.flatMap_append, flatMap_conjuncts_conjuncts,
    flatMap_conjuncts_conjuncts]

theorem and_assoc (p q r : Predicate) : (p.and q).and r = p.and (q.and r) := by
  rw [Predicate.and, conjuncts_and, Predicate.and, conjuncts_and, List.append_assoc]

theorem alternatives_or (p q : Predicate) : (p.or q).alternatives = p.alternatives ++ q.alternatives :=
  rfl

theorem or_assoc (p q r : Predicate) : (p.or q).or r = p.or (q.or r) := by
  rw [Predicate.or, alternatives_or, Predicate.or, alternatives_or, List.append_assoc]

/-! ### Rows that meet them -/

variable (row : Record)

theorem allHold_eq_all (parts : List Predicate) : allHold row parts = parts.all (holds row) := by
  induction parts with
  | nil => rfl
  | cons part rest ih => rw [allHold, ih, List.all_cons]

theorem anyHolds_eq_any (parts : List Predicate) : anyHolds row parts = parts.any (holds row) := by
  induction parts with
  | nil => rfl
  | cons part rest ih => rw [anyHolds, ih, List.any_cons]

mutual

/-- A row meets a condition just when it meets every conjunct. -/
theorem all_conjuncts_holds (p : Predicate) : p.conjuncts.all (holds row) = p.holds row := by
  cases p with
  | all parts => exact all_conjunctsOfParts_holds parts
  | _ => rw [conjuncts, List.all_cons, List.all_nil, Bool.and_true]

theorem all_conjunctsOfParts_holds (parts : List Predicate) :
    (conjunctsOfParts parts).all (holds row) = allHold row parts := by
  cases parts with
  | nil => rfl
  | cons part rest =>
    rw [conjunctsOfParts, List.all_append, all_conjuncts_holds part, all_conjunctsOfParts_holds rest, allHold]

end

theorem any_alternatives_holds (p : Predicate) : p.alternatives.any (holds row) = p.holds row := by
  cases p with
  | any parts => exact (anyHolds_eq_any row parts).symm
  | _ => exact Bool.or_false _

theorem holds_and (p q : Predicate) : (p.and q).holds row = (p.holds row && q.holds row) := by
  rw [Predicate.and, holds, allHold_eq_all, List.all_append, all_conjuncts_holds, all_conjuncts_holds]

theorem holds_or (p q : Predicate) : (p.or q).holds row = (p.holds row || q.holds row) := by
  rw [Predicate.or, holds, anyHolds_eq_any, List.any_append, any_alternatives_holds, any_alternatives_holds]

end Predicate

/-! ## Plans with their conditions in another order -/

/-- Two plans that differ in the order of their conditions alone. -/
structure Plan.Rearranged (p q : Plan) : Prop where
  schema : p.schema = q.schema
  predicates : p.predicates.Perm q.predicates
  sortTerms : p.sortTerms = q.sortTerms
  limit? : p.limit? = q.limit?
  offset? : p.offset? = q.offset?

namespace Plan.Rearranged

variable {p q : Plan} (h : p.Rearranged q)
include h

theorem isVacuous_eq : p.isVacuous = q.isVacuous :=
  h.predicates.any_eq

theorem mem_fields_iff {field : String} : field ∈ p.fields ↔ field ∈ q.fields := by
  simp only [Plan.fields, Predicate.fieldsOfParts_eq_flatMap, List.mem_append, List.mem_flatMap, h.predicates.mem_iff,
    h.sortTerms]

theorem answer_eq (tables : Tables) : tables.answer p = tables.answer q := by
  have hmeeting : tables.rowsMeeting p = tables.rowsMeeting q := by
    unfold Tables.rowsMeeting
    rw [h.schema]
    refine List.filter_congr fun row _ => ?_
    rw [Predicate.allHold_eq_all, Predicate.allHold_eq_all, h.predicates.all_eq]
  unfold Tables.answer Tables.bounded
  rw [hmeeting, h.sortTerms, h.limit?, h.offset?]

end Plan.Rearranged

/-! ## Reads of such plans -/

namespace Tables

variable {tables : Tables}

/-- Whether a round trip fails goes by its kind. -/
theorem log_of_kind {call other : Call} (h : call.kind = other.kind) :
    (tables.log call).1 = (tables.log other).1 := by
  unfold log
  rw [h]
  split
  · rfl
  · dsimp only
    split <;> rfl

theorem select_eq (plan : Plan) : (Tables.select plan tables).1 =
    (tables.log plan.trip).1.map fun _ => (tables.answer plan).map Json.object := by
  have hrows := log_rows tables plan.trip
  unfold Tables.select
  rw [← Plan.trip]
  rcases hlog : tables.log plan.trip with ⟨_ | _, logged⟩ <;> rw [hlog] at hrows
  · rfl
  · exact congrArg (fun rows => Except.ok (rows.map Json.object)) (answer_congr hrows plan)

/-- Plans with one answer are answered alike, failures included. -/
theorem select_of_same {p q : Plan} (h : tables.answer p = tables.answer q) :
    (Tables.select p tables).1 = (Tables.select q tables).1 := by
  rw [select_eq, select_eq, h, @log_of_kind tables p.trip q.trip rfl]

end Tables

/-- Of declared columns, what is read does not go by the order of the conditions. -/
theorem Plan.Rearranged.run_all {α : Type} {model : Model α} {p q : Plan} (h : p.Rearranged q)
    (hdeclared : ∀ field ∈ p.fields, field ∈ p.schema.fields) (tables : Tables) (source : Entropy) :
    ((model.all p).run Tables.store tables source).1 = ((model.all q).run Tables.store tables source).1 := by
  have hp : p.validate = .ok () := Plan.validate_of_declared hdeclared
  have hq : q.validate = .ok () :=
    Plan.validate_of_declared fun field hfield => h.schema ▸ hdeclared field (h.mem_fields_iff.2 hfield)
  cases hvacuous : p.isVacuous with
  | true => rw [Way.all_of_isVacuous hp hvacuous, Way.all_of_isVacuous hq (h.isVacuous_eq ▸ hvacuous)]
  | false =>
    rw [Way.all_eq_fetch hp hvacuous, Way.all_eq_fetch hq (h.isVacuous_eq ▸ hvacuous)]
    show ((Tables.select p tables).1.bind model.decodeAll).mapError QueryError.storage =
      ((Tables.select q tables).1.bind model.decodeAll).mapError QueryError.storage
    rw [Tables.select_of_same (h.answer_eq tables)]

/-! ## Chains of builders -/

/-- Builders that sort by the same terms in order, and whose last bounds are the same. -/
structure Refinement.BoundAlike (steps others : List Refinement) : Prop where
  sortTerms : steps.filterMap sortTerm? = others.filterMap sortTerm?
  limit? : (steps.filterMap Refinement.limit?).getLast? = (others.filterMap Refinement.limit?).getLast?
  offset? : (steps.filterMap Refinement.offset?).getLast? = (others.filterMap Refinement.offset?).getLast?

namespace Plan

variable (plan : Plan)

/-- Builders give one plan when they give the same conditions, however they are mixed with the others. -/
theorem foldl_apply_congr {steps others : List Refinement} (h : Refinement.BoundAlike steps others)
    (hgiven : steps.flatMap Refinement.given = others.flatMap Refinement.given) :
    steps.foldl Refinement.apply plan = others.foldl Refinement.apply plan := by
  rw [foldl_apply, foldl_apply, hgiven, h.sortTerms, h.limit?, h.offset?]

theorem rearranged_foldl_apply {steps others : List Refinement} (h : Refinement.BoundAlike steps others)
    (hgiven : (steps.flatMap Refinement.given).Perm (others.flatMap Refinement.given)) :
    (steps.foldl Refinement.apply plan).Rearranged (others.foldl Refinement.apply plan) := by
  rw [foldl_apply, foldl_apply]
  exact {
    schema := rfl
    predicates := (hgiven.flatMap_right _).append_left _
    sortTerms := congrArg (plan.sortTerms ++ ·) h.sortTerms
    limit? := congrArg (·.or plan.limit?) h.limit?
    offset? := congrArg (·.or plan.offset?) h.offset? }

theorem filter_filter (p q : Predicate) : (plan.filter p).filter q = plan.filter (p.and q) := by
  rw [filter, filter, filter, Predicate.conjuncts_and, List.append_assoc]

theorem filterAll_pair (p q : Predicate) : plan.filterAll [p, q] = plan.filter (p.and q) :=
  plan.filter_filter p q

end Plan

/-- To filter twice, by both conditions at once, or by their conjunction is one. The plan of a chain of builders
goes by the conditions given in order, the sort terms in order and the last bounds, and not by how the calls are
mixed; conditions given in another order leave what is read of declared columns. Taking a condition apart is done
at once and leaves no conjunction at the top; conjunction and disjunction are associative in form, and a row meets
them just when it meets both conditions or one of them. -/
theorem conditions_conjoin {α : Type} (model : Model α) :
    (∀ (plan : Plan) (steps others : List Refinement), Refinement.BoundAlike steps others →
      (steps.flatMap Refinement.given = others.flatMap Refinement.given →
        steps.foldl Refinement.apply plan = others.foldl Refinement.apply plan) ∧
      ((steps.flatMap Refinement.given).Perm (others.flatMap Refinement.given) →
        (∀ field ∈ (steps.foldl Refinement.apply plan).fields, field ∈ plan.schema.fields) →
        ∀ (tables : Tables) (source : Entropy),
          ((model.all (steps.foldl Refinement.apply plan)).run Tables.store tables source).1 =
            ((model.all (others.foldl Refinement.apply plan)).run Tables.store tables source).1)) ∧
    (∀ (plan : Plan) (p q : Predicate), (plan.filter p).filter q = plan.filter (p.and q) ∧
      plan.filterAll [p, q] = plan.filter (p.and q)) ∧
    (∀ p : Predicate, p.conjuncts.flatMap Predicate.conjuncts = p.conjuncts ∧
      ∀ part ∈ p.conjuncts, ∀ parts, part ≠ .all parts) ∧
    (∀ p q r : Predicate, (p.and q).and r = p.and (q.and r) ∧ (p.or q).or r = p.or (q.or r)) ∧
    ∀ (p q : Predicate) (row : Record), (p.and q).holds row = (p.holds row && q.holds row) ∧
      (p.or q).holds row = (p.holds row || q.holds row) := by
  refine ⟨fun plan steps others hbound => ⟨plan.foldl_apply_congr hbound, fun hgiven hdeclared tables source => ?_⟩,
    fun plan p q => ⟨plan.filter_filter p q, plan.filterAll_pair p q⟩,
    fun p => ⟨p.flatMap_conjuncts_conjuncts, fun part hpart => p.ne_all_of_mem_conjuncts hpart⟩,
    fun p q r => ⟨p.and_assoc q r, p.or_assoc q r⟩, fun p q row => ⟨p.holds_and row q, p.holds_or row q⟩⟩
  have hschema : (steps.foldl Refinement.apply plan).schema = plan.schema := by
    rw [plan.foldl_apply]
  exact (plan.rearranged_foldl_apply hbound hgiven).run_all (hschema.symm ▸ hdeclared) tables source

/-- Builders for the newest two tasks in the inbox that nobody has. -/
def unclaimed : List Refinement :=
  [.filter (.is "status" (.string "inbox")), .take 9, .filter (.missing "assigned_agent_id"),
    .sortBy "created_at" .descending, .take 2]

/-- Both conditions in one call, behind the sort term. -/
def unclaimedAtOnce : List Refinement :=
  [.sortBy "created_at" .descending, .filterAll [.is "status" (.string "inbox"), .missing "assigned_agent_id"], .take 2]

/-- The conditions the other way round. -/
def unclaimedTurned : List Refinement :=
  [.filter (.missing "assigned_agent_id"), .take 2, .filter (.is "status" (.string "inbox")),
    .sortBy "created_at" .descending]

/-- A task in the inbox that nobody has. -/
def sweeping : Task :=
  ⟨"t1", some "b1", "Sweep", none, .inbox, "medium", none, none, "2024-01-01", "2024-01-01"⟩

/-- The task, and the same one done. -/
def chores : Tables where
  rows table := if table = "tasks" then [sweeping.record, { sweeping with id := "t2", status := .done }.record] else []
  calls := []
  fault? := none

theorem conditions_conjoin_unclaimed :
    unclaimed.foldl Refinement.apply Task.schema.all = unclaimedAtOnce.foldl Refinement.apply Task.schema.all ∧
    (((Task.model.all (unclaimedTurned.foldl Refinement.apply Task.schema.all)).run Tables.store chores
      Entropy.counting).1.toOption.map fun tasks => tasks.map Task.id) = some ["t1"] := by
  obtain ⟨hchains, -⟩ := conditions_conjoin Task.model
  obtain ⟨hsame, -⟩ := hchains Task.schema.all unclaimed unclaimedAtOnce ⟨rfl, rfl, rfl⟩
  obtain ⟨-, hread⟩ := hchains Task.schema.all unclaimed unclaimedTurned ⟨rfl, rfl, rfl⟩
  refine ⟨hsame rfl, ?_⟩
  rw [← hread (List.Perm.swap ..) (by decide +kernel) chores Entropy.counting]
  decide +kernel

end Taskboard
