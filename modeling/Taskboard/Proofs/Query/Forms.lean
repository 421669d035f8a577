/-
Conditions, plans and chains that differ in their values alone. What is left of a condition without its
values is its form. Statements and the checks before them go by the form (`text_selectStatement_form`,
`validate_form`, `isVacuous_form`), and replacing values and bounds in a chain leaves the form of its
plan as it is (`Chain.Revalued.plan?`), so no value ever tells two statements apart.
-/
import Taskboard.Proofs.Query.Chains
import Taskboard.Query.Statement
import Mathlib.Data.List.Forall2

namespace Taskboard

open Sql

/-! ## Conditions -/

namespace Predicate

mutual

/-- The condition with null in the place of every value. -/
def form : Predicate → Predicate
  | .never => .never
  | .equals field _ => .equals field .null
  | .differs field _ => .differs field .null
  | .among field values => .among field (values.map fun _ => .null)
  | .missing field => .missing field
  | .present field => .present field
  | .all parts => .all (formOfParts parts)
  | .any parts => .any (formOfParts parts)

/-- Several conditions with null in the place of every value. -/
def formOfParts : List Predicate → List Predicate
  | [] => []
  | part :: rest => part.form :: formOfParts rest

end

theorem formOfParts_eq_map (parts : List Predicate) : formOfParts parts = parts.map form := by
  induction parts with
  | nil => rfl
  | cons part rest ih => rw [formOfParts, ih, List.map_cons]

mutual

theorem fields_form (p : Predicate) : p.form.fields = p.fields := by
  cases p with
  | all parts | any parts => exact fieldsOfParts_form parts
  | _ => rfl

theorem fieldsOfParts_form (parts : List Predicate) : fieldsOfParts (formOfParts parts) = fieldsOfParts parts := by
  cases parts with
  | nil => rfl
  | cons part rest =>
    rw [formOfParts, fieldsOfParts, fields_form part, fieldsOfParts_form rest, fieldsOfParts]

end

mutual

theorem isImpossible_form (p : Predicate) : p.form.isImpossible = p.isImpossible := by
  cases p with
  | among field values => cases values <;> rfl
  | all parts => exact anyImpossible_form parts
  | any parts => exact allImpossible_form parts
  | _ => rfl

theorem anyImpossible_form (parts : List Predicate) : anyImpossible (formOfParts parts) = anyImpossible parts := by
  cases parts with
  | nil => rfl
  | cons part rest =>
    rw [formOfParts, anyImpossible, isImpossible_form part, anyImpossible_form rest, anyImpossible]

theorem allImpossible_form (parts : List Predicate) : allImpossible (formOfParts parts) = allImpossible parts := by
  cases parts with
  | nil => rfl
  | cons part rest =>
    rw [formOfParts, allImpossible, isImpossible_form part, allImpossible_form rest, allImpossible]

end

mutual

theorem length_values_form (p : Predicate) : p.form.values.length = p.values.length := by
  cases p with
  | among field values => exact List.length_map _
  | all parts | any parts => exact length_valuesOfParts_form parts
  | _ => rfl

theorem length_valuesOfParts_form (parts : List Predicate) :
    (valuesOfParts (formOfParts parts)).length = (valuesOfParts parts).length := by
  cases parts with
  | nil => rfl
  | cons part rest =>
    rw [formOfParts, valuesOfParts, valuesOfParts, List.length_append, List.length_append,
      length_values_form part, length_valuesOfParts_form rest]

end

mutual

/-- The pieces of a condition hold no value: a placeholder is numbered by how many values are before it. -/
theorem pieces_form (p : Predicate) (bound : Nat) : p.form.pieces bound = p.pieces bound := by
  cases p with
  | among field values =>
    cases values with
    | nil => rfl
    | cons value rest => simp [form, pieces]
  | all parts | any parts => simp only [form, pieces, piecesOfParts_form parts]
  | _ => rfl

theorem piecesOfParts_form (parts : List Predicate) (bound : Nat) :
    piecesOfParts bound (formOfParts parts) = piecesOfParts bound parts := by
  cases parts with
  | nil => rfl
  | cons part rest =>
    rw [formOfParts, piecesOfParts, piecesOfParts, pieces_form part, length_values_form part,
      piecesOfParts_form rest]

end

mutual

theorem conjuncts_form (p : Predicate) : p.form.conjuncts = p.conjuncts.map form := by
  cases p with
  | all parts => exact conjunctsOfParts_form parts
  | _ => rfl

theorem conjunctsOfParts_form (parts : List Predicate) :
    conjunctsOfParts (formOfParts parts) = (conjunctsOfParts parts).map form := by
  cases parts with
  | nil => rfl
  | cons part rest =>
    rw [formOfParts, conjunctsOfParts, conjunctsOfParts, List.map_append, conjuncts_form part,
      conjunctsOfParts_form rest]

end

theorem alternatives_form (p : Predicate) : p.form.alternatives = p.alternatives.map form := by
  cases p with
  | any parts => exact formOfParts_eq_map parts
  | _ => rfl

/-! ### Replaced values -/

/-- A condition with some of its values replaced: null stands for null alone where it is told apart, and
lists keep their length. -/
inductive Revalued : Predicate → Predicate → Prop where
  | refl (p : Predicate) : Revalued p p
  | trans {p q r : Predicate} (hpq : Revalued p q) (hqr : Revalued q r) : Revalued p r
  | equals (field : String) (v w : Json) : Revalued (.equals field v) (.equals field w)
  | differs (field : String) (v w : Json) : Revalued (.differs field v) (.differs field w)
  | among (field : String) {vs ws : List Json} (h : vs.length = ws.length) :
      Revalued (.among field vs) (.among field ws)
  | all (before : List Predicate) {p q : Predicate} (after : List Predicate) (h : Revalued p q) :
      Revalued (.all (before ++ p :: after)) (.all (before ++ q :: after))
  | any (before : List Predicate) {p q : Predicate} (after : List Predicate) (h : Revalued p q) :
      Revalued (.any (before ++ p :: after)) (.any (before ++ q :: after))
  | is (field : String) {v w : Json} (h : v.isNull = w.isNull) : Revalued (.is field v) (.is field w)
  | isNot (field : String) {v w : Json} (h : v.isNull = w.isNull) : Revalued (.isNot field v) (.isNot field w)
  | isOneOf (field : String) {vs ws : List Json} (h : vs.length = ws.length) :
      Revalued (.isOneOf field vs) (.isOneOf field ws)
  | and {p p' q q' : Predicate} (hp : Revalued p p') (hq : Revalued q q') : Revalued (p.and q) (p'.and q')
  | or {p p' q q' : Predicate} (hp : Revalued p p') (hq : Revalued q q') : Revalued (p.or q) (p'.or q')

/-- Replacing values leaves the form of a condition. -/
theorem Revalued.form_eq {p q : Predicate} (h : p.Revalued q) : p.form = q.form := by
  induction h with
  | refl => rfl
  | trans _ _ hpq hqr => exact hpq.trans hqr
  | equals | differs => rfl
  | among field h => simp [form, List.map_const', h]
  | all before after _ ih | any before after _ ih => simp [form, formOfParts_eq_map, ih]
  | is field h =>
    unfold Predicate.is
    rw [h]
    split <;> rfl
  | isNot field h =>
    unfold Predicate.isNot
    rw [h]
    split <;> rfl
  | @isOneOf field vs ws h => cases vs <;> cases ws <;> simp_all [Predicate.isOneOf, form, List.map_const']
  | and _ _ hp hq =>
    simp only [Predicate.and, form, formOfParts_eq_map, List.map_append, ← conjuncts_form, hp, hq]
  | or _ _ hp hq =>
    simp only [Predicate.or, form, formOfParts_eq_map, List.map_append, ← alternatives_form, hp, hq]

end Predicate

/-! ## Plans -/

namespace Plan

/-- The plan with null in the place of every value, and its bounds zero. -/
def form (plan : Plan) : Plan where
  schema := plan.schema
  predicates := Predicate.formOfParts plan.predicates
  sortTerms := plan.sortTerms
  limit? := plan.limit?.map fun _ => 0
  offset? := plan.offset?.map fun _ => 0

variable (plan : Plan)

theorem validate_form : plan.form.validate = plan.validate := by
  rw [validate, fields, form, Predicate.fieldsOfParts_form]
  rfl

theorem isVacuous_form : plan.form.isVacuous = plan.isVacuous := by
  simp [isVacuous, form, Predicate.formOfParts_eq_map, List.any_map, Function.comp_def,
    Predicate.isImpossible_form]

theorem wherePieces_form : plan.form.wherePieces = plan.wherePieces := by
  have hpieces := Predicate.piecesOfParts_form plan.predicates 0
  unfold wherePieces form
  cases hpredicates : plan.predicates with
  | nil => rfl
  | cons part rest =>
    rw [hpredicates] at hpieces
    exact congrArg (fun parts => spaced [.where] ++ (spaced [.and]).intercalate parts) hpieces

theorem boundPieces_form (bound : Nat) : plan.form.boundPieces bound = plan.boundPieces bound := by
  unfold boundPieces form
  cases plan.limit? <;> cases plan.offset? <;> rfl

/-- Which rows are asked for shows in the parameters of a statement alone. -/
theorem text_selectStatement_form : plan.form.selectStatement.text = plan.selectStatement.text := by
  have hparams : plan.form.whereParams.length = plan.whereParams.length :=
    Predicate.length_valuesOfParts_form plan.predicates
  simp only [Statement.text, selectStatement, wherePieces_form, boundPieces_form, hparams]
  rfl

theorem text_countStatement_form : plan.form.countStatement.text = plan.countStatement.text := by
  simp only [Statement.text, countStatement, wherePieces_form]
  rfl

theorem form_filterAll {p q : Plan} (hplan : p.form = q.form) {ps qs : List Predicate}
    (h : ps.map Predicate.form = qs.map Predicate.form) : (p.filterAll ps).form = (q.filterAll qs).form := by
  have hform : ∀ (plan : Plan) (ps : List Predicate), (plan.filterAll ps).form = { plan.form with
      predicates := plan.form.predicates ++ (ps.map Predicate.form).flatMap Predicate.conjuncts } := by
    intro plan ps
    simp [filterAll_eq, form, Predicate.formOfParts_eq_map, List.map_flatMap, List.flatMap_map,
      Predicate.conjuncts_form]
  rw [hform, hform, hplan, h]

theorem form_take {p q : Plan} (h : p.form = q.form) (m n : Nat) : (p.take m).form = (q.take n).form :=
  congrArg (fun plan => plan.take 0) h

end Plan

/-! ## Chains -/

/-- A way to begin with some of its values replaced. -/
inductive Start.Revalued : Start → Start → Prop where
  | refl (start : Start) : Revalued start start
  | filter {p q : Predicate} (h : p.Revalued q) : Revalued (.filter p) (.filter q)
  | withValues {pairs pairs' : List (String × Json)}
      (h : List.Forall₂ (fun a b => a.1 = b.1 ∧ a.2.isNull = b.2.isNull) pairs pairs') :
      Revalued (.withValues pairs) (.withValues pairs')
  | withId {v w : Json} (h : v.isNull = w.isNull) : Revalued (.withId v) (.withId w)
  | withIds {vs ws : List Json} (h : vs.length = ws.length) : Revalued (.withIds vs) (.withIds ws)
  | withValue (field : String) {v w : Json} (h : v.isNull = w.isNull) :
      Revalued (.withValue field v) (.withValue field w)
  | withValueIn (field : String) {vs ws : List Json} (h : vs.length = ws.length) :
      Revalued (.withValueIn field vs) (.withValueIn field ws)

/-- A builder with some of its values, or its bound, replaced. -/
inductive Refinement.Revalued : Refinement → Refinement → Prop where
  | filter {p q : Predicate} (h : p.Revalued q) : Revalued (.filter p) (.filter q)
  | filterAll {ps qs : List Predicate} (h : List.Forall₂ Predicate.Revalued ps qs) :
      Revalued (.filterAll ps) (.filterAll qs)
  | sortBy (field : String) (direction : Direction) : Revalued (.sortBy field direction) (.sortBy field direction)
  | take (m n : Nat) : Revalued (.take m) (.take n)
  | drop (m n : Nat) : Revalued (.drop m) (.drop n)

/-- The same calls with some of their values and bounds replaced. -/
structure Chain.Revalued (chain other : Chain) : Prop where
  start : chain.start.Revalued other.start
  steps : List.Forall₂ Refinement.Revalued chain.steps other.steps

namespace Start.Revalued

variable {start other : Start}

theorem named (h : start.Revalued other) : start.named = other.named := by
  cases h with
  | refl | filter | withId | withIds | withValue | withValueIn => rfl
  | withValues h =>
    rw [Start.named, Start.named]
    induction h with
    | nil => rfl
    | cons hpair _ ih => rw [List.map_cons, List.map_cons, hpair.1, ih]

theorem given (h : start.Revalued other) (schema : Schema) :
    (start.given schema).map Predicate.form = (other.given schema).map Predicate.form := by
  cases h with
  | refl => rfl
  | filter h => simp [Start.given, h.form_eq]
  | withValues h =>
    rw [Start.given, Start.given]
    induction h with
    | nil => rfl
    | @cons a b _ _ hpair _ ih =>
      have hform := (Predicate.Revalued.is b.1 hpair.2).form_eq
      simp only [List.map_cons, hpair.1, hform, ih]
  | withId h | withValue _ h => simp [Start.given, (Predicate.Revalued.is _ h).form_eq]
  | withIds h | withValueIn _ h => simp [Start.given, (Predicate.Revalued.isOneOf _ h).form_eq]

end Start.Revalued

/-- One builder with its values replaced leaves plans of one form so. -/
theorem Refinement.Revalued.apply {step other : Refinement} (h : step.Revalued other) {p q : Plan}
    (hplan : p.form = q.form) : (step.apply p).form = (other.apply q).form := by
  cases h with
  | @filter a b h =>
    have hforms : [a].map Predicate.form = [b].map Predicate.form := by simp [h.form_eq]
    exact Plan.form_filterAll hplan hforms
  | @filterAll ps qs h =>
    have hforms : ps.map Predicate.form = qs.map Predicate.form := by
      induction h with
      | nil => rfl
      | cons hpart _ ih => rw [List.map_cons, List.map_cons, hpart.form_eq, ih]
    exact Plan.form_filterAll hplan hforms
  | sortBy field direction => exact congrArg (fun plan => plan.sortBy field direction) hplan
  | take m n => exact Plan.form_take hplan m n
  | drop m n => exact congrArg (fun plan => plan.drop 0) hplan

theorem foldl_apply_of_revalued {steps others : List Refinement}
    (h : List.Forall₂ Refinement.Revalued steps others) {p q : Plan} (hplan : p.form = q.form) :
    (steps.foldl Refinement.apply p).form = (others.foldl Refinement.apply q).form := by
  induction h generalizing p q with
  | nil => exact hplan
  | cons hstep _ ih => exact ih (hstep.apply hplan)

/-- With other values, a chain still gives a plan, and one of the same form. -/
theorem Chain.Revalued.plan? {schema : Schema} {chain other : Chain} (h : chain.Revalued other) {plan : Plan}
    (hplan : chain.plan? schema = .ok plan) :
    ∃ plan', other.plan? schema = .ok plan' ∧ plan'.form = plan.form := by
  have hstart : (schema.all.filterAll (other.start.given schema)).form =
      (schema.all.filterAll (chain.start.given schema)).form :=
    Plan.form_filterAll rfl (h.start.given schema).symm
  rw [Chain.plan?, Start.plan?_eq] at hplan ⊢
  rw [← h.start.named]
  cases hresolve : schema.resolveAll chain.start.named with
  | error e =>
    rw [hresolve] at hplan
    cases hplan
  | ok =>
    rw [hresolve] at hplan
    cases hplan
    exact ⟨_, rfl, (foldl_apply_of_revalued h.steps hstart.symm).symm⟩

end Taskboard
