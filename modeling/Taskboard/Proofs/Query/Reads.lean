/-
Reading by a chain of builders, in the four ways there are, from either kind of store. A read for a
column that is not declared is refused without a round trip, and any other sends at most one text
(`texts_run`). That text is made of fixed words, placeholders and declared names, and it goes by the
form of the plan, so no value is part of it (`injection_free`).
-/
import Taskboard.Proofs.Query.Forms
import Taskboard.Proofs.Flow.Run
import Taskboard.Proofs.Sql.Names
import Taskboard.Storage.Model
import Taskboard.Storage.Remote
import Taskboard.Storage.Tables
import Taskboard.Task

namespace Taskboard

open Sql

/-! ## Stores and the texts they are sent -/

/-- The kinds of stores: tables in memory, and a database reached by prepared statements. -/
inductive Backend where
  | tables
  | remote

namespace Backend

/-- What a store of a kind keeps. -/
def State : Backend → Type
  | .tables => Tables
  | .remote => Remote

/-- How a store of a kind answers. -/
def store : (backend : Backend) → Flow.Store backend.State
  | .tables => Tables.store
  | .remote => Remote.store

/-- The texts of the statements that a store was sent, the first first. -/
def texts : (backend : Backend) → backend.State → List String
  | .tables, (state : Tables) => state.calls.map Call.text
  | .remote, (state : Remote) => state.trips.flatMap fun trip => trip.statements.map Remote.Prepared.text

/-- Whether the next statement is sent: not when its parameters cannot be bound. -/
def sends : (backend : Backend) → backend.State → Bool
  | .tables, _ => true
  | .remote, (state : Remote) => state.bindFault?.isNone

theorem calls_log (state : Tables) (call : Call) : (state.log call).2.calls = state.calls ++ [call] := by
  unfold Tables.log
  split
  · rfl
  · split <;> rfl

theorem texts_send (state : Remote) (method : Remote.Method) (statement : Statement) :
    texts .remote (state.send method statement).2 =
      texts .remote state ++ if sends .remote state then [statement.text] else [] := by
  unfold Remote.send Remote.prepare
  cases hfault : state.bindFault? with
  | some text => simp [texts, sends, hfault]
  | none =>
    simp only [Remote.trip]
    cases state.replies.head? with
    | none => simp [texts, sends, hfault]
    | some reply => cases reply <;> simp [texts, sends, hfault]

variable (backend : Backend) (plan : Plan) (state : backend.State)

theorem texts_select : backend.texts (backend.store.select plan state).2 =
    backend.texts state ++ if backend.sends state then [plan.selectStatement.text] else [] := by
  cases backend with
  | tables =>
    have hlog := calls_log state ⟨.select, plan.schema.table, plan.selectStatement.text⟩
    simp only [store, Tables.store, Tables.select]
    split <;> simp_all [texts, sends]
  | remote => exact texts_send state .all plan.selectStatement

theorem texts_count : backend.texts (backend.store.count plan state).2 =
    backend.texts state ++ if backend.sends state then [plan.countStatement.text] else [] := by
  cases backend with
  | tables =>
    have hlog := calls_log state ⟨.count, plan.schema.table, plan.countStatement.text⟩
    simp only [store, Tables.store, Tables.count]
    split <;> simp_all [texts, sends]
  | remote =>
    have hsend := texts_send state .first plan.countStatement
    simp only [store, Remote.store, Remote.count]
    split <;> simp_all

end Backend

/-! ## Ways to read -/

/-- The ways to read what a plan asks for. -/
inductive Way where
  | all
  | first
  | count
  | any

namespace Way

/-- What reading gives. -/
def Answer (α : Type) : Way → Type
  | .all => List α
  | .first => Option α
  | .count => Nat
  | .any => Bool

/-- Reads what a plan asks for. -/
def flow {α : Type} (model : Model α) (plan : Plan) : (way : Way) → Flow QueryError (way.Answer α)
  | .all => model.all plan
  | .first => model.first plan
  | .count => plan.count
  | .any => model.hasAny plan

/-- The statement that reading sends, if it sends any. -/
def statement (plan : Plan) : Way → Statement
  | .all => plan.selectStatement
  | .first | .any => (plan.take 1).selectStatement
  | .count => plan.countStatement

/-- Plans of one form are read by one text. -/
theorem text_statement_of_form {p q : Plan} (h : p.form = q.form) (way : Way) :
    (way.statement p).text = (way.statement q).text := by
  have hselect : ∀ {p q : Plan}, p.form = q.form → p.selectStatement.text = q.selectStatement.text := by
    intro p q h
    rw [← p.text_selectStatement_form, h, q.text_selectStatement_form]
  cases way with
  | all => exact hselect h
  | first | any => exact hselect (Plan.form_take h 1 1)
  | count => exact p.text_countStatement_form ▸ h ▸ q.text_countStatement_form

theorem madeOf_statement (plan : Plan) (way : Way) :
    MadeOf (plan.schema.table :: plan.fields) (way.statement plan).text := by
  cases way with
  | all => exact plan.madeOf_selectStatement
  | first | any => exact (plan.take 1).madeOf_selectStatement
  | count => exact plan.madeOf_countStatement

end Way

/-! ## Runs of reads -/

/-- Whether reading a plan asks a store: its columns are declared, and a row may meet its conditions. -/
def Plan.asks (plan : Plan) : Bool :=
  plan.validate.isOk && !plan.isVacuous

/-- Plans of one form are asked alike. -/
theorem Plan.asks_of_form {p q : Plan} (h : p.form = q.form) : p.asks = q.asks := by
  unfold asks
  rw [← p.validate_form, ← p.isVacuous_form, h, q.validate_form, q.isVacuous_form]

section Runs

variable {α σ : Type} {model : Model α} {plan : Plan} (store : Flow.Store σ) (state : σ) (source : Entropy)

theorem run_first : (model.first plan).run store state source =
    (((model.all (plan.take 1)).run store state source).1.map List.head?,
      ((model.all (plan.take 1)).run store state source).2) :=
  Flow.run_return store List.head? (model.all (plan.take 1)) state source

theorem run_hasAny : (model.hasAny plan).run store state source =
    (((model.first plan).run store state source).1.map Option.isSome,
      ((model.first plan).run store state source).2) :=
  Flow.run_return store Option.isSome (model.first plan) state source

theorem run_ask_of_undeclared {whenEmpty : α} {request : Flow QueryError α} {e : UnknownField}
    (h : plan.validate = .error e) :
    (plan.ask whenEmpty request).run store state source = (.error (.unknownField e), state, source) := by
  unfold Plan.ask
  rw [h]
  rfl

/-- A read of columns that are not all declared is refused, and touches nothing. -/
theorem run_of_undeclared (way : Way) {e : UnknownField} (h : plan.validate = .error e) :
    (way.flow model plan).run store state source = (.error (.unknownField e), state, source) := by
  have hfirst : (model.first plan).run store state source = (.error (.unknownField e), state, source) := by
    have hvalidate : (plan.take 1).validate = .error e := h
    rw [run_first, Model.all, run_ask_of_undeclared store state source hvalidate]
    rfl
  cases way with
  | all => exact run_ask_of_undeclared store state source h
  | first => exact hfirst
  | count => exact run_ask_of_undeclared store state source h
  | any =>
    refine (run_hasAny store state source).trans ?_
    rw [hfirst]
    rfl

theorem state_run_ask {whenEmpty : α} {request : Flow QueryError α} :
    ((plan.ask whenEmpty request).run store state source).2.1 =
      if plan.asks then (request.run store state source).2.1 else state := by
  unfold Plan.ask Plan.asks
  cases plan.validate with
  | error e => rfl
  | ok => cases plan.isVacuous <;> rfl

end Runs

/-- A read sends one text, unless the plan is not asked or its parameters cannot be bound. -/
theorem texts_run {α : Type} (model : Model α) (plan : Plan) (backend : Backend) (way : Way)
    (state : backend.State) (source : Entropy) :
    backend.texts ((way.flow model plan).run backend.store state source).2.1 =
      backend.texts state ++
        if plan.asks && backend.sends state then [(way.statement plan).text] else [] := by
  have hall : ∀ plan : Plan, backend.texts ((model.all plan).run backend.store state source).2.1 =
      backend.texts state ++ if plan.asks && backend.sends state then [plan.selectStatement.text] else [] := by
    intro plan
    rw [Model.all, state_run_ask]
    cases plan.asks with
    | false => exact (List.append_nil _).symm
    | true => exact backend.texts_select plan state
  have hfirst : backend.texts ((model.first plan).run backend.store state source).2.1 = backend.texts state ++
      if plan.asks && backend.sends state then [(plan.take 1).selectStatement.text] else [] := by
    rw [run_first]
    exact hall (plan.take 1)
  cases way with
  | all => exact hall plan
  | first => exact hfirst
  | count =>
    show backend.texts (plan.count.run backend.store state source).2.1 = _
    rw [Plan.count, state_run_ask]
    cases plan.asks with
    | false => exact (List.append_nil _).symm
    | true => exact backend.texts_count plan state
  | any =>
    show backend.texts ((model.hasAny plan).run backend.store state source).2.1 = _
    rw [run_hasAny]
    exact hfirst

/-! ## Chains -/

namespace Chain

/-- Whatever a chain of builders is given, a read for a column that is not declared names the first such
column and makes no round trip, and any other sends only texts made of fixed words, placeholders, the
name of the table and its declared columns. Other values and bounds leave every text as it is, as long
as null stands for null alone and lists keep their length. -/
theorem injection_free {α : Type} (model : Model α) (chain : Chain) {plan : Plan}
    (hplan : chain.plan? model.schema = .ok plan) :
    (∀ field, chain.Mentions model.schema field → field ∉ model.schema.fields →
      ∃ first, model.schema.firstUndeclared? (chain.fields model.schema) = some first ∧
        ∀ (way : Way) {σ : Type} (store : Flow.Store σ) (state : σ) (source : Entropy),
          (way.flow model plan).run store state source =
            (.error (.unknownField ⟨model.schema.table, first⟩), state, source)) ∧
    ((∀ field, chain.Mentions model.schema field → field ∈ model.schema.fields) →
      ∀ (way : Way) (backend : Backend) (state : backend.State) (source : Entropy), ∃ sent,
        backend.texts ((way.flow model plan).run backend.store state source).2.1 = backend.texts state ++ sent ∧
          ∀ text ∈ sent, MadeOf (model.schema.table :: model.schema.fields) text) ∧
    ∀ other : Chain, chain.Revalued other → ∃ plan', other.plan? model.schema = .ok plan' ∧
      ∀ (way : Way) (backend : Backend) (state : backend.State) (source : Entropy),
        backend.texts ((way.flow model plan).run backend.store state source).2.1 =
          backend.texts ((way.flow model plan').run backend.store state source).2.1 := by
  obtain ⟨-, rfl⟩ := plan?_eq_ok_iff.1 hplan
  have hvalidate := model.schema.resolveAll_eq (chain.fields model.schema)
  refine ⟨fun field hmentions hundeclared => ?_, fun hdeclared way backend state source => ?_,
    fun other hother => ?_⟩
  · cases hfirst : model.schema.firstUndeclared? (chain.fields model.schema) with
    | none =>
      exact absurd (Schema.firstUndeclared?_eq_none_iff.1 hfirst field (mem_fields_iff.2 hmentions)) hundeclared
    | some first =>
      rw [hfirst, ← fields_plan] at hvalidate
      exact ⟨first, rfl, fun way _ store state source => run_of_undeclared store state source way hvalidate⟩
  · refine ⟨_, texts_run model (chain.plan model.schema) backend way state source, fun text htext => ?_⟩
    have hnames : model.schema.table :: (chain.plan model.schema).fields ⊆
        model.schema.table :: model.schema.fields := by
      refine List.cons_subset_cons _ fun field hfield => hdeclared field (mem_fields_iff.1 ?_)
      rwa [← fields_plan]
    split at htext
    · obtain rfl := List.mem_singleton.1 htext
      exact (way.madeOf_statement _).mono hnames
    · cases htext
  · obtain ⟨plan', hplan', hsame⟩ := hother.plan? hplan
    refine ⟨plan', hplan', fun way backend state source => ?_⟩
    rw [texts_run, texts_run, Plan.asks_of_form hsame, Way.text_statement_of_form hsame]

/-- The tasks of a board that have a status or nothing in some column. -/
def tasksWith (status column : String) (n : Nat) : Chain where
  start := .withValues [("board_id", .string "b1")]
  steps := [.filter ((Predicate.is "status" (.string status)).or (.missing column)),
    .sortBy "created_at" .descending, .take n]

theorem injection_free_tasksWith :
    (Way.count.flow Task.model ((tasksWith "inbox" "1 = 1; --" 5).plan Task.schema)).run Tables.store Tables.empty
        Entropy.counting = (.error (.unknownField ⟨"tasks", "1 = 1; --"⟩), Tables.empty, Entropy.counting) ∧
    ((Way.first.flow Task.model ((tasksWith "x' OR '1' = '1" "assigned_agent_id" 7).plan Task.schema)).run Tables.store
      Tables.empty Entropy.counting).2.1.calls.map Call.text =
        ["SELECT * FROM tasks WHERE board_id = ?1 AND (status = ?2 OR assigned_agent_id IS NULL) " ++
          "ORDER BY created_at DESC LIMIT ?3"] := by
  constructor
  · obtain ⟨hrefused, -, -⟩ := injection_free Task.model (tasksWith "inbox" "1 = 1; --" 5) rfl
    obtain ⟨first, hfirst, hrun⟩ := hrefused "1 = 1; --" (mem_fields_iff.1 (by decide +kernel)) (by decide +kernel)
    obtain rfl : "1 = 1; --" = first := Option.some.inj hfirst
    exact hrun .count Tables.store Tables.empty Entropy.counting
  · obtain ⟨-, -, hrevalued⟩ := injection_free Task.model (tasksWith "inbox" "assigned_agent_id" 5) rfl
    obtain ⟨plan', hplan', htexts⟩ := hrevalued (tasksWith "x' OR '1' = '1" "assigned_agent_id" 7)
      ⟨.refl _, .cons (.filter (.or (.is "status" rfl) (.refl _))) (.cons (.sortBy ..) (.cons (.take 5 7) .nil))⟩
    obtain rfl := (plan?_eq_ok_iff.1 hplan').2
    refine (htexts .first .tables Tables.empty Entropy.counting).symm.trans ?_
    decide +kernel

end Chain

end Taskboard
