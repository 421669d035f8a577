/-
Queries of values, in step. A query whose plan has one answer in both states brings the same values,
each of a stored row that meets the conditions (`all_of_same`, `first_of_same`). A query whose
answers differ still goes in step as long as every row of its table can be read: then both runs find
a value or both find out that there is none (`first_of_readable`).
-/
import Taskboard.Proofs.Flow.InStep

namespace Taskboard

/-! ## Reading rows -/

namespace Model

variable {α : Type} {model : Model α} {tables : Tables} {plan : Plan}

/-- A value of a stored row that meets the conditions of a plan. -/
def Found (model : Model α) (tables : Tables) (plan : Plan) (x : α) : Prop :=
  ∃ row ∈ tables.rows plan.schema.table, plan.Meets row ∧ model.decode? (.object row) = some x

/-- Every row of a table stands for a value. -/
def Readable (model : Model α) (tables : Tables) (table : String) : Prop :=
  ∀ row ∈ tables.rows table, ∃ x, model.decode? (.object row) = some x

/-- What asking for the first row of a plan finds out. -/
def FirstFound (model : Model α) (tables : Tables) (plan : Plan) : Option α → Prop
  | some x => model.Found tables plan x
  | none => ∀ row ∈ tables.rows plan.schema.table, ¬ plan.Meets row

theorem mapM_eq_some_iff {β : Type} {f : β → Option α} {rows : List β} {values : List α} :
    rows.mapM f = some values ↔ rows.map f = values.map some := by
  induction rows generalizing values with
  | nil => cases values <;> simp
  | cons row rest ih =>
    rw [List.mapM_cons, List.map_cons]
    constructor
    · intro h
      obtain ⟨x, hx, h⟩ := Option.bind_eq_some_iff.1 h
      obtain ⟨xs, hxs, h⟩ := Option.bind_eq_some_iff.1 h
      cases h
      rw [hx, ih.1 hxs, List.map_cons]
    · intro h
      obtain ⟨x, xs, rfl, hx, hxs⟩ := List.map_eq_cons_iff.1 h.symm
      rw [← hx, ih.2 hxs.symm]
      rfl

/-- Reading rows gives their values in order. -/
theorem decodeAll_eq_ok_iff {rows : List Json} {values : List α} :
    model.decodeAll rows = .ok values ↔ rows.map model.decode? = values.map some := by
  rw [← mapM_eq_some_iff, decodeAll]
  split
  · rename_i h; rw [h]; simp
  · rename_i h; rw [h]; simp

theorem found_of_decodeAll {values : List α}
    (h : model.decodeAll ((tables.answer plan).map .object) = .ok values) {x : α} (hx : x ∈ values) :
    model.Found tables plan x := by
  have hmem : some x ∈ ((tables.answer plan).map Json.object).map model.decode? := by
    rw [decodeAll_eq_ok_iff.1 h]
    exact List.mem_map_of_mem hx
  rw [List.map_map] at hmem
  obtain ⟨row, hrow, hdecode⟩ := List.mem_map.1 hmem
  obtain ⟨hstored, hholds⟩ := Tables.mem_of_mem_answer hrow
  exact ⟨row, hstored, hholds, hdecode⟩

theorem firstFound_of_decodeAll (hoffset : plan.offset? = none) {values : List α}
    (h : model.decodeAll ((tables.answer (plan.take 1)).map .object) = .ok values) :
    model.FirstFound tables plan values.head? := by
  rcases values with _ | ⟨x, rest⟩
  · have hnil := decodeAll_eq_ok_iff.1 h
    rw [List.map_nil, List.map_map, List.map_eq_nil_iff] at hnil
    exact fun row hrow => Tables.not_meets_of_answer_take_one hoffset hnil hrow
  · exact found_of_decodeAll h (List.mem_cons_self ..)

/-- Rows that can be read stand for values, in their order. -/
theorem exists_values (model : Model α) {rows : List Record}
    (h : ∀ row ∈ rows, ∃ x, model.decode? (.object row) = some x) :
    ∃ values : List α, (rows.map Json.object).map model.decode? = values.map some := by
  induction rows with
  | nil => exact ⟨[], rfl⟩
  | cons row rest ih =>
    obtain ⟨x, hx⟩ := h row (List.mem_cons_self ..)
    obtain ⟨xs, hxs⟩ := ih fun other hother => h other (List.mem_cons_of_mem _ hother)
    exact ⟨x :: xs, by rw [List.map_cons, List.map_cons, List.map_cons, hx, hxs]⟩

theorem decodeAll_of_readable (h : model.Readable tables plan.schema.table) :
    ∃ values, model.decodeAll ((tables.answer plan).map .object) = .ok values := by
  obtain ⟨values, hvalues⟩ := model.exists_values fun row (hrow : row ∈ tables.answer plan) =>
    h row (Tables.mem_of_mem_answer hrow).1
  exact ⟨values, decodeAll_eq_ok_iff.2 hvalues⟩

end Model

theorem Flow.sendAll_ok (writes : List Write) : Flow.sendAll (writes.map .ok) = .batch writes .done := by
  have hall : (writes.map (Except.ok (ε := StorageError))).mapM id = .ok writes := by
    induction writes with
    | nil => rfl
    | cons write rest ih =>
      rw [List.map_cons, List.mapM_cons, ih]
      rfl
  unfold Flow.sendAll
  rw [hall]

namespace Flow.InStep

variable {α : Type} {model : Model α} {plan : Plan} {s t : Tables} {drawn : Nat → List UInt8 → Prop}

/-! ## Queries with one answer -/

theorem ask {whenEmpty : α} {f g : Flow QueryError α} {seen : α → α → List Write → Prop}
    (hempty : seen whenEmpty whenEmpty []) (h : InStep drawn s t f g seen) :
    InStep drawn s t (plan.ask whenEmpty f) (plan.ask whenEmpty g) seen := by
  unfold Plan.ask
  split
  · exact fail _
  · split
    · exact value hempty
    · exact h

/-- A plan with one answer in both states brings the same values. -/
theorem all_of_same (h : s.answer plan = t.answer plan) :
    InStep drawn s t (model.all plan) (model.all plan) fun xs ys writes => writes = [] ∧
      xs = ys ∧ ∀ x ∈ xs, model.Found s plan x ∧ model.Found t plan x := by
  refine ask ⟨rfl, rfl, fun _ hx => by cases hx⟩ (select (fun e => fail _) ?_)
  rw [h]
  rcases hdecode : model.decodeAll ((t.answer plan).map .object) with e | values
  · simp only [Except.bind, hdecode, Except.mapError]
    exact fail _
  · simp only [Except.bind, hdecode, Except.mapError]
    refine value ⟨rfl, rfl, fun x hx => ⟨?_, Model.found_of_decodeAll hdecode hx⟩⟩
    rw [← h] at hdecode
    exact Model.found_of_decodeAll hdecode hx

theorem first_of_same (h : s.answer (plan.take 1) = t.answer (plan.take 1)) :
    InStep drawn s t (model.first plan) (model.first plan) fun x? y? writes => writes = [] ∧
      x? = y? ∧ ∀ x, x? = some x → model.Found s plan x ∧ model.Found t plan x := by
  refine bind (all_of_same h) fun xs ys hxs => value ⟨rfl, by rw [hxs.1], fun x hx => ?_⟩
  exact hxs.2 x (List.mem_of_mem_head? hx)

theorem hasAny_of_same (h : s.answer (plan.take 1) = t.answer (plan.take 1)) :
    InStep drawn s t (model.hasAny plan) (model.hasAny plan) fun x y writes => writes = [] ∧
      x = y ∧ (x = true → ∃ value, model.Found s plan value ∧ model.Found t plan value) := by
  refine bind (first_of_same h) fun x? y? hx => value ⟨rfl, by rw [hx.1], fun hsome => ?_⟩
  obtain ⟨x, hx?⟩ := Option.isSome_iff_exists.1 hsome
  exact ⟨x, hx.2 x hx?⟩

/-! ## What a query finds out -/

theorem all_decoded (hvacuous : plan.isVacuous = false) :
    InStep drawn s s (model.all plan) (model.all plan) fun xs ys writes => writes = [] ∧
      xs = ys ∧ model.decodeAll ((s.answer plan).map .object) = .ok xs := by
  unfold Model.all Plan.ask
  split
  · exact fail _
  · rw [hvacuous]
    refine select (fun e => fail _) ?_
    rcases hdecode : model.decodeAll ((s.answer plan).map .object) with e | values
    · simp only [Except.bind, hdecode, Except.mapError]
      exact fail _
    · simp only [Except.bind, hdecode, Except.mapError]
      exact value ⟨rfl, rfl, rfl⟩

/-- A first row is of the table and meets the plan, and where there is none no row of the table does. -/
theorem first_decided (hvacuous : plan.isVacuous = false) (hoffset : plan.offset? = none) :
    InStep drawn s s (model.first plan) (model.first plan) fun x? y? writes => writes = [] ∧
      x? = y? ∧ model.FirstFound s plan x? := by
  have hvacuous' : (plan.take 1).isVacuous = false := hvacuous
  refine bindSame (all_decoded hvacuous') fun values hvalues => ?_
  exact value ⟨rfl, rfl, Model.firstFound_of_decodeAll hoffset hvalues⟩

theorem hasAny_decided (hvacuous : plan.isVacuous = false) (hoffset : plan.offset? = none) :
    InStep drawn s s (model.hasAny plan) (model.hasAny plan) fun x y writes => writes = [] ∧
      x = y ∧ (x = true ↔ ∃ row ∈ s.rows plan.schema.table, plan.Meets row) := by
  refine bindSame (first_decided hvacuous hoffset) fun x? hfound => value ⟨rfl, rfl, ?_⟩
  rcases x? with _ | x
  · simpa [Model.FirstFound] using hfound
  · obtain ⟨row, hrow, hmeets, -⟩ := hfound
    simpa using ⟨row, hrow, hmeets⟩

/-! ## Queries with two answers -/

theorem all_of_readable (hs : model.Readable s plan.schema.table) (ht : model.Readable t plan.schema.table)
    (hvalid : plan.validate = .ok ()) (hvacuous : plan.isVacuous = false) :
    InStep drawn s t (model.all plan) (model.all plan) fun xs ys writes => writes = [] ∧
      model.decodeAll ((s.answer plan).map .object) = .ok xs ∧
      model.decodeAll ((t.answer plan).map .object) = .ok ys := by
  obtain ⟨xs, hxs⟩ := Model.decodeAll_of_readable hs
  obtain ⟨ys, hys⟩ := Model.decodeAll_of_readable ht
  unfold Model.all Plan.ask
  rw [hvalid, hvacuous]
  refine select (fun e => fail _) ?_
  simp only [Except.bind, hxs, hys, Except.mapError]
  exact value ⟨rfl, rfl, rfl⟩

/-- Where every row can be read, a query for a first row finds a value in both states or in neither,
as long as one state has a row for it just when the other has. -/
theorem first_of_readable (hs : model.Readable s plan.schema.table) (ht : model.Readable t plan.schema.table)
    (hvalid : (plan.take 1).validate = .ok ()) (hvacuous : plan.isVacuous = false)
    (hoffset : plan.offset? = none)
    (hboth : (∃ row ∈ s.rows plan.schema.table, plan.Meets row) ↔
      ∃ row ∈ t.rows plan.schema.table, plan.Meets row) :
    InStep drawn s t (model.first plan) (model.first plan) fun x? y? writes => writes = [] ∧
      ((x? = none ∧ y? = none) ∨
        ∃ x y, x? = some x ∧ y? = some y ∧ model.Found s plan x ∧ model.Found t plan y) := by
  refine bind (@all_of_readable α model (plan.take 1) s t drawn hs ht hvalid hvacuous) fun xs ys h =>
    value ⟨rfl, ?_⟩
  have hx : model.FirstFound s plan xs.head? := Model.firstFound_of_decodeAll hoffset h.1
  have hy : model.FirstFound t plan ys.head? := Model.firstFound_of_decodeAll hoffset h.2
  generalize xs.head? = x? at hx ⊢
  generalize ys.head? = y? at hy ⊢
  -- A value in one state alone would come of a row that meets the plan there, while none does here.
  rcases x? with _ | x <;> rcases y? with _ | y
  · exact .inl ⟨rfl, rfl⟩
  · obtain ⟨row, hrow, hmeets, -⟩ := hy
    obtain ⟨row', hrow', hmeets'⟩ := hboth.2 ⟨row, hrow, hmeets⟩
    exact absurd hmeets' (hx row' hrow')
  · obtain ⟨row, hrow, hmeets, -⟩ := hx
    obtain ⟨row', hrow', hmeets'⟩ := hboth.1 ⟨row, hrow, hmeets⟩
    exact absurd hmeets' (hy row' hrow')
  · exact .inr ⟨x, y, rfl, rfl, hx, hy⟩

/-! ## Writes -/

theorem send {kind : WriteKind} {x : α} {row : Record} (h : model.encode x = .object row) :
    InStep drawn s t (model.send kind x) (model.send kind x) fun _ _ writes =>
      writes = [⟨kind, model.schema, row⟩] := by
  unfold Model.send
  rw [h]
  exact write _

theorem sendAll (writes : List Write) :
    InStep drawn s t (Flow.sendAll (writes.map .ok)) (Flow.sendAll (writes.map .ok)) fun _ _ carried =>
      carried = writes := by
  rw [Flow.sendAll_ok]
  exact batch writes

end Flow.InStep

/-! ## Queries without a failure -/

/-- The tables with some round trips more in their log. -/
def Tables.noting (tables : Tables) (trips : List Call) : Tables :=
  { tables with calls := tables.calls ++ trips }

theorem Tables.noting_nil (tables : Tables) : tables.noting [] = tables := by
  rw [noting, List.append_nil]

theorem Tables.noting_noting (tables : Tables) (trips more : List Call) :
    (tables.noting trips).noting more = tables.noting (trips ++ more) := by
  rw [noting, noting, noting, List.append_assoc]

/-- The round trip for the rows of a plan. -/
def Plan.trip (plan : Plan) : Call :=
  ⟨.select, plan.schema.table, plan.selectStatement.text⟩

section Quiet

variable {α : Type} {model : Model α} {plan : Plan} {tables : Tables} (hquiet : tables.fault? = none)
include hquiet

theorem Tables.log_of_quiet (call : Call) : tables.log call = (.ok (), tables.noting [call]) := by
  unfold Tables.log
  split
  · rfl
  · rename_i hfault
    rw [hquiet] at hfault
    cases hfault

theorem Tables.select_of_quiet :
    Tables.select plan tables = (.ok ((tables.answer plan).map .object), tables.noting [plan.trip]) := by
  unfold Tables.select
  rw [Tables.log_of_quiet hquiet]
  rfl

/-- Where no failure waits, a query whose rows can be read ends with their values, after one round trip. -/
theorem Model.run_all_of_quiet (hvalid : plan.validate = .ok ()) (hvacuous : plan.isVacuous = false) {values : List α}
    (hdecode : model.decodeAll ((tables.answer plan).map .object) = .ok values) (source : Entropy) :
    (model.all plan).run Tables.store tables source = (.ok values, tables.noting [plan.trip], source) := by
  unfold Model.all Plan.ask
  rw [hvalid, hvacuous]
  simp only [Bool.false_eq_true, if_false, Flow.run, Tables.store, Tables.select_of_quiet hquiet, Except.bind,
    hdecode, Except.mapError]

theorem Model.run_first_of_quiet (hvalid : (plan.take 1).validate = .ok ()) (hvacuous : plan.isVacuous = false)
    {values : List α} (hdecode : model.decodeAll ((tables.answer (plan.take 1)).map .object) = .ok values)
    (source : Entropy) : (model.first plan).run Tables.store tables source =
      (.ok values.head?, tables.noting [(plan.take 1).trip], source) := by
  unfold Model.first
  rw [Flow.run_bind, Model.run_all_of_quiet hquiet hvalid hvacuous hdecode source]
  rfl

/-- Where moreover every row can be read, asking for a first row finds out whether there is one. -/
theorem Model.run_first_of_readable (hreadable : model.Readable tables plan.schema.table)
    (hvalid : (plan.take 1).validate = .ok ()) (hvacuous : plan.isVacuous = false) (hoffset : plan.offset? = none)
    (source : Entropy) : ∃ x?, model.FirstFound tables plan x? ∧ (model.first plan).run Tables.store tables source =
      (.ok x?, tables.noting [(plan.take 1).trip], source) := by
  obtain ⟨values, hvalues⟩ := @Model.decodeAll_of_readable _ model tables (plan.take 1) hreadable
  exact ⟨_, Model.firstFound_of_decodeAll hoffset hvalues,
    Model.run_first_of_quiet hquiet hvalid hvacuous hvalues source⟩

end Quiet

end Taskboard
