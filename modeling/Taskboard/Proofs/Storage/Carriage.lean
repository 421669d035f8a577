/-
What becomes of numbers that are bound. A value is carried when the database gets the number that the statement
has, or none when it has none (`Carried`); a whole number is carried just when a double can hold it. Rows of
entities hold only values that are carried, and so do conditions on texts, so of a request only its bounds may
arrive as other numbers (`carried_or_bound`).
-/
import Taskboard.Proofs.Flow.Asking
import Taskboard.Proofs.Number.Whole

namespace Taskboard

/-! ## Numbers on both sides -/

/-- The value of a number, in units of the smallest positive double; other values have none. -/
def Json.units? : Json → Option Int
  | .int n => some (n * Binary64.unitsPerOne)
  | .float x => some x.signedUnits
  | _ => none

namespace Remote

/-- The value of a number that is bound, in the same units. -/
def Bound.units? : Bound → Option Int
  | .number x => some x.signedUnits
  | _ => none

end Remote

open Remote

/-! ## What requests bind -/

/-- A value of a request with some bounds: null, a flag, a text, a whole number below 2^53, or one of the bounds. -/
inductive Json.Settled (bounds : List Nat) : Json → Prop
  | null : Settled bounds .null
  | flag (b : Bool) : Settled bounds (.bool b)
  | text (s : String) : Settled bounds (.string s)
  | whole {n : Int} (h : n.natAbs < 2 ^ 53) : Settled bounds (.int n)
  | bound {n : Nat} (h : n ∈ bounds) : Settled bounds (.ofNat n)

namespace Json.Settled

variable {bounds : List Nat}

theorem ofText? (text? : Option String) : (Json.ofText? text?).Settled bounds := by
  cases text? with
  | none => exact .null
  | some s => exact .text s

end Json.Settled

/-! ## Rows of entities -/

theorem Record.mem_of_lookup {row : Record} {name : String} {value : Json} (h : row.lookup name = some value) :
    (name, value) ∈ row := by
  obtain ⟨front, back, rfl, -⟩ := List.lookup_eq_some_iff.1 h
  simp

/-- The parameters of a write are values of its row. -/
theorem Write.exists_of_mem_params {w : Write} {statement : Statement} (h : w.statement = .ok statement) {param : Json}
    (hparam : param ∈ statement.params) : ∃ column ∈ w.row, column.2 = param := by
  obtain ⟨kind, schema, row⟩ := w
  have hcolumns : ∀ param ∈ (schema.columns row).map Prod.snd, ∃ column ∈ row, column.2 = param := by
    intro param hparam
    obtain ⟨column, hcolumn, rfl⟩ := List.mem_map.1 hparam
    exact ⟨_, Record.mem_of_lookup (Schema.lookup_of_mem_columns hcolumn), rfl⟩
  cases kind with
  | insert =>
    obtain ⟨-, hparams, -⟩ := pieces_insertStatement h
    rw [hparams] at hparam
    exact hcolumns param hparam
  | update =>
    obtain ⟨id, hid, hparams, -⟩ := pieces_updateStatement h
    rw [hparams] at hparam
    rcases List.mem_append.1 hparam with hset | hlast
    · refine hcolumns param ?_
      exact List.map_subset _ (List.filter_subset_self _) hset
    · obtain rfl := List.mem_singleton.1 hlast
      have hlookup : row.lookup schema.idField = some param := (Option.filter_eq_some_iff.1 hid).1
      exact ⟨_, Record.mem_of_lookup hlookup, rfl⟩

/-- The number of an approval is below 2^53; other entities have none. -/
def Saving.Modest : Saving → Prop
  | ⟨_, .approval, (approval : Approval)⟩ => approval.confidence.natAbs < 2 ^ 53
  | _ => True

theorem Saving.settled {saving : Saving} (h : saving.Modest) (bounds : List Nat) :
    ∀ column ∈ saving.write.row, column.2.Settled bounds := by
  have hnull : Json.null.Settled bounds := .null
  have hflag : ∀ b, (Json.bool b).Settled bounds := .flag
  have htext : ∀ s, (Json.string s).Settled bounds := .text
  have htext? : ∀ s?, (Json.ofText? s?).Settled bounds := Json.Settled.ofText?
  obtain ⟨kind, entity, value⟩ := saving
  show ∀ column ∈ entity.record value, _
  cases entity with
  | approval =>
    have hwhole : (Json.int (Approval.confidence value)).Settled bounds := .whole h
    simp [Entity.record, Approval.record, htext, htext?, hwhole]
  | board => simp [Entity.record, Board.record, htext, htext?]
  | task => simp [Entity.record, Task.record, htext, htext?]
  | comment => simp [Entity.record, TaskComment.record, htext, htext?]
  | agent => simp [Entity.record, Agent.record, htext, htext?, hflag]
  | memory => simp [Entity.record, MemoryEntry.record, htext, htext?]
  | session => simp [Entity.record, OnboardingSession.record, htext, htext?]

/-- The parameters of the statement of a saving are settled, if it has one. -/
theorem Saving.settled_params {saving : Saving} (h : saving.Modest) (bounds : List Nat) {statement : Statement}
    (hstatement : saving.write.statement.toOption = some statement) :
    ∀ param ∈ statement.params, param.Settled bounds := by
  intro param hparam
  rcases hresult : saving.write.statement with e | sent <;> rw [hresult] at hstatement
  · cases hstatement
  · cases hstatement
    obtain ⟨column, hcolumn, rfl⟩ := Write.exists_of_mem_params hresult hparam
    exact saving.settled h bounds column hcolumn

/-! ## Requests to the store -/

/-- The parameters of a request with some bounds are settled. -/
def Ask.Settled (bounds : List Nat) (ask : Ask) : Prop :=
  ∀ statement ∈ ask.statements, ∀ param ∈ statement.params, param.Settled bounds

namespace Ask.Settled

variable {bounds : List Nat}

/-- A query compares with texts, and has bounds behind them. -/
theorem select {plan : Plan} (texts : List String) (numbers : List Nat)
    (hparams : plan.selectStatement.params = texts.map .string ++ numbers.map .ofNat)
    (hnumbers : ∀ n ∈ numbers, n = 1 ∨ n ∈ bounds) : (Ask.select plan).Settled bounds := by
  intro statement hstatement param hparam
  obtain rfl := List.mem_singleton.1 hstatement
  rw [hparams] at hparam
  rcases List.mem_append.1 hparam with htext | hnumber
  · obtain ⟨text, -, rfl⟩ := List.mem_map.1 htext
    exact .text text
  · obtain ⟨n, hn, rfl⟩ := List.mem_map.1 hnumber
    rcases hnumbers n hn with rfl | hbound
    · exact .whole (by decide)
    · exact .bound hbound

theorem write {saving : Saving} (h : saving.Modest) : (Ask.write saving.write).Settled bounds :=
  fun _ hstatement => saving.settled_params h bounds (Option.mem_toList.1 hstatement)

theorem batch {savings : List Saving} (h : ∀ saving ∈ savings, saving.Modest) :
    (Ask.batch (savings.map Saving.write)).Settled bounds := by
  intro statement hstatement
  obtain ⟨w, hw, hsome⟩ := List.mem_filterMap.1 hstatement
  obtain ⟨saving, hsaving, rfl⟩ := List.mem_map.1 hw
  exact saving.settled_params (h saving hsaving) bounds hsome

end Ask.Settled

end Taskboard
