/-
The first row of a plan. Asking for it puts a limit of one in the place of any limit there was, and as long as
that one lets a row through, the answer is the beginning of the whole answer (`answer_take_one`). So the first
row is the first of all rows, and there is a row when there is a first one (`first_of_all`). A limit of zero
lets none through, and is the one that does not last (`first_beyond_limit`).
-/
import Taskboard.Proofs.Query.Conjunction
import Taskboard.Proofs.Storage.Entities

namespace Taskboard

/-! ## Answers with one row -/

namespace Tables

variable {plan : Plan}

theorem bounded_take_one (hlimit : plan.limit? ≠ some 0) (rows : List Record) :
    bounded (plan.take 1) rows = (bounded plan rows).take 1 := by
  unfold bounded Plan.take
  rcases hbound : plan.limit? with _ | limit
  · rfl
  · have hpos : 1 ≤ limit := Nat.one_le_iff_ne_zero.2 fun hzero => hlimit (by rw [hbound, hzero])
    simp only [List.take_take, Nat.min_eq_left hpos]

/-- What one row is asked for is the beginning of the whole answer, unless a limit keeps back every row. -/
theorem answer_take_one (tables : Tables) (hlimit : plan.limit? ≠ some 0) :
    tables.answer (plan.take 1) = (tables.answer plan).take 1 :=
  bounded_take_one hlimit _

end Tables

/-! ## Reading it -/

namespace Model

variable {α : Type} {model : Model α} {tables : Tables} {plan : Plan}

theorem decodeAll_take {rows : List Json} {values : List α} (h : model.decodeAll rows = .ok values) (n : Nat) :
    model.decodeAll (rows.take n) = .ok (values.take n) := by
  rw [decodeAll_eq_ok_iff] at h ⊢
  rw [List.map_take, h, List.map_take]

/-- Where no failure waits, a plan of declared columns whose rows can be read brings their values, asked for or
not. -/
theorem run_all_of_answer (hvalid : plan.validate = .ok ()) (hquiet : tables.fault? = none) {values : List α}
    (hdecode : model.decodeAll ((tables.answer plan).map .object) = .ok values) (source : Entropy) :
    ((model.all plan).run Tables.store tables source).1 = .ok values := by
  cases hvacuous : plan.isVacuous with
  | true =>
    rw [decodeAll_eq_ok_iff, tables.answer_of_isVacuous hvacuous] at hdecode
    rw [Way.all_of_isVacuous hvalid hvacuous, List.map_eq_nil_iff.1 hdecode.symm]
    rfl
  | false => rw [run_all_of_quiet hquiet hvalid hvacuous hdecode source]

/-- What a plan brings where no failure waits and every row can be read: its first row, whatever the way. -/
theorem run_first_of_all (hvalid : plan.validate = .ok ()) (hlimit : plan.limit? ≠ some 0)
    (hquiet : tables.fault? = none) (hreadable : model.Readable tables plan.schema.table) (source : Entropy) :
    ∃ values, ((model.all plan).run Tables.store tables source).1 = .ok values ∧
      ((model.first plan).run Tables.store tables source).1 = .ok values.head? := by
  cases hvacuous : plan.isVacuous with
  | true =>
    refine ⟨[], ?_, ?_⟩
    · rw [Way.all_of_isVacuous hvalid hvacuous]
      rfl
    · show ((Way.first.flow model plan).run Tables.store tables source).1 = _
      rw [Way.flow_of_isVacuous hvalid .first hvacuous]
      rfl
  | false =>
    obtain ⟨values, hvalues⟩ := Model.decodeAll_of_readable hreadable
    have hone : model.decodeAll ((tables.answer (plan.take 1)).map .object) = .ok (values.take 1) := by
      rw [tables.answer_take_one hlimit, List.map_take]
      exact decodeAll_take hvalues 1
    refine ⟨values, ?_, ?_⟩
    · rw [run_all_of_quiet hquiet hvalid hvacuous hvalues source]
    · rw [run_first_of_quiet hquiet hvalid hvacuous hone source, List.head?_take]
      rfl

end Model

/-- Whatever chain of builders a plan comes of, as long as its columns are declared and its limit is not zero:
where no failure waits and every row of the table can be read, the first row is the first of all rows, none when
there is none at all, and there is a row just when all of them are not none. -/
theorem first_of_all {α : Type} (model : Model α) (chain : Chain) {plan : Plan}
    (hplan : chain.plan? model.schema = .ok plan)
    (hdeclared : ∀ field, chain.Mentions model.schema field → field ∈ model.schema.fields)
    (hlimit : plan.limit? ≠ some 0) {tables : Tables} (hquiet : tables.fault? = none)
    (hreadable : model.Readable tables model.schema.table) (source : Entropy) :
    ∃ values, ((model.all plan).run Tables.store tables source).1 = .ok values ∧
      ((model.first plan).run Tables.store tables source).1 = .ok values.head? ∧
      ((model.hasAny plan).run Tables.store tables source).1 = .ok !values.isEmpty := by
  obtain ⟨-, rfl⟩ := Chain.plan?_eq_ok_iff.1 hplan
  obtain ⟨values, hall, hfirst⟩ := Model.run_first_of_all (Chain.validate_of_mentions hdeclared) hlimit hquiet
    hreadable source
  refine ⟨values, hall, hfirst, ?_⟩
  rw [run_hasAny, hfirst]
  cases values <;> rfl

theorem readable_chores : Task.model.Readable chores Task.schema.table := by
  intro row hrow
  rcases List.mem_pair.1 (show row ∈ [_, _] from hrow) with rfl | rfl
  · exact ⟨_, Task.ofRecord?_record sweeping⟩
  · exact ⟨_, Task.ofRecord?_record { sweeping with id := "t2", status := .done }⟩

/-- The tasks in the inbox from the newest on, up to a limit. -/
def newestIn (limit : Nat) : Chain where
  start := .withValues [("status", .string "inbox")]
  steps := [.sortBy "created_at" .descending, .take limit, .drop 0]

theorem newestIn_declared (limit : Nat) (field : String) (h : (newestIn limit).Mentions Task.schema field) :
    field ∈ Task.schema.fields := by
  have hmem : field ∈ ["status", "created_at"] := Chain.mem_fields_iff.2 h
  exact (by decide +kernel : ["status", "created_at"] ⊆ Task.schema.fields) hmem

theorem first_of_all_newestIn : chores.fault? = none ∧ Task.model.Readable chores Task.schema.table ∧
    ∃ plan, (newestIn 18446744073709551615).plan? Task.schema = .ok plan ∧ plan.limit? ≠ some 0 ∧
      ((Task.model.first plan).run Tables.store chores Entropy.counting).1 = .ok (some sweeping) ∧
      ((Task.model.hasAny plan).run Tables.store chores Entropy.counting).1 = .ok true := by
  obtain ⟨values, hall, hfirst, hany⟩ := first_of_all Task.model (newestIn 18446744073709551615) rfl
    (newestIn_declared _) (by decide) rfl readable_chores Entropy.counting
  obtain rfl : [sweeping] = values := by
    refine Option.some.inj (Eq.trans ?_ (congrArg Except.toOption hall))
    decide +kernel
  exact ⟨rfl, readable_chores, _, rfl, by decide, hfirst, hany⟩

/-- A limit of zero leaves none of all rows, and a first row all the same. -/
theorem first_beyond_limit : chores.fault? = none ∧ Task.model.Readable chores Task.schema.table ∧
    (∀ field, (newestIn 0).Mentions Task.schema field → field ∈ Task.schema.fields) ∧
    ∃ plan, (newestIn 0).plan? Task.schema = .ok plan ∧
      ((Task.model.all plan).run Tables.store chores Entropy.counting).1.toOption = some [] ∧
      ((Task.model.first plan).run Tables.store chores Entropy.counting).1.toOption = some (some sweeping) ∧
      ((Task.model.hasAny plan).run Tables.store chores Entropy.counting).1.toOption = some true := by
  refine ⟨rfl, readable_chores, newestIn_declared 0, _, rfl, ?_, ?_, ?_⟩ <;> decide +kernel

end Taskboard
