/-
Rows of tables in memory. Conditions that compare with a text speak of the text columns of a row
(`holds_equals_string`), so what a plan answers depends only on the rows that a text column selects
(`answer_eq_of_filter`). Where identifiers are unique, an update changes one row in its place
(`replaceFirst_eq_map`, `replaceFirst_eq_append`), and rows that it does not concern stay as they
are.
-/
import Taskboard.Storage.Tables
import Taskboard.Proofs.Flow.Run
import Mathlib.Data.List.Nodup

namespace Taskboard

/-! ## Texts -/

namespace Json

theorem same_string_iff {value : Json} {s : String} : value.same (.string s) = true ↔ value = .string s := by
  cases value <;> simp [same]

theorem looselyEqual_string_iff {value : Json} {s : String} :
    value.looselyEqual (.string s) = true ↔ value = .string s := by
  cases value <;> simp [looselyEqual, quantity?, number?, same]

end Json

namespace Record

theorem text?_eq_some_iff {row : Record} {name s : String} :
    row.text? name = some s ↔ row.lookup name = some (.string s) := by
  unfold text?
  rcases row.lookup name with _ | value
  · simp
  · cases value <;> simp [Json.text?]

/-- A column that may be missing holds the text that it is read as. -/
theorem text?_of_optionalText? {row : Record} {name : String} {s? : Option String}
    (h : row.optionalText? name = some s?) : row.text? name = s? := by
  unfold optionalText? optional? value? at h
  unfold text?
  rcases hlookup : row.lookup name with _ | value <;> rw [hlookup] at h
  · simpa using h
  · cases value <;> simp_all [Json.isNull, Json.text?, Option.filter]

theorem value?_eq_string_iff {row : Record} {name s : String} :
    row.value? name = some (.string s) ↔ row.text? name = some s := by
  rw [text?_eq_some_iff, value?, Option.filter_eq_some_iff]
  simp [Json.isNull]

theorem text?_congr {row other : Record} {name : String} (h : other.value? name = row.value? name) :
    other.text? name = row.text? name :=
  Option.ext fun s => by rw [← value?_eq_string_iff, h, value?_eq_string_iff]

/-- A column that may be missing has the text that it is read as, and otherwise no value. -/
theorem value?_of_optionalText? {row : Record} {name : String} {s? : Option String}
    (h : row.optionalText? name = some s?) : row.value? name = s?.map .string := by
  unfold optionalText? optional? at h
  rcases hvalue : row.value? name with _ | value <;> rw [hvalue] at h
  · cases h
    rfl
  · obtain ⟨s, hs, rfl⟩ := Option.map_eq_some_iff.1 h
    cases value <;> cases hs
    rfl

end Record

/-! ## Conditions -/

namespace Predicate

theorem holds_equals_string {row : Record} {field s : String} :
    (equals field (.string s)).holds row = true ↔ row.text? field = some s := by
  rw [holds, Option.any_eq_true]
  simp only [Json.looselyEqual_string_iff, exists_eq_right, Record.value?_eq_string_iff]

theorem allHold_iff {row : Record} {parts : List Predicate} :
    allHold row parts = true ↔ ∀ part ∈ parts, part.holds row = true := by
  induction parts with
  | nil => simp [allHold]
  | cons part rest ih => simp [allHold, ih]

end Predicate

/-- A row meets every condition of a plan. -/
def Plan.Meets (plan : Plan) (row : Record) : Prop :=
  ∀ part ∈ plan.predicates, part.holds row = true

namespace Tables

variable {s t : Tables}

/-! ## Identifiers and places -/

/-- Some row of a table has an identifier. -/
def Has (tables : Tables) (table id : String) : Prop :=
  ∃ row ∈ tables.rows table, row.text? "id" = some id

/-- Some row of a table has an identifier and is placed on a board, or on none. -/
def Places (tables : Tables) (table id : String) (board? : Option String) : Prop :=
  ∃ row ∈ tables.rows table, row.text? "id" = some id ∧ row.text? "board_id" = board?

theorem Places.has {tables : Tables} {table id : String} {board? : Option String}
    (h : tables.Places table id board?) : tables.Has table id := by
  obtain ⟨row, hrow, hid, -⟩ := h
  exact ⟨row, hrow, hid⟩

theorem has_iff_places {tables : Tables} {table id : String} :
    tables.Has table id ↔ ∃ board?, tables.Places table id board? := by
  constructor
  · rintro ⟨row, hrow, hid⟩
    exact ⟨_, row, hrow, hid, rfl⟩
  · rintro ⟨board?, h⟩
    exact h.has

/-! ## Answers -/

theorem answer_congr (h : s.rows = t.rows) (plan : Plan) : s.answer plan = t.answer plan := by
  unfold answer rowsMeeting
  rw [h]

theorem mem_sorted {terms : List SortTerm} {rows : List Record} {row : Record} :
    row ∈ sorted terms rows ↔ row ∈ rows :=
  List.mem_mergeSort

theorem mem_of_mem_bounded {plan : Plan} {rows : List Record} {row : Record}
    (h : row ∈ bounded plan rows) : row ∈ rows := by
  unfold bounded at h
  split at h
  · exact List.mem_of_mem_drop (List.mem_of_mem_take h)
  · exact List.mem_of_mem_drop h

/-- An answer holds stored rows that meet every condition of the plan. -/
theorem mem_of_mem_answer {plan : Plan} {row : Record} (h : row ∈ s.answer plan) :
    row ∈ s.rows plan.schema.table ∧ plan.Meets row := by
  have := List.mem_filter.1 (mem_sorted.1 (mem_of_mem_bounded h))
  exact ⟨this.1, Predicate.allHold_iff.1 this.2⟩

/-- A plan without an offset whose first row is asked for answers nothing only when no row meets its
conditions. -/
theorem not_meets_of_answer_take_one {plan : Plan} (hoffset : plan.offset? = none)
    (h : s.answer (plan.take 1) = []) {row : Record} (hrow : row ∈ s.rows plan.schema.table) :
    ¬ plan.Meets row := by
  intro hall
  have hmem : row ∈ sorted plan.sortTerms (s.rowsMeeting plan) :=
    mem_sorted.2 (List.mem_filter.2 ⟨hrow, Predicate.allHold_iff.2 hall⟩)
  have hnil : (sorted plan.sortTerms (s.rowsMeeting plan)).take 1 = [] := by
    simpa [answer, bounded, Plan.take, hoffset, rowsMeeting] using h
  rw [List.take_eq_nil_iff] at hnil
  rcases hnil with hnil | hnil
  · cases hnil
  · rw [hnil] at hmem; cases hmem

/-- When the conditions of a plan select rows by a test, the answer depends only on the rows that
pass the test. -/
theorem answer_eq_of_filter {plan : Plan} (test : Record → Bool)
    (htest : ∀ row, plan.Meets row → test row = true)
    (h : (s.rows plan.schema.table).filter test = (t.rows plan.schema.table).filter test) :
    s.answer plan = t.answer plan := by
  -- Rows that meet the plan pass the test, so to apply the test first takes none of them away.
  have hmeet : ∀ u : Tables, u.rowsMeeting plan =
      ((u.rows plan.schema.table).filter test).filter fun row => Predicate.allHold row plan.predicates := by
    intro u
    rw [List.filter_filter]
    refine List.filter_congr fun row _ => ?_
    rcases hall : Predicate.allHold row plan.predicates with _ | _
    · rfl
    · simp [htest row (Predicate.allHold_iff.1 hall)]
  unfold answer
  rw [hmeet s, hmeet t, h]

/-! ## What tells rows apart -/

section Nodup

variable {α β : Type} {read : α → Option β} {xs front back : List α} {x y : α} {b : β}

/-- Where no two members have in common what is read of them, it is something else before and behind a member. -/
theorem ne_of_nodup_filterMap (h : ((front ++ x :: back).filterMap read).Nodup) (hx : read x = some b) :
    ∀ y ∈ front ++ back, read y ≠ some b := by
  intro y hy hsame
  rw [List.filterMap_append, List.filterMap_cons_some hx, List.nodup_middle, List.nodup_cons,
    ← List.filterMap_append] at h
  exact h.1 (List.mem_filterMap.2 ⟨y, hy, hsame⟩)

/-- Where no two members have in common what is read of them, members that have are one. -/
theorem eq_of_nodup_filterMap (h : (xs.filterMap read).Nodup) (hx : x ∈ xs) (hy : y ∈ xs) (hxb : read x = some b)
    (hyb : read y = some b) : y = x := by
  obtain ⟨front, back, rfl⟩ := List.append_of_mem hx
  have hothers := ne_of_nodup_filterMap h hxb
  rw [List.mem_append, List.mem_cons] at hy
  rcases hy with hfront | rfl | hback
  · exact absurd hyb (hothers y (List.mem_append_left _ hfront))
  · rfl
  · exact absurd hyb (hothers y (List.mem_append_right _ hback))

/-- A member is added of which something is read that is read of no other, or nothing. -/
theorem nodup_filterMap_concat (h : (xs.filterMap read).Nodup)
    (hnew : ∀ b, read x = some b → ∀ y ∈ xs, read y ≠ some b) : ((xs ++ [x]).filterMap read).Nodup := by
  rw [List.filterMap_append]
  rcases hx : read x with _ | b
  · rwa [List.filterMap_cons_none hx, List.filterMap_nil, List.append_nil]
  · rw [List.filterMap_cons_some hx, List.filterMap_nil, ← List.concat_eq_append]
    refine h.concat fun hmem => ?_
    obtain ⟨y, hy, hyb⟩ := List.mem_filterMap.1 hmem
    exact hnew b hx y hy hyb

end Nodup

/-! ## Replacing a row -/

section Replace

variable {field key : String} {row : Record} {rows : List Record}

theorem filterMap_text?_cons {stored : Record} (h : stored.text? field = some key) :
    (stored :: rows).filterMap (·.text? field) = key :: rows.filterMap (·.text? field) :=
  List.filterMap_cons_some h

theorem lookup_any_same_iff {stored : Record} :
    ((stored.lookup field).any fun value => value.same (.string key)) = true ↔ stored.text? field = some key := by
  rw [Option.any_eq_true]
  simp only [Json.same_string_iff, exists_eq_right, Record.text?_eq_some_iff]

theorem map_replace_eq_self (h : ∀ stored ∈ rows, stored.text? field ≠ some key) :
    (rows.map fun stored => if stored.text? field = some key then row else stored) = rows :=
  (List.map_congr_left fun stored hstored => if_neg (h stored hstored)).trans (List.map_id' rows)

/-- Where no two rows have one identifier, the rows before and behind one have others. -/
theorem text?_ne_of_nodup {old : Record} {front back : List Record} (hkey : old.text? field = some key)
    (h : ((front ++ old :: back).filterMap (·.text? field)).Nodup) :
    ∀ other ∈ front ++ back, other.text? field ≠ some key :=
  ne_of_nodup_filterMap h hkey

/-- The first row with an identifier is replaced in its place. -/
theorem replaceFirst_append {old : Record} {front back : List Record}
    (hfront : ∀ stored ∈ front, stored.text? field ≠ some key) (hkey : old.text? field = some key) :
    replaceFirst field (.string key) row (front ++ old :: back) = front ++ row :: back := by
  induction front with
  | nil => exact if_pos (lookup_any_same_iff.2 hkey)
  | cons stored front ih =>
    have hstored := mt lookup_any_same_iff.1 (hfront stored (List.mem_cons_self ..))
    rw [List.cons_append, replaceFirst, if_neg hstored, ih fun other hother =>
      hfront other (List.mem_cons_of_mem _ hother)]
    rfl

/-- Where no two rows have one identifier, the rows that have it are the one replaced. -/
theorem replaceFirst_eq_map (h : (rows.filterMap (·.text? field)).Nodup) :
    replaceFirst field (.string key) row rows =
      rows.map fun stored => if stored.text? field = some key then row else stored := by
  induction rows with
  | nil => rfl
  | cons stored rest ih =>
    rw [replaceFirst, List.map_cons]
    by_cases hkey : stored.text? field = some key
    · -- This row is the first with the identifier, and so the only one.
      rw [if_pos (lookup_any_same_iff.2 hkey), if_pos hkey]
      rw [filterMap_text?_cons hkey, List.nodup_cons] at h
      have hrest : ∀ other ∈ rest, other.text? field ≠ some key := fun other hother hsame =>
        h.1 (List.mem_filterMap.2 ⟨other, hother, hsame⟩)
      rw [map_replace_eq_self hrest]
    · rw [if_neg (mt lookup_any_same_iff.1 hkey), if_neg hkey]
      have hrest : (rest.filterMap (·.text? field)).Nodup :=
        h.sublist ((List.sublist_cons_self stored rest).filterMap _)
      rw [ih hrest]

/-- A stored row is replaced in its place, and no other row has its identifier. -/
theorem replaceFirst_eq_append (h : (rows.filterMap (·.text? field)).Nodup) {old : Record} (hold : old ∈ rows)
    (hkey : old.text? field = some key) :
    ∃ front back, rows = front ++ old :: back ∧
      replaceFirst field (.string key) row rows = front ++ row :: back ∧
      ∀ other ∈ front ++ back, other.text? field ≠ some key := by
  obtain ⟨front, back, rfl⟩ := List.append_of_mem hold
  have hothers := text?_ne_of_nodup hkey h
  refine ⟨front, back, rfl, ?_, hothers⟩
  rw [replaceFirst_eq_map h, List.map_append, List.map_cons, if_pos hkey,
    map_replace_eq_self fun other hother => hothers other (List.mem_append_left _ hother),
    map_replace_eq_self fun other hother => hothers other (List.mem_append_right _ hother)]

end Replace

/-! ## Writes -/

variable {tables : Tables} {schema : Schema} {row : Record}

theorem rows_carryOut_of_ne {table : String} {write : Write} (h : table ≠ write.schema.table) :
    (tables.carryOut write).rows table = tables.rows table := by
  unfold carryOut
  split
  · exact if_neg h
  · split
    · exact if_neg h
    · rfl

theorem rows_carryOut_insert : (tables.carryOut ⟨.insert, schema, row⟩).rows schema.table =
    tables.rows schema.table ++ [row] :=
  if_pos rfl

theorem rows_carryOut_update {id : String} (h : row.text? schema.idField = some id) :
    (tables.carryOut ⟨.update, schema, row⟩).rows schema.table =
      replaceFirst schema.idField (.string id) row (tables.rows schema.table) := by
  unfold carryOut
  dsimp only
  rw [Record.text?_eq_some_iff.1 h]
  exact if_pos rfl

end Tables

end Taskboard
