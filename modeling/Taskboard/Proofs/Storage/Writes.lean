/-
Writes and their statements. Where the rows of a table have just the columns that it declares and no two
have one identifying value, a write does to the table what a database does that executes the statement of
the write: it adds a row with the columns that the statement lists (`execute?_insertStatement`), or sets those
columns wherever the identifying column has the value (`execute?_updateStatement`).
-/
import Taskboard.Proofs.Sql.Commands
import Taskboard.Proofs.Storage.Entities

namespace Taskboard

open Sql

/-! ## Rows of a table -/

/-- A row has just some columns, in the order of their names. -/
structure Record.Exact (fields : List String) (row : Record) : Prop where
  ordered : row.Ordered
  isSome_lookup_iff : ∀ name, (row.lookup name).isSome = true ↔ name ∈ fields

/-- No two rows have one value in the column that identifies them. -/
def DistinctIds (idField : String) (rows : List Record) : Prop :=
  rows.Pairwise fun a b => (a.valueOrNull idField).same (b.valueOrNull idField) = false

namespace Record

variable {fields : List String} {row : Record} {field id : String}

theorem isSome_lookup_iff_mem (row : Record) (name : String) :
    (row.lookup name).isSome = true ↔ name ∈ row.map Prod.fst := by
  induction row with
  | nil => simp
  | cons column row ih =>
    rw [lookup_cons, List.map_cons, List.mem_cons]
    split
    · simp_all
    · simp_all

theorem Exact.lookup_eq_none (h : row.Exact fields) {name : String} (hname : name ∉ fields) : row.lookup name = none :=
  Option.not_isSome_iff_eq_none.1 (mt (h.isSome_lookup_iff name).1 hname)

theorem valueOrNull_eq_string_iff : row.valueOrNull field = .string id ↔ row.text? field = some id := by
  rw [text?_eq_some_iff, valueOrNull]
  cases row.lookup field <;> simp

end Record

/-! ## Columns of a row -/

namespace Schema

variable {schema : Schema} {row : Record}

theorem nodup_columns (hnodup : schema.fields.Nodup) (row : Record) : ((schema.columns row).map Prod.fst).Nodup := by
  rw [schema.map_fst_columns]
  exact hnodup.filter _

theorem lookup_columns (schema : Schema) (row : Record) (name : String) :
    (schema.columns row).lookup name = if name ∈ schema.fields then row.lookup name else none := by
  unfold columns
  induction schema.fields with
  | nil => rfl
  | cons field fields ih =>
    rcases hvalue : row.lookup field with _ | value
    · rw [List.filterMap_cons_none (by rw [hvalue]; rfl), ih]
      by_cases h : name = field
      · simp [h, hvalue]
      · simp [h]
    · rw [List.filterMap_cons_some (b := (field, value)) (by rw [hvalue]; rfl), Record.lookup_cons, ih]
      by_cases h : name = field
      · simp [h, hvalue]
      · simp [h]

end Schema

namespace Write

/-- By its placeholder each column is given its own value, null for null. -/
theorem given_numbered (row : Record) (columns : List (String × Json)) (before after : List Json) :
    given row (before ++ columns.map Prod.snd ++ after) (numbered before.length columns) = columns := by
  induction columns generalizing before with
  | nil => rfl
  | cons column columns ih =>
    have hrest := ih (before ++ [column.2])
    rw [List.length_append, List.length_singleton, List.append_assoc before, List.singleton_append] at hrest
    rw [numbered, given, List.map_cons, ← given, List.map_cons, hrest]
    have hvalue : (Operand.parameter (before.length + 1)).value? row
        (before ++ column.2 :: columns.map Prod.snd ++ after) = (some column.2).filter fun value => !value.isNull := by
      simp [Operand.value?]
    rw [hvalue]
    obtain ⟨name, value⟩ := column
    cases value <;> rfl

variable {schema : Schema} {row stored : Record}

theorem lookup_updatedColumns (schema : Schema) (row : Record) (name : String) :
    (updatedColumns schema row).lookup name =
      if name = schema.idField then none else (schema.columns row).lookup name := by
  unfold updatedColumns
  induction schema.columns row with
  | nil => simp
  | cons column columns ih =>
    obtain ⟨field, value⟩ := column
    by_cases hfield : field = schema.idField
    · rw [List.filter_cons_of_neg (by simpa using hfield), ih, Record.lookup_cons]
      split
      · rfl
      · rename_i hname
        rw [if_neg fun heq => hname (heq.trans hfield)]
    · rw [List.filter_cons_of_pos (by simpa using hfield), Record.lookup_cons, Record.lookup_cons, ih]
      split
      · rename_i hname
        rw [if_neg fun heq => hfield (hname.symm.trans heq)]
      · rfl

/-- The columns of a row make the row. -/
theorem ofFields_columns (hnodup : schema.fields.Nodup) (hrow : row.Exact schema.fields) :
    Record.ofFields (schema.columns row) = row := by
  refine Record.eq_of_lookup (Record.Ordered.insertAll .nil _) hrow.ordered fun name => ?_
  rw [Record.ofFields_eq, Record.lookup_insertAll (schema.nodup_columns hnodup row), schema.lookup_columns]
  by_cases h : name ∈ schema.fields
  · simp [h]
  · rw [if_neg h, hrow.lookup_eq_none h]
    rfl

/-- Columns that are set in a row with the same identifying value make the row that they are of. -/
theorem insertAll_updatedColumns (hnodup : schema.fields.Nodup) (hrow : row.Exact schema.fields)
    (hstored : stored.Exact schema.fields) (hid : stored.lookup schema.idField = row.lookup schema.idField) :
    Record.insertAll (updatedColumns schema row) stored = row := by
  have hnodup' : ((updatedColumns schema row).map Prod.fst).Nodup :=
    (schema.nodup_columns hnodup row).sublist (List.filter_sublist.map _)
  refine Record.eq_of_lookup (hstored.ordered.insertAll _) hrow.ordered fun name => ?_
  rw [Record.lookup_insertAll hnodup', lookup_updatedColumns, schema.lookup_columns]
  by_cases hname : name = schema.idField
  · rw [hname, if_pos rfl, hid]
    rfl
  · rw [if_neg hname]
    by_cases h : name ∈ schema.fields
    · obtain ⟨value, hvalue⟩ := Option.isSome_iff_exists.1 ((hrow.isSome_lookup_iff name).2 h)
      rw [if_pos h, hvalue]
      rfl
    · rw [if_neg h, hstored.lookup_eq_none h, hrow.lookup_eq_none h]
      rfl

end Write

/-! ## One write -/

/-- A table whose statements can be read, with a column besides the one that identifies a row. -/
structure Schema.Plain (schema : Schema) : Prop where
  table : PlainName schema.table
  fields : ∀ field ∈ schema.fields, PlainName field
  nodup : schema.fields.Nodup
  other : ∃ field ∈ schema.fields, field ≠ schema.idField

namespace DistinctIds

variable {idField id : String} {rows : List Record} {row : Record} (h : DistinctIds idField rows)
include h

theorem nodup_texts : (rows.filterMap (·.text? idField)).Nodup := by
  refine List.pairwise_filterMap.2 (h.imp fun {a b} hab x hx y hy heq => ?_)
  subst heq
  rw [Record.valueOrNull_eq_string_iff.2 hx, Record.valueOrNull_eq_string_iff.2 hy,
    Json.same_string_iff.2 rfl] at hab
  cases hab

/-- A row is added whose identifier no row has. -/
theorem added (hrow : row.text? idField = some id) (hnew : ∀ stored ∈ rows, stored.text? idField ≠ some id) :
    DistinctIds idField (rows ++ [row]) := by
  refine List.pairwise_append.2 ⟨h, List.pairwise_singleton .., fun stored hstored other hother => ?_⟩
  obtain rfl := List.mem_singleton.1 hother
  rw [Record.valueOrNull_eq_string_iff.2 hrow, Bool.eq_false_iff]
  intro hsame
  rw [Json.same_string_iff, Record.valueOrNull_eq_string_iff] at hsame
  exact hnew stored hstored hsame

/-- A row takes the place of the one with its identifier, so every place keeps its identifying value. -/
theorem replaced (hrow : row.text? idField = some id) :
    DistinctIds idField (rows.map fun stored => if stored.text? idField = some id then row else stored) := by
  have hkeeps : ∀ stored : Record, (if stored.text? idField = some id then row else stored).valueOrNull idField =
      stored.valueOrNull idField := by
    intro stored
    split
    · rename_i hstored
      rw [Record.valueOrNull_eq_string_iff.2 hrow, Record.valueOrNull_eq_string_iff.2 hstored]
    · rfl
  refine List.pairwise_map.2 (List.Pairwise.imp (fun hab => ?_) h)
  rw [hkeeps, hkeeps]
  exact hab

end DistinctIds

namespace Write

variable {schema : Schema} {row stored : Record} {tables : Tables} {id : String}

/-- To execute the statement that adds a row is to add it. -/
theorem execute?_insertStatement (hplain : schema.Plain) (hrow : row.Exact schema.fields) (tables : Tables) :
    ∃ statement, insertStatement schema row = .ok statement ∧
      tables.execute? statement = some (tables.carryOut ⟨.insert, schema, row⟩) := by
  have hne : schema.columns row ≠ [] := fun hnil => by
    have hid := schema.lookup_columns row schema.idField
    rw [hnil, if_pos schema.idField_mem] at hid
    have hsome := (hrow.isSome_lookup_iff schema.idField).2 schema.idField_mem
    rw [← hid] at hsome
    cases hsome
  obtain ⟨statement, hstatement⟩ : ∃ statement, insertStatement schema row = .ok statement := by
    unfold insertStatement
    split
    · exact absurd ‹_› hne
    · exact ⟨_, rfl⟩
  refine ⟨statement, hstatement, ?_⟩
  obtain ⟨-, hparams, -⟩ := pieces_insertStatement hstatement
  have hgiven := given_numbered [] (schema.columns row) [] []
  rw [List.nil_append, List.append_nil] at hgiven
  rw [Tables.execute?, readCommand?_insertStatement hplain.table hplain.fields hstatement, Option.map_some, hparams,
    Command.execute]
  simp only [List.length_nil] at hgiven
  rw [hgiven, ofFields_columns hplain.nodup hrow]
  rfl

theorem updatedColumns_ne_nil (hplain : schema.Plain) (hrow : row.Exact schema.fields) :
    updatedColumns schema row ≠ [] := fun hnil => by
  obtain ⟨field, hfield, hne⟩ := hplain.other
  have hlookup := lookup_updatedColumns schema row field
  rw [hnil, if_neg hne, schema.lookup_columns, if_pos hfield] at hlookup
  have hsome := (hrow.isSome_lookup_iff field).2 hfield
  rw [← hlookup] at hsome
  cases hsome

/-- What the statement that overwrites a row makes of a row that is stored: the one with its identifier gives way to
it, and another stays. -/
theorem set_updatedColumns (hplain : schema.Plain) (hrow : row.Exact schema.fields)
    (hid : row.text? schema.idField = some id) (hstored : stored.Exact schema.fields) :
    let params := (updatedColumns schema row).map Prod.snd ++ [.string id]
    (if (Condition.equals (.column schema.idField) (.parameter ((updatedColumns schema row).length + 1))).truth stored
        params = .yes
      then Record.insertAll (given stored params (numbered 0 (updatedColumns schema row))) stored else stored) =
        if stored.text? schema.idField = some id then row else stored := by
  intro params
  -- The row has the last parameter in its identifying column just when it has the identifier.
  have hparam : params[(updatedColumns schema row).length]? = some (.string id) := by
    simp [params]
  have htruth : (Condition.equals (.column schema.idField) (.parameter ((updatedColumns schema row).length + 1))).truth
      stored params = .yes ↔ stored.text? schema.idField = some id :=
    (compare_eq_yes hparam).trans Predicate.holds_equals_string
  have hgiven : given stored params (numbered 0 (updatedColumns schema row)) = updatedColumns schema row :=
    given_numbered stored (updatedColumns schema row) [] [.string id]
  by_cases hsame : stored.text? schema.idField = some id
  · rw [if_pos (htruth.2 hsame), if_pos hsame, hgiven]
    refine insertAll_updatedColumns hplain.nodup hrow hstored ?_
    rw [Record.text?_eq_some_iff.1 hsame, Record.text?_eq_some_iff.1 hid]
  · rw [if_neg (mt htruth.1 hsame), if_neg hsame]

/-- To execute the statement that overwrites a row is to replace the row with its identifying value. -/
theorem execute?_updateStatement (hplain : schema.Plain) (hrow : row.Exact schema.fields)
    (hid : row.text? schema.idField = some id)
    (hrows : ∀ stored ∈ tables.rows schema.table, stored.Exact schema.fields)
    (hdistinct : DistinctIds schema.idField (tables.rows schema.table)) :
    ∃ statement, updateStatement schema row = .ok statement ∧
      tables.execute? statement = some (tables.carryOut ⟨.update, schema, row⟩) := by
  have hvalue : row.value? schema.idField = some (.string id) := Record.value?_eq_string_iff.2 hid
  obtain ⟨statement, hstatement⟩ : ∃ statement, updateStatement schema row = .ok statement := by
    unfold updateStatement
    rw [hvalue]
    exact ⟨_, rfl⟩
  refine ⟨statement, hstatement, ?_⟩
  obtain ⟨id', hid', hparams, -⟩ := pieces_updateStatement hstatement
  obtain rfl : id' = .string id := Option.some.inj (hid'.symm.trans hvalue)
  rw [Tables.execute?, readCommand?_updateStatement hplain.table hplain.fields (updatedColumns_ne_nil hplain hrow)
    hstatement, Option.map_some, Command.execute, hparams, Tables.carryOut]
  dsimp only [Command.table]
  rw [Record.text?_eq_some_iff.1 hid]
  dsimp only
  rw [Tables.replaceFirst_eq_map hdistinct.nodup_texts]
  refine congrArg (fun rows => some (tables.setRows schema.table rows)) (List.map_congr_left fun stored hstored => ?_)
  exact set_updatedColumns hplain hrow hid (hrows stored hstored)

end Write

end Taskboard
