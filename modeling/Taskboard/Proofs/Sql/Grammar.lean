/-
The grammar of statements that write, as SQLite has it: INSERT with a list of columns and a list of values,
UPDATE with a list of assignments and a comparison that finds the row. Both lists have a member at least. A
statement that adds a row is of this grammar, and so is one that overwrites a row as long as the row has a
column to set (`writes_grammatical`); the update of a row with nothing but its identifying value compiles to
a text that is no statement (`update_ungrammatical`).
-/
import Taskboard.Proofs.Sql.Placeholders

namespace Taskboard

namespace Sql

/-! ## Identifiers -/

/-- The words that SQLite reserves, in small letters, and the two that begin an expression of their own. -/
def reserved : List String :=
  ["add", "all", "alter", "and", "as", "autoincrement", "between", "case", "cast", "check", "collate", "commit",
    "constraint", "create", "default", "deferrable", "delete", "distinct", "drop", "else", "escape", "except",
    "exists", "foreign", "from", "group", "having", "in", "index", "insert", "intersect", "into", "is", "isnull",
    "join", "limit", "not", "nothing", "notnull", "null", "on", "or", "order", "primary", "raise", "references",
    "returning", "select", "set", "table", "then", "to", "transaction", "union", "unique", "update", "using",
    "values", "when", "where"]

/-- A name that stands for a table or a column without quotes: it begins with no digit, and is no word of the
language. -/
@[mk_iff]
structure Identifier (name : String) : Prop extends PlainName name where
  first : name.toList.head?.any Char.isDigit = false
  free : Text.lower name ∉ reserved

instance (name : String) : Decidable (Identifier name) :=
  decidable_of_iff _ (identifier_iff name).symm

/-! ## Lists -/

/-- Members with commas between them, one at least. -/
inductive Commas {α : Type} (part : α → List Token → Prop) : List α → List Token → Prop
  | one {x text} : part x text → Commas part [x] text
  | cons {x xs text rest} : part x text → Commas part xs rest → Commas part (x :: xs) (text ++ .symbol ',' :: rest)

namespace Commas

variable {α : Type} {part : α → List Token → Prop} {xs : List α} {text : List Token}

/-- A list begins the way its first member does. -/
theorem head?_eq (h : Commas part xs text) (hpart : ∀ x text, part x text → text ≠ []) :
    ∃ x first, part x first ∧ text.head? = first.head? := by
  cases h with
  | one hx => exact ⟨_, _, hx, rfl⟩
  | cons hx _ =>
    refine ⟨_, _, hx, ?_⟩
    rw [List.head?_append_of_ne_nil _ (hpart _ _ hx)]

/-- Texts of members with a comma between each two are a list of them. -/
theorem intercalate {parts : List (List Token)} (h : List.Forall₂ part xs parts) (hne : xs ≠ []) :
    Commas part xs ([Token.symbol ','].intercalate parts) := by
  induction h with
  | nil => exact absurd rfl hne
  | @cons x text xs parts hx hrest ih =>
    cases hrest with
    | nil =>
      rw [List.intercalate_singleton]
      exact .one hx
    | cons hnext hrest =>
      -- There is a second member, and so a comma behind the first.
      rw [List.intercalate_cons_cons, List.append_assoc]
      exact .cons hx (ih (List.cons_ne_nil _ _))

end Commas

/-! ## Statements -/

/-- A name as it is written. -/
def IsName (name : String) (text : List Token) : Prop :=
  Identifier name ∧ text = [.name name]

/-- A value as it is written: a parameter or a number. -/
inductive IsValue : Operand → List Token → Prop
  | parameter (number : Nat) : IsValue (.parameter number) [.parameter number]
  | number (value : Nat) : IsValue (.number value) [.number value]

/-- A column with what it is set to. -/
inductive IsAssignment : String × Operand → List Token → Prop
  | intro {column operand text} : Identifier column → IsValue operand text →
      IsAssignment (column, operand) (.name column :: .symbol '=' :: text)

/-- The texts of commands. Of the conditions that UPDATE may have behind WHERE, these are the equalities of a column
and a value. -/
inductive Grammatical : Command → List Token → Prop
  | insert {table columns operands names values} : Identifier table → Commas IsName columns names →
      Commas IsValue operands values → columns.length = operands.length →
      Grammatical (.insert table (columns.zip operands)) (.name "INSERT" :: .name "INTO" :: .name table ::
        .symbol '(' :: (names ++ .symbol ')' :: .name "VALUES" :: .symbol '(' :: (values ++ [.symbol ')'])))
  | update {table columns text column operand value} : Identifier table → Commas IsAssignment columns text →
      Identifier column → IsValue operand value →
      Grammatical (.update table columns (.equals (.column column) operand)) (.name "UPDATE" :: .name table ::
        .name "SET" :: (text ++ .keyword .where :: .name column :: .symbol '=' :: value))

/-- What is set stands between SET and WHERE. -/
theorem not_grammatical_of_nothing_set (table : String) (rest : List Token) (command : Command) :
    ¬ Grammatical command (.name "UPDATE" :: .name table :: .name "SET" :: .keyword .where :: rest) := by
  intro h
  generalize htext : Token.name "UPDATE" :: Token.name table :: Token.name "SET" :: Token.keyword .where :: rest = text
    at h
  cases h with
  | insert => simp at htext
  | update _ hcolumns =>
    -- The text of an assignment begins with a name.
    obtain ⟨column, first, hfirst, hhead⟩ := hcolumns.head?_eq (by rintro _ _ ⟨⟩; simp)
    cases hfirst
    simp only [List.cons.injEq, Token.name.injEq, true_and] at htext
    have hword := congrArg List.head? htext.2
    rw [List.head?_append_of_ne_nil _ (by rintro rfl; simp at hhead), hhead] at hword
    simp at hword

/-! ## What is named -/

/-- The columns are those of a certain kind, each named once. -/
def NamesJust (columns : List (String × Operand)) (kind : String → Prop) : Prop :=
  (columns.map Prod.fst).Nodup ∧ ∀ name, name ∈ columns.map Prod.fst ↔ kind name

end Sql

open Sql

namespace Schema

variable {schema : Schema} {row : Record}

theorem mem_heldBy {field : String} :
    field ∈ schema.heldBy row ↔ field ∈ schema.fields ∧ row.lookup field ≠ none := by
  rw [heldBy, List.mem_filter, Option.isSome_iff_ne_none]

theorem mem_setBy {field : String} : field ∈ schema.setBy row ↔
    field ∈ schema.fields ∧ row.lookup field ≠ none ∧ field ≠ schema.idField := by
  rw [setBy, List.mem_filter, mem_heldBy, and_assoc, bne_iff_ne]

end Schema

namespace Write

variable {schema : Schema} {row : Record} {statement : Statement}

theorem map_fst_numbered (bound : Nat) (columns : List (String × Json)) :
    (numbered bound columns).map Prod.fst = columns.map Prod.fst := by
  induction columns generalizing bound with
  | nil => rfl
  | cons column columns ih => rw [numbered, List.map_cons, List.map_cons, ih]

theorem numbered_ne_nil (bound : Nat) {columns : List (String × Json)} (h : columns ≠ []) :
    numbered bound columns ≠ [] := by
  intro hnil
  have hfst := map_fst_numbered bound columns
  rw [hnil, List.map_nil] at hfst
  exact h (List.map_eq_nil_iff.1 hfst.symm)

theorem columns_eq_nil : schema.columns row = [] ↔ ∀ field ∈ schema.fields, row.lookup field = none := by
  rw [← List.map_eq_nil_iff, schema.map_fst_columns, List.eq_nil_iff_forall_not_mem]
  simp only [Schema.mem_heldBy]
  grind

theorem updatedColumns_eq_nil : updatedColumns schema row = [] ↔
    ∀ field ∈ schema.fields, field ≠ schema.idField → row.lookup field = none := by
  rw [← List.map_eq_nil_iff, map_fst_updatedColumns, List.eq_nil_iff_forall_not_mem]
  simp only [Schema.mem_setBy]
  grind

/-! ## The two kinds of writes -/

section

variable (hnames : ∀ name ∈ schema.table :: schema.fields, Identifier name)

include hnames

theorem grammatical_insertStatement (h : insertStatement schema row = .ok statement) :
    Grammatical (.insert schema.table (numbered 0 (schema.columns row))) (tokens statement.text.toList) := by
  obtain ⟨hne, -, -⟩ := pieces_insertStatement h
  have htable : Identifier schema.table := hnames _ (List.mem_cons_self ..)
  have hfields : ∀ field ∈ schema.fields, Identifier field :=
    fun field hfield => hnames _ (List.mem_cons_of_mem _ hfield)
  have hcolumns : Commas IsName ((schema.columns row).map Prod.fst) ([Token.symbol ','].intercalate
      (((schema.columns row).map fun column => Token.name column.1).map fun t => [t])) := by
    refine .intercalate ?_ (by simpa using hne)
    rw [List.map_map, List.forall₂_map_left_iff, List.forall₂_map_right_iff, List.forall₂_same]
    intro column hcolumn
    exact ⟨hfields _ (mem_fields_of_mem_columns hcolumn), rfl⟩
  have hvalues : Commas IsValue
      ((List.range (schema.columns row).length).map fun i => Operand.parameter (0 + i + 1))
      ([Token.symbol ','].intercalate
        (((List.range (schema.columns row).length).map fun i => Token.parameter (0 + i + 1)).map fun t => [t])) := by
    refine .intercalate ?_ (by simpa using hne)
    rw [List.map_map, List.forall₂_map_left_iff, List.forall₂_map_right_iff, List.forall₂_same]
    intro i _
    exact .parameter _
  rw [tokens_insertStatement htable.toPlainName (fun field hfield => (hfields field hfield).toPlainName) h,
    ← zip_numbered]
  exact .insert htable hcolumns hvalues (by simp)

theorem forall₂_assignmentTokens (bound : Nat) {columns : List (String × Json)} (h : columns ⊆ schema.columns row) :
    List.Forall₂ IsAssignment (numbered bound columns) (assignmentTokens bound columns) := by
  induction columns generalizing bound with
  | nil => exact .nil
  | cons column columns ih =>
    obtain ⟨hcolumn, hcolumns⟩ := List.cons_subset.1 h
    have hname : Identifier column.1 := hnames _ (List.mem_cons_of_mem _ (mem_fields_of_mem_columns hcolumn))
    exact .cons (.intro hname (.parameter _)) (ih (bound + 1) hcolumns)

theorem tokens_condition (id : Json) (bound : Nat) :
    ((Predicate.equals schema.idField id).pieces bound).flatMap Piece.tokens =
      [.name schema.idField, .symbol '=', .parameter (bound + 1)] := by
  have hplain : PlainName schema.idField := (hnames _ (List.mem_cons_of_mem _ schema.idField_mem)).toPlainName
  simp [Predicate.pieces, spaced, placeholders, tokens_name hplain, Word.tokens]

theorem tokens_overwriting (h : updateStatement schema row = .ok statement) :
    tokens statement.text.toList = .name "UPDATE" :: .name schema.table :: .name "SET" ::
      ([Token.symbol ','].intercalate (assignmentTokens 0 (updatedColumns schema row)) ++ .keyword .where ::
        .name schema.idField :: .symbol '=' :: [.parameter ((updatedColumns schema row).length + 1)]) := by
  have hplain : ∀ name ∈ schema.table :: schema.fields, PlainName name :=
    fun name hname => (hnames name hname).toPlainName
  obtain ⟨id, htokens⟩ := tokens_updateStatement (hplain _ (List.mem_cons_self ..))
    (fun field hfield => hplain _ (List.mem_cons_of_mem _ hfield)) h
  rw [htokens, tokens_condition hnames]

theorem grammatical_updateStatement (hne : updatedColumns schema row ≠ [])
    (h : updateStatement schema row = .ok statement) :
    Grammatical (.update schema.table (numbered 0 (updatedColumns schema row))
      (.equals (.column schema.idField) (.parameter ((updatedColumns schema row).length + 1))))
      (tokens statement.text.toList) := by
  have hset : updatedColumns schema row ⊆ schema.columns row := fun _ => List.mem_of_mem_filter
  have hassigned : Commas IsAssignment (numbered 0 (updatedColumns schema row))
      ([Token.symbol ','].intercalate (assignmentTokens 0 (updatedColumns schema row))) :=
    .intercalate (forall₂_assignmentTokens hnames 0 hset) (numbered_ne_nil 0 hne)
  rw [tokens_overwriting hnames h]
  exact .update (hnames _ (List.mem_cons_self ..)) hassigned (hnames _ (List.mem_cons_of_mem _ schema.idField_mem))
    (.parameter _)

theorem not_grammatical_updateStatement (hnothing : updatedColumns schema row = [])
    (h : updateStatement schema row = .ok statement) (command : Command) :
    ¬ Grammatical command (tokens statement.text.toList) := by
  rw [tokens_overwriting hnames h, hnothing]
  exact not_grammatical_of_nothing_set _ _ command

end

/-! ### Failure -/

theorem insertStatement_fails :
    (∃ e, insertStatement schema row = .error e) ↔ ∀ field ∈ schema.fields, row.lookup field = none := by
  rw [← columns_eq_nil, insertStatement]
  split
  · rename_i hnil
    exact ⟨fun _ => hnil, fun _ => ⟨_, rfl⟩⟩
  · rename_i hne
    exact ⟨nofun, fun hnil => absurd hnil hne⟩

theorem updateStatement_fails : (∃ e, updateStatement schema row = .error e) ↔
    row.lookup schema.idField = none ∨ row.lookup schema.idField = some .null := by
  have hvalue : row.value? schema.idField = none ↔
      row.lookup schema.idField = none ∨ row.lookup schema.idField = some .null := by
    rw [Record.value?]
    cases row.lookup schema.idField with
    | none => simp
    | some value => cases value <;> simp [Json.isNull]
  rw [← hvalue, updateStatement]
  rcases row.value? schema.idField with _ | id
  · simp
  · simp

end Write

/-- Every statement that adds a row is a grammatical INSERT whose columns are just those of the table that the row has,
each once; there is none just for a row with no column of the table. An update has no statement just when the
identifying value is missing or null. Where the row has a column to set, the statement is a grammatical UPDATE that
sets just those columns, each once; where it has none, the text is no statement. -/
theorem writes_grammatical {schema : Schema} (hnames : ∀ name ∈ schema.table :: schema.fields, Identifier name)
    (hdistinct : schema.fields.Nodup) (row : Record) :
    (∀ statement, Write.insertStatement schema row = .ok statement → ∃ columns,
      Grammatical (.insert schema.table columns) (tokens statement.text.toList) ∧ columns ≠ [] ∧
      NamesJust columns fun name => name ∈ schema.fields ∧ row.lookup name ≠ none) ∧
    ((∃ e, Write.insertStatement schema row = .error e) ↔ ∀ field ∈ schema.fields, row.lookup field = none) ∧
    (∀ statement, Write.updateStatement schema row = .ok statement →
      (∃ field ∈ schema.fields, field ≠ schema.idField ∧ row.lookup field ≠ none) → ∃ columns value,
      Grammatical (.update schema.table columns (.equals (.column schema.idField) value))
        (tokens statement.text.toList) ∧ columns ≠ [] ∧
      NamesJust columns fun name => name ∈ schema.fields ∧ row.lookup name ≠ none ∧ name ≠ schema.idField) ∧
    (∀ statement, Write.updateStatement schema row = .ok statement →
      (∀ field ∈ schema.fields, field ≠ schema.idField → row.lookup field = none) →
      ∀ command, ¬ Grammatical command (tokens statement.text.toList)) ∧
    ((∃ e, Write.updateStatement schema row = .error e) ↔
      row.lookup schema.idField = none ∨ row.lookup schema.idField = some .null) := by
  have hheld : (schema.heldBy row).Nodup := hdistinct.filter _
  refine ⟨?_, Write.insertStatement_fails, ?_, ?_, Write.updateStatement_fails⟩
  · intro statement h
    obtain ⟨hne, -, -⟩ := Write.pieces_insertStatement h
    refine ⟨_, Write.grammatical_insertStatement hnames h, Write.numbered_ne_nil 0 hne, ?_, ?_⟩
    · rwa [Write.map_fst_numbered, schema.map_fst_columns]
    · intro name
      rw [Write.map_fst_numbered, schema.map_fst_columns, Schema.mem_heldBy]
  · rintro statement h ⟨field, hfield, hother, hheldField⟩
    have hne : Write.updatedColumns schema row ≠ [] := by
      intro hnil
      exact hheldField (Write.updatedColumns_eq_nil.1 hnil field hfield hother)
    refine ⟨_, _, Write.grammatical_updateStatement hnames hne h, Write.numbered_ne_nil 0 hne, ?_, ?_⟩
    · rw [Write.map_fst_numbered, Write.map_fst_updatedColumns]
      exact hheld.filter _
    · intro name
      rw [Write.map_fst_numbered, Write.map_fst_updatedColumns, Schema.mem_setBy]
  · intro statement h hnothing
    exact Write.not_grammatical_updateStatement hnames (Write.updatedColumns_eq_nil.2 hnothing) h

theorem identifier_board : ∀ name ∈ Board.schema.table :: Board.schema.fields, Identifier name := by
  decide +kernel

theorem writes_grammatical_renamed :
    (∀ name ∈ Board.schema.table :: Board.schema.fields, Identifier name) ∧ Board.schema.fields.Nodup ∧
    ∃ added set columns assigned value, Write.insertStatement Board.schema renamed = .ok added ∧
      Grammatical (.insert "boards" columns) (tokens added.text.toList) ∧
      Write.updateStatement Board.schema renamed = .ok set ∧
      Grammatical (.update "boards" assigned (.equals (.column "id") value)) (tokens set.text.toList) ∧
      NamesJust assigned fun name => name ∈ Board.schema.fields ∧ renamed.lookup name ≠ none ∧ name ≠ "id" := by
  have hdistinct : Board.schema.fields.Nodup := by
    decide +kernel
  have hset : ∃ field ∈ Board.schema.fields, field ≠ Board.schema.idField ∧ renamed.lookup field ≠ none :=
    ⟨"name", by decide, by decide, by decide⟩
  obtain ⟨hinsert, -, hupdate, -, -⟩ := writes_grammatical identifier_board hdistinct renamed
  obtain ⟨columns, hadded, -, -⟩ := hinsert _ rfl
  obtain ⟨assigned, value, hassigned, -, hjust⟩ := hupdate _ rfl hset
  exact ⟨identifier_board, hdistinct, _, _, columns, assigned, value, rfl, hadded, rfl, hassigned, hjust⟩

/-- An update of a board with nothing to set does not fail, and what it compiles to is no statement: WHERE stands right
behind SET. -/
theorem update_ungrammatical :
    (∀ name ∈ Board.schema.table :: Board.schema.fields, Identifier name) ∧ Board.schema.fields.Nodup ∧
    ∃ statement, Write.updateStatement Board.schema [("id", .string "b1")] = .ok statement ∧
      statement.text = "UPDATE boards SET  WHERE id = ?1" ∧
      ∀ command, ¬ Grammatical command (tokens statement.text.toList) := by
  have hnothing : Write.updatedColumns Board.schema [("id", .string "b1")] = [] := rfl
  refine ⟨identifier_board, by decide +kernel, _, rfl, by decide +kernel, ?_⟩
  exact Write.not_grammatical_updateStatement identifier_board hnothing rfl

end Taskboard
