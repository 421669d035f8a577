/-
Statements that write, as a database takes them. A text is read as a command: to add a row that gives
columns their values, or to set columns in every row that meets a condition. The statements of writes
are read as the commands to give the columns of the row the parameters of their placeholders
(`readCommand?_insertStatement`, `readCommand?_updateStatement`).
-/
import Taskboard.Proofs.Sql.Predicates
import Taskboard.Proofs.Storage.Records
import Taskboard.Storage.Tables

namespace Taskboard

namespace Sql

/-! ## Commands -/

/-- What a statement that writes asks for: columns with what they are given, in a row that is added or in
every row that meets a condition. -/
inductive Command where
  | insert (table : String) (columns : List (String × Operand))
  | update (table : String) (columns : List (String × Operand)) (condition : Condition)
deriving DecidableEq

/-- The column that an operand is. -/
def Operand.column? : Operand → Option String
  | .column name => some name
  | _ => none

/-- Assignments with commas between them. -/
def readAssignments : List Token → Option (List (String × Operand) × List Token)
  | .name column :: .symbol '=' :: token :: .symbol ',' :: rest =>
    match Operand.ofToken? token, readAssignments rest with
    | some operand, some (others, rest) => some ((column, operand) :: others, rest)
    | _, _ => none
  | .name column :: .symbol '=' :: token :: rest =>
    (Operand.ofToken? token).map fun operand => ([(column, operand)], rest)
  | _ => none

/-- What stands behind the parenthesis that opens the columns of a row to add: the columns, and as many
values behind the word VALUES. -/
def readInsert (table : String) (text : List Token) : Option Command :=
  match readItems text with
  | some (columns, .name "VALUES" :: .symbol '(' :: rest) =>
    match columns.mapM Operand.column?, readItems rest with
    | some names, some (items, []) =>
      if names.length = items.length then some (.insert table (names.zip items)) else none
    | _, _ => none
  | _ => none

/-- What stands behind the word SET: assignments, and a condition behind the word WHERE. -/
def readUpdate (table : String) (text : List Token) : Option Command :=
  match readAssignments text with
  | some (columns, .keyword .where :: rest) =>
    match readCondition rest with
    | some (condition, []) => some (.update table columns condition)
    | _ => none
  | _ => none

/-- The command that a text is, with its words in capitals. -/
def readCommand? : List Token → Option Command
  | .name "INSERT" :: .name "INTO" :: .name table :: .symbol '(' :: rest => readInsert table rest
  | .name "UPDATE" :: .name table :: .name "SET" :: rest => readUpdate table rest
  | _ => none

/-! ## Execution -/

/-- What columns are given, with operands as they stand for a row and the values of the parameters. -/
def given (row : Record) (params : List Json) (columns : List (String × Operand)) : List (String × Json) :=
  columns.map fun column => (column.1, (column.2.value? row params).getD .null)

namespace Command

/-- The table that a command writes to. -/
def table : Command → String
  | .insert table _ | .update table _ _ => table

/-- What a command makes of the rows of its table. -/
def execute (params : List Json) : Command → List Record → List Record
  | .insert _ columns, rows => rows ++ [Record.ofFields (given [] params columns)]
  | .update _ columns condition, rows => rows.map fun row =>
    if condition.truth row params = .yes then Record.insertAll (given row params columns) row else row

end Command

end Sql

open Sql

namespace Tables

/-- Executes a statement that writes; none for a text that cannot be read. -/
def execute? (tables : Tables) (statement : Statement) : Option Tables :=
  (readCommand? (tokens statement.text.toList)).map fun command =>
    tables.setRows command.table (command.execute statement.params (tables.rows command.table))

/-- Executes statements one after another. -/
def executeAll? (tables : Tables) (statements : List Statement) : Option Tables :=
  statements.foldlM execute? tables

end Tables

/-! ## Columns of a row -/

namespace Schema

variable (schema : Schema) (row : Record)

/-- The columns of a table that a row has, in the order in which the table declares them. -/
def heldBy : List String :=
  schema.fields.filter fun field => (row.lookup field).isSome

theorem map_fst_columns : (schema.columns row).map Prod.fst = schema.heldBy row := by
  unfold columns heldBy
  rw [List.map_filterMap, ← List.filterMap_eq_filter]
  refine List.filterMap_congr fun field _ => ?_
  cases hvalue : row.lookup field <;> simp [Option.guard, hvalue]

variable {schema row}

theorem lookup_of_mem_columns {column : String × Json} (h : column ∈ schema.columns row) :
    row.lookup column.1 = some column.2 := by
  obtain ⟨field, -, hcolumn⟩ := List.mem_filterMap.1 h
  obtain ⟨value, hvalue, rfl⟩ := Option.map_eq_some_iff.1 hcolumn
  exact hvalue

end Schema

namespace Write

/-! ## The tokens of writes -/

variable {schema : Schema} {row : Record}

/-- The parameters of columns by their placeholders, behind the first `bound` ones. -/
def numbered (bound : Nat) : List (String × Json) → List (String × Operand)
  | [] => []
  | column :: rest => (column.1, .parameter (bound + 1)) :: numbered (bound + 1) rest

theorem tokens_names {columns : List (String × Json)} (h : ∀ column ∈ columns, PlainName column.1) :
    (commaSeparated (columns.map namePiece)).flatMap Piece.tokens =
      [Token.symbol ','].intercalate ((columns.map fun column => Token.name column.1).map fun t => [t]) := by
  have hcomma : [Piece.word .comma, .word .space].flatMap Piece.tokens = [Token.symbol ','] := by
    simp [Word.tokens]
  rw [commaSeparated, tokens_intercalate, hcomma, List.map_map, List.map_map]
  congr 1
  refine List.map_congr_left fun column hcolumn => ?_
  simp [namePiece, tokens_name (h column hcolumn)]

theorem apart_names (columns : List (String × Json)) : Apart (commaSeparated (columns.map namePiece)) := by
  refine apart_commaSeparated fun part hpart => ?_
  obtain ⟨column, -, rfl⟩ := List.mem_map.1 hpart
  exact List.isChain_singleton _

theorem apart_items (bound count : Nat) : Apart (commaSeparated ((placeholders bound count).map fun p => [p])) := by
  refine apart_commaSeparated fun part hpart => ?_
  obtain ⟨p, -, rfl⟩ := List.mem_map.1 hpart
  exact List.isChain_singleton _

/-- Two words with a space between them, in front of what is set apart. -/
theorem apart_word {word : Piece} {rest : List Piece} (h : Apart rest) : Apart (word :: .word .space :: rest) :=
  apart_append (List.isChain_singleton word) rfl (apart_cons rfl h)

theorem mem_fields_of_mem_columns {column : String × Json} (h : column ∈ schema.columns row) :
    column.1 ∈ schema.fields := by
  obtain ⟨field, hfield, hcolumn⟩ := List.mem_filterMap.1 h
  obtain ⟨value, -, rfl⟩ := Option.map_eq_some_iff.1 hcolumn
  exact hfield

theorem pieces_insertStatement {statement : Statement} (h : insertStatement schema row = .ok statement) :
    schema.columns row ≠ [] ∧ statement.params = (schema.columns row).map Prod.snd ∧
      statement.pieces = .word .insert :: .word .space :: .word .into :: .word .space :: .name schema.table ::
        .word .space :: .word .opening :: (commaSeparated ((schema.columns row).map namePiece) ++ .word .closing ::
          (spaced [.values] ++ .word .opening ::
            (commaSeparated ((placeholders 0 (schema.columns row).length).map fun p => [p]) ++ [.word .closing]))) := by
  unfold insertStatement at h
  split at h
  · cases h
  · rename_i hne
    cases h
    exact ⟨hne, rfl, by simp⟩

theorem apart_insertStatement {statement : Statement} (h : insertStatement schema row = .ok statement) :
    Apart statement.pieces := by
  obtain ⟨-, -, hpieces⟩ := pieces_insertStatement h
  rw [hpieces]
  have hitems : Apart (.word .opening ::
      (commaSeparated ((placeholders 0 (schema.columns row).length).map fun p => [p]) ++ [.word .closing])) :=
    apart_cons rfl (apart_append (apart_items 0 _) rfl (List.isChain_singleton _))
  have hnames : Apart (.word .opening ::
      (commaSeparated ((schema.columns row).map namePiece) ++ .word .closing :: _)) :=
    apart_cons rfl (apart_append (apart_names _) rfl (apart_cons rfl (apart_spaced [.values] hitems)))
  exact apart_word (apart_word (apart_word hnames))

theorem tokens_insertStatement {statement : Statement} (htable : PlainName schema.table)
    (hplain : ∀ field ∈ schema.fields, PlainName field) (h : insertStatement schema row = .ok statement) :
    tokens statement.text.toList = .name "INSERT" :: .name "INTO" :: .name schema.table :: .symbol '(' ::
      ([Token.symbol ','].intercalate
          (((schema.columns row).map fun column => Token.name column.1).map fun t => [t]) ++ .symbol ')' ::
        .name "VALUES" :: .symbol '(' :: ([Token.symbol ','].intercalate
          (((List.range (schema.columns row).length).map fun i => Token.parameter (0 + i + 1)).map fun t => [t]) ++
            .symbol ')' :: [])) := by
  obtain ⟨-, -, hpieces⟩ := pieces_insertStatement h
  have hcolumns : ∀ column ∈ schema.columns row, PlainName column.1 :=
    fun column hcolumn => hplain _ (mem_fields_of_mem_columns hcolumn)
  rw [text_toList, tokens_pieces (apart_insertStatement h), hpieces]
  simp [spaced, tokens_names hcolumns, Predicate.tokens_placeholders, tokens_name htable, Word.tokens, Word.text]

theorem zip_numbered (bound : Nat) (columns : List (String × Json)) :
    (columns.map Prod.fst).zip ((List.range columns.length).map fun i => Operand.parameter (bound + i + 1)) =
      numbered bound columns := by
  induction columns generalizing bound with
  | nil => rfl
  | cons column columns ih =>
    rw [List.map_cons, List.length_cons, List.range_succ_eq_map, List.map_cons, List.zip_cons_cons, numbered,
      ← ih (bound + 1), List.map_map]
    have hnumber : ∀ i, bound + (i + 1) + 1 = bound + 1 + i + 1 := fun i => by omega
    simp [Function.comp_def, hnumber]

/-- Columns with commas between them are read as operands. -/
theorem readItems_names {columns : List (String × Json)} (hne : columns ≠ []) (rest : List Token) :
    readItems ([Token.symbol ','].intercalate ((columns.map fun column => Token.name column.1).map fun t => [t]) ++
      .symbol ')' :: rest) = some (columns.map fun column => .column column.1, rest) := by
  refine readItems_commas (by simpa using hne) ?_ rest
  rw [List.forall₂_map_left_iff, List.forall₂_map_right_iff]
  exact List.forall₂_same.2 fun _ _ => rfl

theorem mapM_column? (columns : List (String × Json)) :
    (columns.map fun column => Operand.column column.1).mapM Operand.column? = some (columns.map Prod.fst) := by
  induction columns with
  | nil => rfl
  | cons column columns ih => simp [Operand.column?, ih]

/-- The statement that adds a row is read as the command to give each of its columns its parameter. -/
theorem readCommand?_insertStatement {statement : Statement} (htable : PlainName schema.table)
    (hplain : ∀ field ∈ schema.fields, PlainName field) (h : insertStatement schema row = .ok statement) :
    readCommand? (tokens statement.text.toList) = some (.insert schema.table (numbered 0 (schema.columns row))) := by
  obtain ⟨hne, -, -⟩ := pieces_insertStatement h
  rw [tokens_insertStatement htable hplain h]
  generalize schema.columns row = columns at hne
  have hitems := Predicate.readItems_placeholders 0 (columns.length - 1) []
  rw [Nat.sub_add_cancel (List.length_pos_of_ne_nil hne)] at hitems
  simp only [readCommand?, readInsert, readItems_names hne, hitems, mapM_column?, List.length_map, List.length_range,
    if_true, zip_numbered]

/-! ## Updates -/

/-- The tokens of assignments of columns to the placeholders behind the first `bound` parameters. -/
def assignmentTokens (bound : Nat) : List (String × Json) → List (List Token)
  | [] => []
  | column :: rest =>
    [.name column.1, .symbol '=', .parameter (bound + 1)] :: assignmentTokens (bound + 1) rest

theorem tokens_assignments {columns : List (String × Json)} (h : ∀ column ∈ columns, PlainName column.1) (bound : Nat) :
    (assignments bound columns).map (List.flatMap Piece.tokens) = assignmentTokens bound columns := by
  induction columns generalizing bound with
  | nil => rfl
  | cons column columns ih =>
    rw [assignments, List.map_cons, assignmentTokens, ih fun other hother => h other (List.mem_cons_of_mem _ hother)]
    simp [spaced, placeholders, tokens_name (h column (List.mem_cons_self ..)), Word.tokens]

theorem apart_assignments (bound : Nat) (columns : List (String × Json)) :
    ∀ part ∈ assignments bound columns, Apart part := by
  induction columns generalizing bound with
  | nil => exact fun _ h => nomatch h
  | cons column columns ih =>
    refine List.forall_mem_cons.2 ⟨?_, ih (bound + 1)⟩
    simp [Apart, spaced, placeholders, Piece.setsApart, separators]

/-- Assignments with commas between them are read up to the word WHERE. -/
theorem readAssignments_commas (column : String × Json) (columns : List (String × Json)) (bound : Nat)
    (rest : List Token) :
    readAssignments ([Token.symbol ','].intercalate (assignmentTokens bound (column :: columns)) ++
      .keyword .where :: rest) = some (numbered bound (column :: columns), .keyword .where :: rest) := by
  induction columns generalizing column bound with
  | nil => rfl
  | cons next columns ih =>
    have hrest := ih next (bound + 1)
    rw [assignmentTokens, assignmentTokens, List.intercalate_cons_cons, ← assignmentTokens, List.append_assoc,
      List.append_assoc]
    simp only [List.cons_append, List.nil_append, readAssignments, hrest, Operand.ofToken?]
    rfl

/-- The condition of the statement that overwrites a row with an identifying value: its own equality, behind the
parameters of the columns that it sets. -/
theorem pieces_updateStatement {statement : Statement} (h : updateStatement schema row = .ok statement) :
    ∃ id, row.value? schema.idField = some id ∧ statement.params = (updatedColumns schema row).map Prod.snd ++ [id] ∧
      statement.pieces = .word .update :: .word .space :: .name schema.table :: (spaced [.set] ++
        (commaSeparated (assignments 0 (updatedColumns schema row)) ++ (spaced [.where] ++
          (Predicate.equals schema.idField id).pieces (updatedColumns schema row).length))) := by
  unfold updateStatement at h
  split at h
  · cases h
  · rename_i id hid
    cases h
    exact ⟨id, hid, rfl, by simp [Predicate.pieces]⟩

theorem apart_updateStatement {statement : Statement} (h : updateStatement schema row = .ok statement) :
    Apart statement.pieces := by
  obtain ⟨id, -, -, hpieces⟩ := pieces_updateStatement h
  rw [hpieces]
  have hwhere : Apart (spaced [.where] ++ _) :=
    apart_spaced [.where] (Predicate.apart_pieces (.equals schema.idField id) (updatedColumns schema row).length)
  have hset := apart_append (apart_commaSeparated (apart_assignments 0 (updatedColumns schema row))) rfl hwhere
  exact apart_word (apart_append (List.isChain_singleton _) rfl (apart_spaced [.set] hset))

theorem tokens_updateStatement {statement : Statement} (htable : PlainName schema.table)
    (hplain : ∀ field ∈ schema.fields, PlainName field) (h : updateStatement schema row = .ok statement) :
    ∃ id, tokens statement.text.toList = .name "UPDATE" :: .name schema.table :: .name "SET" ::
      ([Token.symbol ','].intercalate (assignmentTokens 0 (updatedColumns schema row)) ++ .keyword .where ::
        ((Predicate.equals schema.idField id).pieces (updatedColumns schema row).length).flatMap Piece.tokens) := by
  obtain ⟨id, -, -, hpieces⟩ := pieces_updateStatement h
  refine ⟨id, ?_⟩
  have hcolumns : ∀ column ∈ updatedColumns schema row, PlainName column.1 :=
    fun column hcolumn => hplain _ (mem_fields_of_mem_columns (List.mem_of_mem_filter hcolumn))
  have hcomma : [Piece.word .comma, .word .space].flatMap Piece.tokens = [Token.symbol ','] := by
    simp [Word.tokens]
  rw [text_toList, tokens_pieces (apart_updateStatement h), hpieces]
  simp [spaced, commaSeparated, tokens_intercalate, hcomma, tokens_assignments hcolumns, tokens_name htable,
    Word.tokens, Word.text]

/-- The statement that overwrites a row is read as the command to give each of its columns but the identifying one
its parameter, wherever the identifying column equals the last parameter. -/
theorem readCommand?_updateStatement {statement : Statement} (htable : PlainName schema.table)
    (hplain : ∀ field ∈ schema.fields, PlainName field) (hne : updatedColumns schema row ≠ [])
    (h : updateStatement schema row = .ok statement) :
    readCommand? (tokens statement.text.toList) = some (.update schema.table (numbered 0 (updatedColumns schema row))
      (.equals (.column schema.idField) (.parameter ((updatedColumns schema row).length + 1)))) := by
  obtain ⟨id, htokens⟩ := tokens_updateStatement htable hplain h
  have hcondition : IsPart (((Predicate.equals schema.idField id).pieces (updatedColumns schema row).length).flatMap
      Piece.tokens) (.equals (.column schema.idField) (.parameter ((updatedColumns schema row).length + 1))) :=
    Predicate.isPart_pieces (.equals schema.idField id) _ fun field hfield =>
      List.mem_singleton.1 hfield ▸ hplain _ schema.idField_mem
  have hread := @readCondition_conjunction _ [] _ [] (.cons hcondition .nil) [] (by simp [Stops]) (by simp [Stops])
  rw [List.intercalate_singleton, List.append_nil] at hread
  rw [htokens]
  obtain ⟨column, columns, hupdated⟩ := List.exists_cons_of_ne_nil hne
  rw [hupdated] at hread ⊢
  simp only [readCommand?, readUpdate, readAssignments_commas, hread]
  rfl

end Write

end Taskboard
