/-
Placeholders and parameters in step. Read from left to right, the text of a statement shows the placeholders of
its pieces and no other question mark (`marks_textOf`). Those of a condition are numbered through behind the
parameters before it, however deep its parts are nested (`numbers_pieces`). So the placeholders of every statement
are numbered from one up to the number of its parameters, and each parameter is the value that belongs at its
placeholder (`statements_numbered`).
-/
import Taskboard.Board
import Taskboard.Proofs.Sql.Commands
import Taskboard.Proofs.Sql.Names
import Taskboard.Proofs.Sql.Statements

namespace Taskboard

namespace Sql

/-! ## Question marks in a text -/

/-- The placeholders of a text from left to right: each question mark with the digits behind it. -/
def marks : List Char → List String
  | [] => []
  | c :: rest =>
    if c = '?' then String.ofList (c :: rest.takeWhile Char.isDigit) :: marks rest else marks rest

/-- The placeholder of the parameter with a number. -/
def mark (number : Nat) : String :=
  "?" ++ toString number

theorem marks_append_of_notMem {text : List Char} (h : '?' ∉ text) (rest : List Char) :
    marks (text ++ rest) = marks rest := by
  induction text with
  | nil => rfl
  | cons c text ih =>
    rw [List.mem_cons, not_or] at h
    rw [List.cons_append, marks, if_neg (Ne.symm h.1), ih h.2]

/-- A placeholder is read up to its last digit. -/
theorem marks_mark {rest : List Char} (h : Breaks rest) (number : Nat) :
    marks ((mark number).toList ++ rest) = mark number :: marks rest := by
  have hdigit : ∀ c ∈ Nat.toDigits 10 number, c.isDigit = true :=
    fun c hc => Nat.isDigit_of_mem_toDigits (by decide) (by decide) hc
  have hmark : '?' ∉ Nat.toDigits 10 number := fun hmem => absurd (hdigit '?' hmem) (by decide)
  have hrest : rest.takeWhile Char.isDigit = [] := by
    rcases rest with _ | ⟨c, rest⟩
    · rfl
    · have hword : isWordChar c = false := h c rfl
      refine List.takeWhile_cons_of_neg fun hc => ?_
      simp [isWordChar, isNameChar, Char.isAlphanum, hc] at hword
  have htext : (mark number).toList = '?' :: Nat.toDigits 10 number := placeholder_toList number
  rw [htext, List.cons_append, marks, if_pos rfl, marks_append_of_notMem hmark,
    List.takeWhile_append_of_pos hdigit, hrest, List.append_nil, ← htext, String.ofList_toList]

/-! ## Placeholders among pieces -/

/-- The number of a placeholder. -/
def Piece.number? : Piece → Option Nat
  | .placeholder number => some number
  | _ => none

/-- The numbers of the placeholders among some pieces, from left to right. -/
def numbers (pieces : List Piece) : List Nat :=
  pieces.filterMap Piece.number?

/-- Where pieces are set apart and no name has a question mark, those of their text are their placeholders. -/
theorem marks_textOf {names : List String} (hnames : ∀ name ∈ names, '?' ∉ name.toList) {pieces : List Piece}
    (hwithin : NamesWithin names pieces) (hapart : Apart pieces) :
    marks (textOf pieces) = (numbers pieces).map mark := by
  induction pieces with
  | nil => rfl
  | cons piece rest ih =>
    have htext : textOf (piece :: rest) = piece.text.toList ++ textOf rest := rfl
    have hrest : marks (textOf rest) = (numbers rest).map mark :=
      ih (fun name hname => hwithin name (List.mem_cons_of_mem _ hname)) hapart.of_cons
    rw [htext]
    cases piece with
    | word word =>
      have hword : '?' ∉ word.text.toList := by
        cases word <;> decide +kernel
      rw [Piece.text, marks_append_of_notMem hword, hrest]
      rfl
    | name name =>
      rw [Piece.text, marks_append_of_notMem (hnames name (hwithin name (List.mem_cons_self ..))), hrest]
      rfl
    | placeholder number =>
      have hbreaks : Breaks (textOf rest) := by
        rcases rest with _ | ⟨next, rest⟩
        · simp [Breaks, textOf]
        · exact breaks_of_setsApart ((List.isChain_cons_cons.1 hapart).1.resolve_left Bool.false_ne_true) _
      exact (marks_mark hbreaks number).trans (by rw [hrest]; rfl)

/-! ## Pieces behind others -/

/-- Pieces that can stand behind any others that are set apart. -/
structure Follows (pieces : List Piece) : Prop where
  apart : Apart pieces
  setsApart : ∀ piece ∈ pieces.head?, piece.setsApart = true

theorem follows_nil : Follows [] :=
  ⟨List.isChain_nil, fun _ h => nomatch h⟩

theorem follows_spaced (word : Word) (words : List Word) {rest : List Piece} (h : Apart rest) :
    Follows (spaced (word :: words) ++ rest) := by
  refine ⟨apart_spaced _ h, fun piece hpiece => ?_⟩
  cases hpiece
  rfl

theorem apart_append_of_follows {pieces rest : List Piece} (h : Apart pieces) (hrest : Follows rest) :
    Apart (pieces ++ rest) :=
  List.isChain_append.2 ⟨h, hrest.apart, fun _ _ _ hnext => .inr (hrest.setsApart _ hnext)⟩

theorem Follows.append {pieces rest : List Piece} (h : Follows pieces) (hrest : Follows rest) :
    Follows (pieces ++ rest) := by
  refine ⟨apart_append_of_follows h.apart hrest, fun piece hpiece => ?_⟩
  rw [List.head?_append, Option.mem_def, Option.or_eq_some_iff] at hpiece
  exact hpiece.elim (h.setsApart piece) fun hpiece => hrest.setsApart piece hpiece.2

/-! ## Numbers in order -/

@[simp] theorem numbers_nil : numbers [] = [] := rfl

@[simp] theorem numbers_word (word : Word) (rest : List Piece) : numbers (.word word :: rest) = numbers rest := rfl

@[simp] theorem numbers_name (name : String) (rest : List Piece) : numbers (.name name :: rest) = numbers rest := rfl

@[simp] theorem numbers_append (pieces rest : List Piece) :
    numbers (pieces ++ rest) = numbers pieces ++ numbers rest :=
  List.filterMap_append

@[simp] theorem numbers_spaced (words : List Word) : numbers (spaced words) = [] := by
  induction words with
  | nil => rfl
  | cons word rest ih => exact ih

theorem placeholders_eq (bound count : Nat) :
    placeholders bound count = (List.range' (bound + 1) count).map .placeholder := by
  rw [placeholders, List.range'_eq_map_range, List.map_map]
  exact List.map_congr_left fun i _ => congrArg Piece.placeholder (Nat.add_right_comm ..)

@[simp] theorem numbers_placeholders (bound count : Nat) :
    numbers (placeholders bound count) = List.range' (bound + 1) count := by
  rw [placeholders_eq, numbers, List.filterMap_map]
  exact List.filterMap_some

theorem numbers_intercalate {sep : List Piece} (hsep : numbers sep = []) (parts : List (List Piece)) :
    numbers (sep.intercalate parts) = parts.flatMap numbers := by
  induction parts with
  | nil => rfl
  | cons part parts ih =>
    cases parts with
    | nil => rw [List.intercalate_singleton, List.flatMap_singleton]
    | cons next parts =>
      rw [List.intercalate_cons_cons, numbers_append, numbers_append, ih, hsep, List.append_nil]
      rfl

@[simp] theorem numbers_commaSeparated (parts : List (List Piece)) :
    numbers (commaSeparated parts) = parts.flatMap numbers :=
  numbers_intercalate rfl parts

theorem numbers_items (bound count : Nat) :
    ((placeholders bound count).map fun p => [p]).flatMap numbers = List.range' (bound + 1) count := by
  rw [placeholders_eq, List.map_map, List.flatMap_map]
  exact List.flatMap_singleton' _

end Sql

open Sql

/-- Read from left to right, the placeholders in the text of a statement are numbered from one up to the number of
its parameters. -/
def Statement.Numbered (statement : Statement) : Prop :=
  marks statement.text.toList = (List.range' 1 statement.params.length).map mark

theorem Statement.numbered_of_numbers {statement : Statement} {names : List String}
    (hnames : ∀ name ∈ names, '?' ∉ name.toList) (hwithin : NamesWithin names statement.pieces)
    (hapart : Apart statement.pieces) (h : numbers statement.pieces = List.range' 1 statement.params.length) :
    statement.Numbered := by
  unfold Statement.Numbered
  rw [text_toList, marks_textOf hnames hwithin hapart, h]

/-! ## Conditions -/

namespace Predicate

mutual

/-- The conditions that a condition is put together of, depth first and from left to right. -/
def leaves : Predicate → List Predicate
  | .all parts => leavesOfParts parts
  | .any parts => leavesOfParts parts
  | .never => [.never]
  | .equals field value => [.equals field value]
  | .differs field value => [.differs field value]
  | .among field values => [.among field values]
  | .missing field => [.missing field]
  | .present field => [.present field]

/-- The conditions that several conditions are put together of. -/
def leavesOfParts : List Predicate → List Predicate
  | [] => []
  | part :: rest => part.leaves ++ leavesOfParts rest

end

/-- The values that a single comparison compares with. -/
def compared : Predicate → List Json
  | .equals _ value | .differs _ value => [value]
  | .among _ values => values
  | _ => []

theorem leavesOfParts_eq_flatMap (parts : List Predicate) : leavesOfParts parts = parts.flatMap leaves := by
  induction parts with
  | nil => rfl
  | cons part rest ih => rw [leavesOfParts, ih, List.flatMap_cons]

mutual

/-- The values of a condition are those that its leaves compare with. -/
theorem flatMap_compared_leaves (p : Predicate) : p.leaves.flatMap compared = p.values := by
  cases p with
  | all parts => exact flatMap_compared_leavesOfParts parts
  | any parts => exact flatMap_compared_leavesOfParts parts
  | _ => exact List.flatMap_singleton ..

theorem flatMap_compared_leavesOfParts (parts : List Predicate) :
    (leavesOfParts parts).flatMap compared = valuesOfParts parts := by
  cases parts with
  | nil => rfl
  | cons part rest =>
    rw [leavesOfParts, List.flatMap_append, flatMap_compared_leaves part, flatMap_compared_leavesOfParts rest,
      valuesOfParts]

end

theorem numbers_group {joint : Word} {empty : List Piece} (hempty : numbers empty = [])
    (parts : List (List Piece)) : numbers (group joint empty parts) = parts.flatMap numbers := by
  cases parts with
  | nil => exact hempty
  | cons part rest =>
    have hjoined := numbers_intercalate (numbers_spaced [joint]) (part :: rest)
    simp [group, hjoined]

mutual

/-- The placeholders of a condition are numbered through behind the first `bound` parameters. -/
theorem numbers_pieces (p : Predicate) (bound : Nat) :
    numbers (p.pieces bound) = List.range' (bound + 1) p.values.length := by
  cases p with
  | never => rfl
  | equals | differs => simp [pieces, values]
  | missing | present => rfl
  | among field values =>
    cases values with
    | nil => rfl
    | cons value rest => simp [pieces, Predicate.values, numbers_items]
  | all parts => exact (numbers_group rfl _).trans (numbers_piecesOfParts parts bound)
  | any parts => exact (numbers_group rfl _).trans (numbers_piecesOfParts parts bound)

theorem numbers_piecesOfParts (parts : List Predicate) (bound : Nat) :
    (piecesOfParts bound parts).flatMap numbers = List.range' (bound + 1) (valuesOfParts parts).length := by
  cases parts with
  | nil => rfl
  | cons part rest =>
    -- The first part takes as many numbers as it has values, and the others go on behind them.
    rw [piecesOfParts, List.flatMap_cons, numbers_pieces part, numbers_piecesOfParts rest, valuesOfParts,
      List.length_append, Nat.add_right_comm, List.range'_append_1]

end

end Predicate

/-! ## Plans -/

namespace Plan

variable (plan : Plan)

theorem numbers_wherePieces : numbers plan.wherePieces = List.range' 1 plan.whereParams.length := by
  have hjoined := numbers_intercalate (numbers_spaced [.and]) (Predicate.piecesOfParts 0 plan.predicates)
  rw [Predicate.numbers_piecesOfParts] at hjoined
  unfold wherePieces whereParams
  split
  · rename_i hnone
    rw [hnone]
    rfl
  · simpa using hjoined

theorem numbers_orderPieces : numbers plan.orderPieces = [] := by
  unfold orderPieces
  split
  · rfl
  · simp [sortPieces]

theorem numbers_boundPieces (bound : Nat) :
    numbers (plan.boundPieces bound) = List.range' (bound + 1) plan.boundParams.length := by
  unfold boundPieces boundParams
  cases plan.limit? <;> cases plan.offset? <;> simp [List.range'_succ]

theorem numbers_selectStatement :
    numbers plan.selectStatement.pieces = List.range' 1 plan.selectStatement.params.length := by
  have hparams : plan.selectStatement.params.length = plan.whereParams.length + plan.boundParams.length :=
    List.length_append
  rw [hparams, ← List.range'_append_1, Nat.add_comm 1, ← numbers_wherePieces, ← numbers_boundPieces]
  simp [selectStatement, numbers_orderPieces]

theorem numbers_countStatement :
    numbers plan.countStatement.pieces = List.range' 1 plan.countStatement.params.length := by
  show _ = List.range' 1 plan.whereParams.length
  rw [← numbers_wherePieces]
  simp [countStatement]

theorem whereParams_eq :
    plan.whereParams = (plan.predicates.flatMap Predicate.leaves).flatMap Predicate.compared := by
  rw [whereParams, ← Predicate.flatMap_compared_leavesOfParts, Predicate.leavesOfParts_eq_flatMap]

/-! ### Pieces set apart -/

theorem follows_wherePieces : Follows plan.wherePieces := by
  unfold wherePieces
  split
  · exact follows_nil
  · exact follows_spaced .where [] (apart_joined (Predicate.apart_parts plan.predicates 0))

theorem follows_orderPieces : Follows plan.orderPieces := by
  unfold orderPieces
  split
  · exact follows_nil
  · refine follows_spaced .order [.by] (apart_commaSeparated fun part hpart => ?_)
    obtain ⟨term, -, rfl⟩ := List.mem_map.1 hpart
    cases term.direction <;> simp [Apart, sortPieces, Piece.setsApart, separators]

theorem follows_boundPieces (bound : Nat) : Follows (plan.boundPieces bound) := by
  unfold boundPieces
  split <;> constructor <;> simp [Apart, spaced, placeholders, Piece.setsApart, separators]

theorem apart_selectStatement : Apart plan.selectStatement.pieces := by
  have htail := plan.follows_wherePieces.append
    (plan.follows_orderPieces.append (plan.follows_boundPieces plan.whereParams.length))
  have hpieces : plan.selectStatement.pieces = ([.word .select, .word .space, .word .star] ++ spaced [.from] ++
      [.name plan.schema.table]) ++ (plan.wherePieces ++ (plan.orderPieces ++
        plan.boundPieces plan.whereParams.length)) := by
    simp [selectStatement]
  rw [hpieces]
  refine apart_append_of_follows ?_ htail
  simp [Apart, spaced, Piece.setsApart, separators]

theorem apart_countStatement : Apart plan.countStatement.pieces := by
  have hpieces : plan.countStatement.pieces = ([.word .select, .word .space, .word .count, .word .opening,
      .word .star, .word .closing] ++ spaced [.as] ++ .word .countName :: spaced [.from] ++
      [.name plan.schema.table]) ++ plan.wherePieces := by
    simp [countStatement]
  rw [hpieces]
  refine apart_append_of_follows ?_ plan.follows_wherePieces
  simp [Apart, spaced, Piece.setsApart, separators]

end Plan

/-! ## The texts of writes -/

/-- The columns of a table that an update by a row sets: those that the row has, but for the identifying one. -/
def Schema.setBy (schema : Schema) (row : Record) : List String :=
  (schema.heldBy row).filter (· != schema.idField)

namespace Sql

/-- The text of some pieces. -/
def joined (pieces : List Piece) : String :=
  String.join (pieces.map Piece.text)

theorem joined_append (pieces rest : List Piece) : joined (pieces ++ rest) = joined pieces ++ joined rest := by
  rw [joined, List.map_append, String.join_append]
  rfl

theorem joined_singleton (piece : Piece) : joined [piece] = piece.text := by
  rw [joined, List.map_singleton, String.join_cons, String.join_nil, String.append_empty]

theorem joined_name (name : String) (rest : List Piece) : joined (.name name :: rest) = name ++ joined rest :=
  String.join_cons

theorem joined_commaSeparated (parts : List (List Piece)) :
    joined (commaSeparated parts) = ", ".intercalate (parts.map joined) := by
  induction parts with
  | nil => rfl
  | cons part parts ih =>
    cases parts with
    | nil => rw [commaSeparated, List.intercalate_singleton, List.map_singleton, String.intercalate_singleton]
    | cons next parts =>
      have hcomma : joined [.word .comma, .word .space] = ", " := rfl
      rw [commaSeparated, List.intercalate_cons_cons, ← commaSeparated, joined_append, joined_append, ih, hcomma]
      exact String.intercalate_cons_cons.symm

theorem joined_items (bound count : Nat) : joined (commaSeparated ((placeholders bound count).map fun p => [p])) =
    ", ".intercalate ((List.range' (bound + 1) count).map mark) := by
  rw [joined_commaSeparated, placeholders_eq, List.map_map, List.map_map]
  exact congrArg _ (List.map_congr_left fun number _ => joined_singleton (.placeholder number))

end Sql

namespace Write

variable {schema : Schema} {row : Record} {statement : Statement}

theorem joined_names (columns : List (String × Json)) :
    joined (commaSeparated (columns.map namePiece)) = ", ".intercalate (columns.map Prod.fst) := by
  rw [joined_commaSeparated, List.map_map]
  exact congrArg _ (List.map_congr_left fun column _ => joined_singleton (.name column.1))

theorem joined_assignments (bound : Nat) (columns : List (String × Json)) :
    (assignments bound columns).map joined =
      ((columns.map Prod.fst).zipIdx (bound + 1)).map fun assigned => assigned.1 ++ " = " ++ mark assigned.2 := by
  induction columns generalizing bound with
  | nil => rfl
  | cons column columns ih =>
    have hequals : joined (spaced [.equals]) = " = " := rfl
    have hmark : joined (placeholders bound 1) = mark (bound + 1) := joined_singleton (.placeholder (bound + 1))
    rw [assignments, List.map_cons, ih, List.cons_append, joined_name, joined_append, hequals, hmark,
      ← String.append_assoc]
    rfl

theorem map_fst_updatedColumns (schema : Schema) (row : Record) :
    (updatedColumns schema row).map Prod.fst = schema.setBy row := by
  rw [Schema.setBy, ← schema.map_fst_columns, List.filter_map]
  rfl

/-- The statement that adds a row lists its columns, and as many placeholders in the same order. -/
theorem text_insertStatement (h : insertStatement schema row = .ok statement) : statement.text =
    "INSERT INTO " ++ schema.table ++ " (" ++ ", ".intercalate (schema.heldBy row) ++ ") VALUES (" ++
      ", ".intercalate ((List.range' 1 (schema.heldBy row).length).map mark) ++ ")" := by
  obtain ⟨-, -, hpieces⟩ := pieces_insertStatement h
  have hgroups : statement.pieces = [.word .insert, .word .space, .word .into, .word .space] ++
      .name schema.table :: ([.word .space, .word .opening] ++ (commaSeparated ((schema.columns row).map namePiece) ++
        ([.word .closing, .word .space, .word .values, .word .space, .word .opening] ++
          (commaSeparated ((placeholders 0 (schema.columns row).length).map fun p => [p]) ++ [.word .closing])))) := by
    rw [hpieces]
    simp [spaced]
  have hinsert : joined [.word .insert, .word .space, .word .into, .word .space] = "INSERT INTO " := rfl
  have hopening : joined [.word .space, .word .opening] = " (" := rfl
  have hvalues : joined [.word .closing, .word .space, .word .values, .word .space, .word .opening] = ") VALUES (" :=
    rfl
  have hclosing : joined [.word .closing] = ")" := rfl
  show joined statement.pieces = _
  rw [hgroups, joined_append, joined_name, joined_append, joined_append, joined_append, joined_append, joined_names,
    joined_items, hinsert, hopening, hvalues, hclosing, ← schema.map_fst_columns, List.length_map]
  simp only [String.append_assoc]

/-- The statement that overwrites a row sets each of its other columns to a placeholder, in order, and finds the row
by the placeholder behind them. -/
theorem text_updateStatement (h : updateStatement schema row = .ok statement) : statement.text =
    "UPDATE " ++ schema.table ++ " SET " ++
      ", ".intercalate (((schema.setBy row).zipIdx 1).map fun assigned => assigned.1 ++ " = " ++ mark assigned.2) ++
      " WHERE " ++ schema.idField ++ " = " ++ mark ((schema.setBy row).length + 1) := by
  obtain ⟨id, -, -, hpieces⟩ := pieces_updateStatement h
  have hgroups : statement.pieces = [.word .update, .word .space] ++ .name schema.table :: (spaced [.set] ++
      (commaSeparated (assignments 0 (updatedColumns schema row)) ++ (spaced [.where] ++
        .name schema.idField :: (spaced [.equals] ++ placeholders (updatedColumns schema row).length 1)))) := by
    rw [hpieces]
    simp [Predicate.pieces]
  have hupdate : joined [.word .update, .word .space] = "UPDATE " := rfl
  have hset : joined (spaced [.set]) = " SET " := rfl
  have hwhere : joined (spaced [.where]) = " WHERE " := rfl
  have hequals : joined (spaced [.equals]) = " = " := rfl
  have hmark : joined (placeholders (updatedColumns schema row).length 1) =
      mark ((updatedColumns schema row).length + 1) := joined_singleton (.placeholder _)
  show joined statement.pieces = _
  rw [hgroups, joined_append, joined_name, joined_append, joined_append, joined_append, joined_name, joined_append,
    joined_commaSeparated, joined_assignments, hupdate, hset, hwhere, hequals, hmark, ← map_fst_updatedColumns,
    List.length_map]
  simp only [String.append_assoc]

/-! ### Placeholders of writes -/

theorem namesWithin_insertStatement (h : insertStatement schema row = .ok statement) :
    NamesWithin (schema.table :: schema.fields) statement.pieces := by
  obtain ⟨-, -, hpieces⟩ := pieces_insertStatement h
  have hnames : NamesWithin (schema.table :: schema.fields) (commaSeparated ((schema.columns row).map namePiece)) := by
    refine namesWithin_commaSeparated fun part hpart => ?_
    obtain ⟨column, hcolumn, rfl⟩ := List.mem_map.1 hpart
    simp [namePiece, mem_fields_of_mem_columns hcolumn]
  rw [hpieces]
  simp [hnames]

theorem numbers_insertStatement (h : insertStatement schema row = .ok statement) :
    numbers statement.pieces = List.range' 1 statement.params.length := by
  obtain ⟨-, hparams, hpieces⟩ := pieces_insertStatement h
  have hnames : ((schema.columns row).map namePiece).flatMap numbers = [] := by
    refine List.flatMap_eq_nil_iff.2 fun part hpart => ?_
    obtain ⟨column, -, rfl⟩ := List.mem_map.1 hpart
    rfl
  rw [hpieces, hparams, List.length_map]
  simp [hnames, numbers_items]

theorem namesWithin_assignments {names : List String} (bound : Nat) {columns : List (String × Json)}
    (h : ∀ column ∈ columns, column.1 ∈ names) : ∀ part ∈ assignments bound columns, NamesWithin names part := by
  induction columns generalizing bound with
  | nil => exact fun _ hpart => nomatch hpart
  | cons column columns ih =>
    refine List.forall_mem_cons.2 ⟨?_, ih _ fun other hother => h other (List.mem_cons_of_mem _ hother)⟩
    simp [h column (List.mem_cons_self ..)]

theorem numbers_assignments (bound : Nat) (columns : List (String × Json)) :
    (assignments bound columns).flatMap numbers = List.range' (bound + 1) columns.length := by
  induction columns generalizing bound with
  | nil => rfl
  | cons column columns ih =>
    rw [assignments, List.flatMap_cons, ih]
    simp [List.range'_succ]

theorem namesWithin_updateStatement (h : updateStatement schema row = .ok statement) :
    NamesWithin (schema.table :: schema.fields) statement.pieces := by
  obtain ⟨id, -, -, hpieces⟩ := pieces_updateStatement h
  have hset : NamesWithin (schema.table :: schema.fields)
      (commaSeparated (assignments 0 (updatedColumns schema row))) :=
    namesWithin_commaSeparated (namesWithin_assignments 0 fun column hcolumn =>
      List.mem_cons_of_mem _ (mem_fields_of_mem_columns (List.mem_of_mem_filter hcolumn)))
  rw [hpieces]
  simp [hset, Predicate.pieces, schema.idField_mem]

theorem numbers_updateStatement (h : updateStatement schema row = .ok statement) :
    numbers statement.pieces = List.range' 1 statement.params.length := by
  obtain ⟨id, -, hparams, hpieces⟩ := pieces_updateStatement h
  rw [hpieces, hparams, List.length_append, List.length_map, List.length_singleton, List.range'_1_concat]
  simp [Predicate.pieces, numbers_assignments, Nat.add_comm]

/-- The values of columns are those that the row has under their names. -/
theorem map_some_snd {columns : List (String × Json)} (h : columns ⊆ schema.columns row) :
    (columns.map Prod.snd).map some = (columns.map Prod.fst).map (row.lookup ·) := by
  rw [List.map_map, List.map_map]
  exact List.map_congr_left fun column hcolumn => (Schema.lookup_of_mem_columns (h hcolumn)).symm

end Write

/-- Of every statement the placeholders in its text are numbered from one up to the number of its parameters, as long
as no name has a question mark. The parameters of a plan are the values that its comparisons compare with, depth first
and from left to right, and behind them its bounds where the rows are asked for. Those of a write are the values of
the columns that it lists or sets, in the order of the table, and each stands at its own placeholder; an update has
the identifying value behind them. -/
theorem statements_numbered {plan : Plan} (hplan : ∀ name ∈ plan.schema.table :: plan.fields, '?' ∉ name.toList)
    {schema : Schema} (hschema : ∀ name ∈ schema.table :: schema.fields, '?' ∉ name.toList) (row : Record) :
    (plan.selectStatement.Numbered ∧ plan.selectStatement.params =
      (plan.predicates.flatMap Predicate.leaves).flatMap Predicate.compared ++
        plan.limit?.toList.map Json.ofNat ++ plan.offset?.toList.map Json.ofNat) ∧
    (plan.countStatement.Numbered ∧ plan.countStatement.params =
      (plan.predicates.flatMap Predicate.leaves).flatMap Predicate.compared) ∧
    (∀ statement, Write.insertStatement schema row = .ok statement → statement.Numbered ∧
      statement.text = "INSERT INTO " ++ schema.table ++ " (" ++ ", ".intercalate (schema.heldBy row) ++
        ") VALUES (" ++ ", ".intercalate ((List.range' 1 (schema.heldBy row).length).map mark) ++ ")" ∧
      statement.params.map some = (schema.heldBy row).map (row.lookup ·)) ∧
    ∀ statement, Write.updateStatement schema row = .ok statement → statement.Numbered ∧
      statement.text = "UPDATE " ++ schema.table ++ " SET " ++
        ", ".intercalate (((schema.setBy row).zipIdx 1).map fun assigned => assigned.1 ++ " = " ++ mark assigned.2) ++
        " WHERE " ++ schema.idField ++ " = " ++ mark ((schema.setBy row).length + 1) ∧
      statement.params.map some = (schema.setBy row ++ [schema.idField]).map (row.lookup ·) := by
  refine ⟨⟨?_, ?_⟩, ⟨?_, plan.whereParams_eq⟩, fun statement h => ⟨?_, Write.text_insertStatement h, ?_⟩,
    fun statement h => ⟨?_, Write.text_updateStatement h, ?_⟩⟩
  · exact Statement.numbered_of_numbers hplan plan.namesWithin_selectStatement plan.apart_selectStatement
      plan.numbers_selectStatement
  · rw [← plan.whereParams_eq, List.append_assoc, ← List.map_append]
    rfl
  · exact Statement.numbered_of_numbers hplan plan.namesWithin_countStatement plan.apart_countStatement
      plan.numbers_countStatement
  · exact Statement.numbered_of_numbers hschema (Write.namesWithin_insertStatement h)
      (Write.apart_insertStatement h) (Write.numbers_insertStatement h)
  · obtain ⟨-, hparams, -⟩ := Write.pieces_insertStatement h
    rw [hparams, Write.map_some_snd (List.Subset.refl _), schema.map_fst_columns]
  · exact Statement.numbered_of_numbers hschema (Write.namesWithin_updateStatement h)
      (Write.apart_updateStatement h) (Write.numbers_updateStatement h)
  · obtain ⟨id, hid, hparams, -⟩ := Write.pieces_updateStatement h
    have hlookup : row.lookup schema.idField = some id := (Option.filter_eq_some_iff.1 hid).1
    have hset : Write.updatedColumns schema row ⊆ schema.columns row := fun _ => List.mem_of_mem_filter
    rw [hparams, List.map_append, List.map_append, Write.map_some_snd hset,
      Write.map_fst_updatedColumns, List.map_singleton, List.map_singleton, hlookup]

/-- Done or urgent tasks from the eleventh on. -/
def laterDoneOrUrgent : Plan :=
  Plan.doneOrUrgent.drop 10

/-- A board with a new name, and with a column that boards do not have. -/
def renamed : Record :=
  [("created_at", .string "2024-01-01"), ("floor", .ofNat 2), ("id", .string "b1"), ("name", .string "Home?")]

theorem statements_numbered_renamed :
    (∀ name ∈ laterDoneOrUrgent.schema.table :: laterDoneOrUrgent.fields, '?' ∉ name.toList) ∧
    (∀ name ∈ Board.schema.table :: Board.schema.fields, '?' ∉ name.toList) ∧
    laterDoneOrUrgent.selectStatement.Numbered ∧ laterDoneOrUrgent.selectStatement.params.length = 6 ∧
    ∃ added set, Write.insertStatement Board.schema renamed = .ok added ∧ added.Numbered ∧
      added.text = "INSERT INTO boards (id, name, created_at) VALUES (?1, ?2, ?3)" ∧
      Write.updateStatement Board.schema renamed = .ok set ∧ set.Numbered ∧
      set.text = "UPDATE boards SET name = ?1, created_at = ?2 WHERE id = ?3" := by
  have hplan : ∀ name ∈ laterDoneOrUrgent.schema.table :: laterDoneOrUrgent.fields, '?' ∉ name.toList := by
    decide +kernel
  have hschema : ∀ name ∈ Board.schema.table :: Board.schema.fields, '?' ∉ name.toList := by
    decide +kernel
  obtain ⟨⟨hselect, hparams⟩, -, hinsert, hupdate⟩ := statements_numbered hplan hschema renamed
  refine ⟨hplan, hschema, hselect, by rw [hparams]; rfl, _, _, rfl, (hinsert _ rfl).1, ?_, rfl, (hupdate _ rfl).1, ?_⟩
  · rw [(hinsert _ rfl).2.1]
    decide +kernel
  · rw [(hupdate _ rfl).2.1]
    decide +kernel

end Taskboard
