/-
Names in statements. Besides fixed words and placeholders, the text of a plan holds only the name of
its table and names of columns that the plan speaks of, which are just those that are checked before a
store is asked (`madeOf_selectStatement`, `madeOf_countStatement`).
-/
import Taskboard.Query.Statement

namespace Taskboard

/-! ## Pieces -/

namespace Sql

/-- Pieces whose names are all among some names. -/
def NamesWithin (names : List String) (pieces : List Piece) : Prop :=
  ∀ name, .name name ∈ pieces → name ∈ names

/-- A text of fixed words and symbols, of placeholders, and of some names. -/
def MadeOf (names : List String) (text : String) : Prop :=
  ∃ pieces : List Piece, text = String.join (pieces.map Piece.text) ∧ NamesWithin names pieces

section NamesWithin

variable {names : List String} {pieces rest : List Piece}

theorem NamesWithin.mono {names' : List String} (h : NamesWithin names pieces) (hsub : names ⊆ names') :
    NamesWithin names' pieces :=
  fun name hname => hsub (h name hname)

theorem MadeOf.mono {names' : List String} {text : String} (h : MadeOf names text) (hsub : names ⊆ names') :
    MadeOf names' text := by
  obtain ⟨pieces, htext, hnames⟩ := h
  exact ⟨pieces, htext, hnames.mono hsub⟩

@[simp] theorem namesWithin_nil : NamesWithin names [] := by
  simp [NamesWithin]

@[simp] theorem namesWithin_word (word : Word) : NamesWithin names (.word word :: rest) ↔ NamesWithin names rest := by
  simp [NamesWithin]

@[simp] theorem namesWithin_placeholder (number : Nat) :
    NamesWithin names (.placeholder number :: rest) ↔ NamesWithin names rest := by
  simp [NamesWithin]

@[simp] theorem namesWithin_name (name : String) :
    NamesWithin names (.name name :: rest) ↔ name ∈ names ∧ NamesWithin names rest := by
  simp [NamesWithin]

@[simp] theorem namesWithin_append :
    NamesWithin names (pieces ++ rest) ↔ NamesWithin names pieces ∧ NamesWithin names rest := by
  simp only [NamesWithin, List.mem_append, or_imp, forall_and]

@[simp] theorem namesWithin_spaced (words : List Word) : NamesWithin names (spaced words) := by
  induction words with
  | nil => simp [spaced]
  | cons word rest ih => simp [spaced, ih]

@[simp] theorem namesWithin_placeholders (bound count : Nat) : NamesWithin names (placeholders bound count) := by
  simp [NamesWithin, placeholders]

theorem namesWithin_intercalate {sep : List Piece} (hsep : NamesWithin names sep) {parts : List (List Piece)}
    (h : ∀ part ∈ parts, NamesWithin names part) : NamesWithin names (sep.intercalate parts) := by
  induction parts with
  | nil => simp
  | cons part parts ih =>
    have hpart : NamesWithin names part := h part (List.mem_cons_self ..)
    have hrest : NamesWithin names (sep.intercalate parts) :=
      ih fun other hother => h other (List.mem_cons_of_mem _ hother)
    cases parts with
    | nil => rwa [List.intercalate_singleton]
    | cons next parts =>
      rw [List.intercalate_cons_cons]
      simp [hpart, hsep, hrest]

theorem namesWithin_commaSeparated {parts : List (List Piece)} (h : ∀ part ∈ parts, NamesWithin names part) :
    NamesWithin names (commaSeparated parts) :=
  namesWithin_intercalate (by simp) h

@[simp] theorem namesWithin_items (bound count : Nat) :
    NamesWithin names (commaSeparated ((placeholders bound count).map fun p => [p])) :=
  namesWithin_commaSeparated (by simp [placeholders])

end NamesWithin

end Sql

open Sql

/-! ## Conditions -/

namespace Predicate

theorem namesWithin_group {names : List String} {joint : Word} {empty : List Piece}
    (hempty : NamesWithin names empty) {parts : List (List Piece)} (h : ∀ part ∈ parts, NamesWithin names part) :
    NamesWithin names (group joint empty parts) := by
  cases parts with
  | nil => exact hempty
  | cons part rest =>
    have hjoined := namesWithin_intercalate (namesWithin_spaced [joint]) h
    simp [group, hjoined]

mutual

/-- Every name that a condition puts into a statement is one of its columns. -/
theorem namesWithin_pieces (p : Predicate) (bound : Nat) : NamesWithin p.fields (p.pieces bound) := by
  cases p with
  | never => simp [pieces, falsehood]
  | equals | differs | missing | present => simp [pieces, fields]
  | among field values =>
    cases values with
    | nil => simp [pieces, falsehood]
    | cons value rest => simp [pieces, fields]
  | all parts => exact namesWithin_group (by simp [Predicate.truth]) (namesWithin_piecesOfParts parts bound)
  | any parts => exact namesWithin_group (by simp [falsehood]) (namesWithin_piecesOfParts parts bound)

theorem namesWithin_piecesOfParts (parts : List Predicate) (bound : Nat) :
    ∀ pieces ∈ piecesOfParts bound parts, NamesWithin (fieldsOfParts parts) pieces := by
  cases parts with
  | nil => simp [piecesOfParts]
  | cons part rest =>
    intro pieces hpieces
    rcases List.mem_cons.1 hpieces with rfl | hrest
    · exact (namesWithin_pieces part bound).mono (List.subset_append_left ..)
    · exact (namesWithin_piecesOfParts rest _ pieces hrest).mono (List.subset_append_right ..)

end

end Predicate

/-! ## Plans -/

namespace Plan

variable (plan : Plan)

theorem namesWithin_wherePieces : NamesWithin plan.fields plan.wherePieces := by
  have hparts := Predicate.namesWithin_piecesOfParts plan.predicates 0
  have hjoined := (namesWithin_intercalate (namesWithin_spaced [.and]) hparts).mono
    (List.subset_append_left _ (plan.sortTerms.map SortTerm.field))
  unfold wherePieces
  split
  · simp
  · simpa [fields] using hjoined

theorem namesWithin_orderPieces : NamesWithin plan.fields plan.orderPieces := by
  have hterms : NamesWithin plan.fields (commaSeparated (plan.sortTerms.map sortPieces)) := by
    refine namesWithin_commaSeparated fun part hpart => ?_
    obtain ⟨term, hterm, rfl⟩ := List.mem_map.1 hpart
    have hfield : term.field ∈ plan.fields := List.mem_append_right _ (List.mem_map_of_mem hterm)
    simp [sortPieces, hfield]
  unfold orderPieces
  split
  · simp
  · simpa using hterms

theorem namesWithin_boundPieces (names : List String) (bound : Nat) : NamesWithin names (plan.boundPieces bound) := by
  unfold boundPieces
  split <;> simp

theorem namesWithin_selectStatement :
    NamesWithin (plan.schema.table :: plan.fields) plan.selectStatement.pieces := by
  have hwhere := plan.namesWithin_wherePieces.mono (List.subset_cons_self plan.schema.table _)
  have horder := plan.namesWithin_orderPieces.mono (List.subset_cons_self plan.schema.table _)
  simp [selectStatement, hwhere, horder, namesWithin_boundPieces]

theorem namesWithin_countStatement : NamesWithin (plan.schema.table :: plan.fields) plan.countStatement.pieces := by
  have hwhere := plan.namesWithin_wherePieces.mono (List.subset_cons_self plan.schema.table _)
  simp [countStatement, hwhere]

/-- The names of a statement are that of the table and those of the columns that the plan speaks of. -/
theorem madeOf_selectStatement : MadeOf (plan.schema.table :: plan.fields) plan.selectStatement.text :=
  ⟨_, rfl, plan.namesWithin_selectStatement⟩

theorem madeOf_countStatement : MadeOf (plan.schema.table :: plan.fields) plan.countStatement.text :=
  ⟨_, rfl, plan.namesWithin_countStatement⟩

end Plan

end Taskboard
