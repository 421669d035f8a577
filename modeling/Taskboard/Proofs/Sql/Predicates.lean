/-
The pieces of a predicate as a database takes them. They are read as one condition (`isPart_pieces`),
and by the logic of unknowns that condition is met just by the rows of which the predicate holds
(`truth_condition`): what is unknown never makes a row meet it, for a predicate has no negation but
the difference from a value that is not null.
-/
import Taskboard.Proofs.Sql.Reading

namespace Taskboard

open Sql

namespace Predicate

/-! ## Conditions without a difference from null -/

mutual

/-- Whether somewhere in the condition a column is to differ from null. -/
def differsFromNull : Predicate → Bool
  | .differs _ value => value.isNull
  | .all parts => someDiffersFromNull parts
  | .any parts => someDiffersFromNull parts
  | .never | .equals .. | .among .. | .missing _ | .present _ => false

/-- Whether one of several conditions asks for a difference from null. -/
def someDiffersFromNull : List Predicate → Bool
  | [] => false
  | part :: rest => part.differsFromNull || someDiffersFromNull rest

end

/-- Conditions that are put together by the builders. -/
inductive Built : Predicate → Prop where
  | is (field : String) (value : Json) : Built (.is field value)
  | isNot (field : String) (value : Json) : Built (.isNot field value)
  | isOneOf (field : String) (values : List Json) : Built (.isOneOf field values)
  | missing (field : String) : Built (.missing field)
  | present (field : String) : Built (.present field)
  | and {p q : Predicate} (hp : Built p) (hq : Built q) : Built (p.and q)
  | or {p q : Predicate} (hp : Built p) (hq : Built q) : Built (p.or q)

theorem someDiffersFromNull_append (ps qs : List Predicate) : someDiffersFromNull (ps ++ qs)
    = (someDiffersFromNull ps || someDiffersFromNull qs) := by
  induction ps with
  | nil => rfl
  | cons p ps ih => rw [List.cons_append, someDiffersFromNull, ih, someDiffersFromNull, Bool.or_assoc]

mutual

theorem someDiffersFromNull_conjuncts (p : Predicate) :
    someDiffersFromNull p.conjuncts = p.differsFromNull := by
  cases p with
  | all parts => exact someDiffersFromNull_conjunctsOfParts parts
  | _ => simp [conjuncts, someDiffersFromNull]

theorem someDiffersFromNull_conjunctsOfParts (parts : List Predicate) :
    someDiffersFromNull (conjunctsOfParts parts) = someDiffersFromNull parts := by
  cases parts with
  | nil => rfl
  | cons part rest =>
    rw [conjunctsOfParts, someDiffersFromNull_append, someDiffersFromNull_conjuncts part,
      someDiffersFromNull_conjunctsOfParts rest, someDiffersFromNull]

end

theorem someDiffersFromNull_alternatives (p : Predicate) :
    someDiffersFromNull p.alternatives = p.differsFromNull := by
  cases p <;> simp [alternatives, someDiffersFromNull, differsFromNull]

/-- The builders ask for a missing or a present column instead. -/
theorem Built.differsFromNull {p : Predicate} (h : Built p) : p.differsFromNull = false := by
  induction h with
  | is field value =>
    unfold Predicate.is
    split <;> rfl
  | isNot field value =>
    unfold Predicate.isNot
    split
    · rfl
    · simpa [Predicate.differsFromNull] using ‹¬value.isNull = true›
  | isOneOf field values =>
    unfold Predicate.isOneOf
    split <;> rfl
  | missing | present => rfl
  | and _ _ hp hq =>
    rw [Predicate.and, Predicate.differsFromNull, someDiffersFromNull_append,
      someDiffersFromNull_conjuncts, someDiffersFromNull_conjuncts, hp, hq]
    rfl
  | or _ _ hp hq =>
    rw [Predicate.or, Predicate.differsFromNull, someDiffersFromNull_append,
      someDiffersFromNull_alternatives, someDiffersFromNull_alternatives, hp, hq]
    rfl

/-! ## What the pieces of a condition are read as -/

/-- The condition of several, or what stands for none. -/
def joinedOr (join : Condition → Condition → Condition) (empty : Condition) : List Condition → Condition
  | [] => empty
  | first :: others => .joined join first others

mutual

/-- The condition that the pieces of a predicate make behind the first `bound` parameters. -/
def condition (bound : Nat) : Predicate → Condition
  | .never => .equals (.number 0) (.number 1)
  | .equals field _ => .equals (.column field) (.parameter (bound + 1))
  | .differs field _ => .differs (.column field) (.parameter (bound + 1))
  | .among _ [] => .equals (.number 0) (.number 1)
  | .among field (value :: rest) =>
    .among (.column field)
      ((List.range (value :: rest).length).map fun i => .parameter (bound + i + 1))
  | .missing field => .missing (.column field)
  | .present field => .present (.column field)
  | .all parts => joinedOr .and (.equals (.number 1) (.number 1)) (conditionsOfParts bound parts)
  | .any parts => joinedOr .or (.equals (.number 0) (.number 1)) (conditionsOfParts bound parts)

/-- The conditions of several predicates, each behind the parameters of those before it. -/
def conditionsOfParts (bound : Nat) : List Predicate → List Condition
  | [] => []
  | part :: rest => part.condition bound :: conditionsOfParts (bound + part.values.length) rest

end

/-- The placeholders behind IN are read one by one. -/
theorem tokens_placeholders (bound count : Nat) :
    (commaSeparated ((placeholders bound count).map fun p => [p])).flatMap Piece.tokens
      = [Token.symbol ','].intercalate
        (((List.range count).map fun i => Token.parameter (bound + i + 1)).map fun t => [t]) := by
  have hcomma : [Piece.word .comma, .word .space].flatMap Piece.tokens = [Token.symbol ','] := by
    simp [Word.tokens]
  rw [commaSeparated, tokens_intercalate, hcomma, placeholders]
  simp [Function.comp_def]

theorem readItems_placeholders (bound count : Nat) (rest : List Token) :
    readItems ([Token.symbol ','].intercalate
        (((List.range (count + 1)).map fun i => Token.parameter (bound + i + 1)).map fun t => [t])
        ++ .symbol ')' :: rest)
      = some ((List.range (count + 1)).map fun i => .parameter (bound + i + 1), rest) := by
  refine readItems_commas (by simp) ?_ rest
  rw [List.forall₂_map_left_iff, List.forall₂_map_right_iff]
  exact List.forall₂_same.2 fun _ _ => rfl

theorem tokens_group {joint : Word} {keyword : Keyword} (h : joint.tokens = [.keyword keyword])
    (empty part : List Piece) (parts : List (List Piece)) :
    (group joint empty (part :: parts)).flatMap Piece.tokens
      = .symbol '(' :: [Token.keyword keyword].intercalate
        (part.flatMap Piece.tokens :: parts.map (List.flatMap Piece.tokens)) ++ [.symbol ')'] := by
  rw [group.eq_2 _ _ _ (List.cons_ne_nil _ _), List.flatMap_append, List.flatMap_cons,
    tokens_intercalate, tokens_spaced h]
  rfl

/-- Pieces with the tokens of a comparison are a part. -/
theorem isPart_of_tokens {pieces : List Piece} {condition : Condition} (token : Token)
    (others : List Token) (htokens : pieces.flatMap Piece.tokens = token :: others)
    (htoken : token ≠ .symbol '(')
    (hread : ∀ rest, readComparison (token :: others ++ rest) = some (condition, rest)) :
    IsPart (pieces.flatMap Piece.tokens) condition := by
  rw [htokens]
  exact isPart_comparison htoken hread

theorem isPart_falsehood : IsPart (falsehood.flatMap Piece.tokens) (.equals (.number 0) (.number 1)) := by
  refine isPart_of_tokens (.number 0) [.symbol '=', .number 1] ?_ (by decide) fun _ => rfl
  simp [falsehood, spaced, Word.tokens]

theorem isPart_truth : IsPart (Predicate.truth.flatMap Piece.tokens) (.equals (.number 1) (.number 1)) := by
  refine isPart_of_tokens (.number 1) [.symbol '=', .number 1] ?_ (by decide) fun _ => rfl
  simp [Predicate.truth, spaced, Word.tokens]

theorem isPart_among {field : String} (h : PlainName field) (value : Json) (values : List Json)
    (bound : Nat) : IsPart (((among field (value :: values)).pieces bound).flatMap Piece.tokens)
      ((among field (value :: values)).condition bound) := by
  let items := (List.range (values.length + 1)).map fun i => Token.parameter (bound + i + 1)
  refine isPart_of_tokens (.name field) (.keyword .in :: .symbol '(' ::
    ([Token.symbol ','].intercalate (items.map fun t => [t]) ++ [.symbol ')'])) ?_ (by simp) ?_
  · have hname := tokens_name h
    simp [pieces, spaced, hname, Word.tokens, tokens_placeholders, items, -List.map_map]
  · intro rest
    have hitems := readItems_placeholders bound values.length rest
    simp only [List.cons_append, List.append_assoc, List.nil_append, readComparison,
      Operand.ofToken?, Option.bind_some, readRelation, items, hitems]
    rfl

mutual

/-- The pieces of a predicate are read as its condition. -/
theorem isPart_pieces (p : Predicate) (bound : Nat) (h : ∀ field ∈ p.fields, PlainName field) :
    IsPart ((p.pieces bound).flatMap Piece.tokens) (p.condition bound) := by
  cases p with
  | never => exact isPart_falsehood
  | equals field value =>
    have hname := tokens_name (h field (List.mem_singleton_self ..))
    refine isPart_of_tokens (.name field) [.symbol '=', .parameter (bound + 1)] ?_ (by simp) fun _ => rfl
    simp [pieces, spaced, placeholders, hname, Word.tokens]
  | differs field value =>
    have hname := tokens_name (h field (List.mem_singleton_self ..))
    refine isPart_of_tokens (.name field) [.symbol '<', .symbol '>', .parameter (bound + 1)] ?_
      (by simp) fun _ => rfl
    simp [pieces, spaced, placeholders, hname, Word.tokens]
  | among field values =>
    cases values with
    | nil => exact isPart_falsehood
    | cons value values => exact isPart_among (h field (List.mem_singleton_self ..)) value values bound
  | missing field =>
    have hname := tokens_name (h field (List.mem_singleton_self ..))
    refine isPart_of_tokens (.name field) [.keyword .is, .keyword .null] ?_ (by simp) fun _ => rfl
    simp [pieces, hname, Word.tokens]
  | present field =>
    have hname := tokens_name (h field (List.mem_singleton_self ..))
    refine isPart_of_tokens (.name field) [.keyword .is, .keyword .not, .keyword .null] ?_
      (by simp) fun _ => rfl
    simp [pieces, hname, Word.tokens]
  | all parts =>
    have hparts := isParts_pieces parts bound h
    cases parts with
    | nil => exact isPart_truth
    | cons part rest =>
      rw [pieces, piecesOfParts, tokens_group rfl]
      exact isPart_group (fun _ => readsAs_conjunction) hparts
  | any parts =>
    have hparts := isParts_pieces parts bound h
    cases parts with
    | nil => exact isPart_falsehood
    | cons part rest =>
      rw [pieces, piecesOfParts, tokens_group rfl]
      exact isPart_group (fun _ => readsAs_disjunction) hparts

theorem isParts_pieces (parts : List Predicate) (bound : Nat)
    (h : ∀ field ∈ fieldsOfParts parts, PlainName field) :
    List.Forall₂ IsPart ((piecesOfParts bound parts).map (List.flatMap Piece.tokens))
      (conditionsOfParts bound parts) := by
  cases parts with
  | nil => exact .nil
  | cons part rest =>
    exact .cons (isPart_pieces part bound fun field hf => h field (List.mem_append_left _ hf))
      (isParts_pieces rest _ fun field hf => h field (List.mem_append_right _ hf))

end

theorem apart_group {joint : Word} {empty : List Piece} (hempty : Apart empty)
    {parts : List (List Piece)} (h : ∀ part ∈ parts, Apart part) : Apart (group joint empty parts) := by
  cases parts with
  | nil => exact hempty
  | cons part rest =>
    exact apart_cons rfl (apart_append (apart_joined h) rfl (List.isChain_singleton _))

mutual

/-- No two words of the pieces of a predicate stand side by side. -/
theorem apart_pieces (p : Predicate) (bound : Nat) : Apart (p.pieces bound) := by
  cases p with
  | among field values =>
    cases values with
    | nil => exact apart_pieces .never bound
    | cons value values =>
      have hitems : Apart (commaSeparated
          ((placeholders bound (value :: values).length).map fun p => [p])) := by
        refine apart_commaSeparated ?_
        intro part hpart
        obtain ⟨p, -, rfl⟩ := List.mem_map.1 hpart
        exact List.isChain_singleton p
      have hlist : Apart (.word .opening :: commaSeparated
          ((placeholders bound (value :: values).length).map fun p => [p]) ++ [.word .closing]) :=
        apart_cons rfl (apart_append hitems rfl (List.isChain_singleton _))
      exact apart_append (List.isChain_singleton (.name field)) rfl (apart_spaced [.in] hlist)
  | all parts =>
    have hempty : Apart Predicate.truth := by simp [Apart, Predicate.truth, spaced, Piece.setsApart, separators]
    exact apart_group hempty (apart_parts parts bound)
  | any parts =>
    have hempty : Apart falsehood := by simp [Apart, falsehood, spaced, Piece.setsApart, separators]
    exact apart_group hempty (apart_parts parts bound)
  | _ => simp [Apart, pieces, falsehood, spaced, placeholders, Piece.setsApart, separators]

theorem apart_parts (parts : List Predicate) (bound : Nat) :
    ∀ part ∈ piecesOfParts bound parts, Apart part := by
  cases parts with
  | nil => exact fun _ h => nomatch h
  | cons part rest =>
    rintro pieces hpieces
    rcases List.mem_cons.1 hpieces with rfl | hrest
    · exact apart_pieces part bound
    · exact apart_parts rest _ pieces hrest

end

/-! ## What the conditions come to -/

section Meaning

variable {row : Record} {params : List Json}

theorem compare_numbers (m n : Nat) : Sql.compare row params (.number m) (.number n)
    = .ofBool ((Json.ofNat m).looselyEqual (.ofNat n)) := rfl

theorem zero_ne_one : (Json.ofNat 0).looselyEqual (.ofNat 1) = false := by
  decide +kernel

theorem joinedOr_and {conditions : List Condition} :
    (joinedOr .and (.equals (.number 1) (.number 1)) conditions).truth row params = .yes ↔
      ∀ c ∈ conditions, c.truth row params = .yes := by
  cases conditions with
  | nil =>
    have hone : (Json.ofNat 1).looselyEqual (.ofNat 1) = true := by decide +kernel
    simp [joinedOr, Condition.truth, compare_numbers, hone]
  | cons first others => exact Condition.truth_joined_and row params first others

theorem joinedOr_or {conditions : List Condition} :
    (joinedOr .or (.equals (.number 0) (.number 1)) conditions).truth row params = .yes ↔
      ∃ c ∈ conditions, c.truth row params = .yes := by
  cases conditions with
  | nil => simp [joinedOr, Condition.truth, compare_numbers, zero_ne_one]
  | cons first others => exact Condition.truth_joined_or row params first others

theorem forall_truth_iff_allHold {parts : List Predicate} {conditions : List Condition}
    (h : List.Forall₂ (fun p c => c.truth row params = .yes ↔ p.holds row = true) parts conditions) :
    (∀ c ∈ conditions, c.truth row params = .yes) ↔ allHold row parts = true := by
  induction h with
  | nil => simp [allHold]
  | cons hpart _ ih => simp [allHold, hpart, ih]

theorem exists_truth_iff_anyHolds {parts : List Predicate} {conditions : List Condition}
    (h : List.Forall₂ (fun p c => c.truth row params = .yes ↔ p.holds row = true) parts conditions) :
    (∃ c ∈ conditions, c.truth row params = .yes) ↔ anyHolds row parts = true := by
  induction h with
  | nil => simp [anyHolds]
  | cons hpart _ ih => simp [anyHolds, hpart, ih]

end Meaning

/-- A column is among the next parameters when it equals one of their values. -/
theorem compareAny_placeholders {row : Record} {params : List Json} {bound : Nat} {values : List Json}
    (h : ∀ i, i < values.length → params[bound + i]? = values[i]?) (field : String) :
    compareAny row params (.column field)
        ((List.range values.length).map fun i => .parameter (bound + i + 1)) = .yes ↔
      (row.value? field).any (fun v => values.any v.looselyEqual) = true := by
  refine compareAny_eq_yes (List.forall₂_iff_get.2 ⟨by simp, ?_⟩)
  intro i hi hi'
  have hvalue : params[bound + i]? = some values[i] := (h i hi').trans (List.getElem?_eq_getElem hi')
  simpa using compare_eq_yes hvalue

mutual

/-- The condition of a predicate is met just by the rows of which the predicate holds, when its values
stand in their place among the parameters. -/
theorem truth_condition (row : Record) (p : Predicate) (before after : List Json)
    (h : p.differsFromNull = false) :
    (p.condition before.length).truth row (before ++ p.values ++ after) = .yes ↔ p.holds row = true := by
  cases p with
  | never => simp [condition, Condition.truth, compare_numbers, zero_ne_one, holds]
  | equals field value => exact compare_eq_yes (by simp [values])
  | differs field value =>
    -- With null the comparison would be unknown, and so no row would differ from it.
    rw [condition, Condition.truth, Truth.not_eq_yes]
    exact compare_eq_no (by simp [values]) h
  | among field values =>
    cases values with
    | nil =>
      have hnone : holds row (among field []) = false := by
        cases hcolumn : row.value? field <;> simp [holds, hcolumn]
      simp [condition, Condition.truth, compare_numbers, zero_ne_one, hnone]
    | cons value rest =>
      refine compareAny_placeholders ?_ field
      intro i hi
      rw [Predicate.values, List.append_assoc, List.getElem?_append_right (by omega),
        List.getElem?_append_left (by omega)]
      congr 1
      omega
  | missing field => simp [condition, Condition.truth, Operand.value?, holds]
  | present field => simp [condition, Condition.truth, Operand.value?, holds]
  | all parts =>
    rw [condition, joinedOr_and]
    exact forall_truth_iff_allHold (truth_conditionsOfParts row parts before after h)
  | any parts =>
    rw [condition, joinedOr_or]
    exact exists_truth_iff_anyHolds (truth_conditionsOfParts row parts before after h)

theorem truth_conditionsOfParts (row : Record) (parts : List Predicate) (before after : List Json)
    (h : someDiffersFromNull parts = false) :
    List.Forall₂ (fun p c => c.truth row (before ++ valuesOfParts parts ++ after) = .yes ↔
      p.holds row = true) parts (conditionsOfParts before.length parts) := by
  cases parts with
  | nil => exact .nil
  | cons part rest =>
    rw [someDiffersFromNull, Bool.or_eq_false_iff] at h
    -- To the first part the later values stand behind its own, to the others its values before theirs.
    have hfirst := truth_condition row part before (valuesOfParts rest ++ after) h.1
    have hrest := truth_conditionsOfParts row rest (before ++ part.values) after h.2
    simp only [List.length_append, List.append_assoc] at hfirst hrest
    rw [conditionsOfParts, valuesOfParts]
    simp only [List.append_assoc]
    exact .cons hfirst hrest

end

end Predicate

end Taskboard
