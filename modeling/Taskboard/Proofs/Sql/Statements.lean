/-
Statements select the rows that meet the conditions of a plan. A statement is taken as its text and its
parameters: what the text says of a row behind WHERE is yes just when every predicate of the plan holds
of the row, and counting goes by the same text (`statements_agree`).
-/
import Taskboard.Proofs.Sql.Predicates
import Taskboard.Proofs.Storage.Rows
import Taskboard.Task

namespace Taskboard

open Sql

namespace Plan

/-! ## The text of statements -/

/-- The text from the word WHERE to the end of the conditions. -/
def whereText (plan : Plan) : String :=
  String.join (plan.wherePieces.map Piece.text)

/-- The sorting and the bounds behind the conditions of a plan. -/
def tailPieces (plan : Plan) : List Piece :=
  plan.orderPieces ++ plan.boundPieces plan.whereParams.length

/-- The condition behind WHERE, if there is any. -/
def condition? (plan : Plan) : Option Condition :=
  match Predicate.conditionsOfParts 0 plan.predicates with
  | [] => none
  | first :: others => some (.joined .and first others)

/-- The sorting and the bounds begin with a word of their own, between spaces. -/
theorem tailPieces_cases (plan : Plan) : plan.tailPieces = [] ∨ ∃ word rest,
    (word = .order ∨ word = .limit) ∧ plan.tailPieces = spaced [word] ++ rest := by
  unfold tailPieces orderPieces boundPieces
  split
  · split
    · exact .inl rfl
    all_goals exact .inr ⟨.limit, _, .inr rfl, rfl⟩
  · exact .inr ⟨.order, _, .inl rfl, rfl⟩

/-- Nothing of the conditions is left over in the sorting and the bounds. -/
theorem tailPieces_ends (plan : Plan) : Breaks (textOf plan.tailPieces) ∧
    endsConditions (tokens (textOf plan.tailPieces)) = true := by
  rcases plan.tailPieces_cases with hnone | ⟨word, rest, hword, htail⟩
  · rw [hnone]
    exact ⟨fun _ h => (nomatch h), rfl⟩
  · obtain ⟨others, htokens⟩ := tokens_spaced_append word rest
    rw [htail, htokens]
    refine ⟨@breaks_of_setsApart (.word .space) rfl _, ?_⟩
    rcases hword with rfl | rfl <;> rfl

theorem stops_of_endsConditions {text : List Token} (h : endsConditions text = true) {keyword : Keyword}
    (horder : keyword ≠ .order) (hlimit : keyword ≠ .limit) : Stops keyword text := by
  intro hhead
  rcases text with _ | ⟨token, rest⟩
  · cases hhead
  · obtain rfl : token = .keyword keyword := Option.some.inj hhead
    cases keyword with
    | order => exact horder rfl
    | limit => exact hlimit rfl
    | _ => cases h

/-! ## What the conditions are read as -/

section Where

variable {plan : Plan} (hplain : ∀ field ∈ Predicate.fieldsOfParts plan.predicates, PlainName field)
include hplain

/-- Behind the name of the table stands the condition of the predicates. -/
theorem readWhere_wherePieces {tail : List Piece} (hbreaks : Breaks (textOf tail))
    (hends : endsConditions (tokens (textOf tail)) = true) :
    readWhere (tokens (textOf (plan.wherePieces ++ tail))) = some plan.condition? := by
  have hparts := Predicate.isParts_pieces plan.predicates 0 hplain
  have hapart := Predicate.apart_parts plan.predicates 0
  rw [textOf_append, tokens_append hbreaks]
  unfold wherePieces condition?
  cases hpredicates : plan.predicates with
  | nil =>
    -- What follows the table is the sorting or the bounds at once, and neither begins with WHERE.
    have hwhere : Stops .where (tokens (textOf tail)) :=
      stops_of_endsConditions hends (by decide) (by decide)
    have hnone : ∀ rest, tokens (textOf tail) ≠ .keyword .where :: rest :=
      fun rest heq => hwhere (by rw [heq]; rfl)
    change readWhere (tokens (textOf tail)) = some none
    rw [readWhere.eq_2 _ hnone, if_pos hends]
  | cons first others =>
    rw [hpredicates] at hparts hapart
    have hread := readCondition_conjunction hparts
      (stops_of_endsConditions hends (by decide) (by decide))
      (stops_of_endsConditions hends (by decide) (by decide))
    simp only
    rw [tokens_pieces (apart_spaced [.where] (apart_joined hapart)), List.flatMap_append,
      tokens_spaced rfl, tokens_intercalate, tokens_spaced rfl, List.append_assoc,
      List.singleton_append, readWhere]
    rw [Predicate.piecesOfParts, List.map_cons, hread]
    exact if_pos hends

/-- A statement says of a row what the conditions behind the name of its table say. -/
theorem verdict?_eq {statement : Statement} {head tail : List Piece} {table : String} (row : Record)
    (hpieces : statement.pieces = head ++ spaced [.from] ++ .name table :: (plan.wherePieces ++ tail))
    (hhead : Apart head) (hfrom : .keyword .from ∉ head.flatMap Piece.tokens)
    (htable : PlainName table) (hbreaks : Breaks (textOf tail))
    (hends : endsConditions (tokens (textOf tail)) = true) :
    verdict? statement row = some (truthOf row statement.params plan.condition?) := by
  have hfront : Apart (head ++ (spaced [.from] ++ [.name table])) :=
    apart_append hhead rfl (apart_spaced [.from] (List.isChain_singleton _))
  have hrest : Breaks (textOf (plan.wherePieces ++ tail)) := by
    unfold wherePieces
    split
    · exact hbreaks
    · exact @breaks_of_setsApart (.word .space) rfl _
  have htext : statement.pieces
      = (head ++ (spaced [.from] ++ [.name table])) ++ (plan.wherePieces ++ tail) := by
    rw [hpieces]
    simp
  have htokens : tokens statement.text.toList = head.flatMap Piece.tokens
      ++ (.keyword .from :: .name table :: tokens (textOf (plan.wherePieces ++ tail))) := by
    rw [text_toList, htext, textOf_append, tokens_append hrest, tokens_pieces hfront,
      List.flatMap_append, List.flatMap_append, tokens_spaced rfl, List.flatMap_singleton,
      tokens_name htable]
    simp
  -- Everything before the first FROM is skipped, and that is the one before the table.
  have hskip : ∀ token ∈ head.flatMap Piece.tokens, (token != .keyword .from) = true := by
    intro token htoken
    rw [bne_iff_ne]
    exact fun heq => hfrom (heq ▸ htoken)
  rw [verdict?, htokens, List.dropWhile_append_of_pos hskip]
  simp [readWhere_wherePieces hplain hbreaks hends]

/-- What the statement that gives the rows of a plan says of a row. -/
theorem verdict?_selectStatement (htable : PlainName plan.schema.table) (row : Record) :
    verdict? plan.selectStatement row
      = some (truthOf row (plan.whereParams ++ plan.boundParams) plan.condition?) := by
  have hpieces : plan.selectStatement.pieces = [.word .select, .word .space, .word .star]
      ++ spaced [.from] ++ .name plan.schema.table :: (plan.wherePieces ++ plan.tailPieces) := by
    simp [selectStatement, tailPieces]
  have htail := plan.tailPieces_ends
  refine verdict?_eq hplain row hpieces ?_ (by decide +kernel) htable htail.1 htail.2
  simp [Apart, Piece.setsApart, separators]

/-- What the statement that counts the rows of a plan says of a row. -/
theorem verdict?_countStatement (htable : PlainName plan.schema.table) (row : Record) :
    verdict? plan.countStatement row = some (truthOf row plan.whereParams plan.condition?) := by
  have hpieces : plan.countStatement.pieces = ([.word .select, .word .space, .word .count,
      .word .opening, .word .star, .word .closing] ++ spaced [.as] ++ [.word .countName])
      ++ spaced [.from] ++ .name plan.schema.table :: (plan.wherePieces ++ []) := by
    simp [countStatement]
  refine verdict?_eq hplain row hpieces ?_ (by decide +kernel) htable (fun _ h => nomatch h) rfl
  simp [Apart, spaced, Piece.setsApart, separators]

end Where

/-! ## The texts side by side -/

/-- The text of a statement is its opening, the name of its table, its conditions and what follows. -/
theorem text_eq {statement : Statement} {head tail : List Piece} {table : String} {plan : Plan}
    (hpieces : statement.pieces = head ++ .name table :: (plan.wherePieces ++ tail)) :
    statement.text = String.join (head.map Piece.text) ++ table ++ plan.whereText
      ++ String.join (tail.map Piece.text) := by
  rw [Statement.text, hpieces, List.map_append, List.map_cons, List.map_append, String.join_append,
    String.join_cons, String.join_append, whereText, Piece.text]
  simp only [String.append_assoc]

theorem selectStatement_text (plan : Plan) : plan.selectStatement.text
    = "SELECT * FROM " ++ plan.schema.table ++ plan.whereText
      ++ String.join (plan.tailPieces.map Piece.text) := by
  have hpieces : plan.selectStatement.pieces = ([.word .select, .word .space, .word .star]
      ++ spaced [.from]) ++ .name plan.schema.table :: (plan.wherePieces ++ plan.tailPieces) := by
    simp [selectStatement, tailPieces]
  rw [text_eq hpieces]
  rfl

theorem countStatement_text (plan : Plan) : plan.countStatement.text
    = "SELECT COUNT(*) AS count FROM " ++ plan.schema.table ++ plan.whereText := by
  have hpieces : plan.countStatement.pieces = ([.word .select, .word .space, .word .count,
      .word .opening, .word .star, .word .closing] ++ spaced [.as] ++ .word .countName
      :: spaced [.from]) ++ .name plan.schema.table :: (plan.wherePieces ++ []) := by
    simp [countStatement]
  rw [text_eq hpieces, List.map_nil, String.join_nil, String.append_empty]
  rfl

/-- Behind the values of the conditions, other parameters change nothing. -/
theorem truthOf_condition? {plan : Plan}
    (hnull : Predicate.someDiffersFromNull plan.predicates = false) (row : Record) (after : List Json) :
    truthOf row (plan.whereParams ++ after) plan.condition? = .yes ↔
      ∀ p ∈ plan.predicates, p.holds row = true := by
  have htruth := Predicate.truth_conditionsOfParts row plan.predicates [] after hnull
  rw [List.nil_append] at htruth
  rw [← Predicate.allHold_iff, ← Predicate.forall_truth_iff_allHold htruth]
  unfold condition? whereParams
  rw [List.length_nil]
  cases Predicate.conditionsOfParts 0 plan.predicates with
  | nil => simp [truthOf]
  | cons first others => exact Condition.truth_joined_and row _ first others

/-- A database that reads the statement of a plan takes the rows of which every predicate holds, and
counts by the same text behind WHERE and the same parameters. Predicates that the builders make are
never kept from this by a difference from null. -/
theorem statements_agree (plan : Plan) (htable : PlainName plan.schema.table)
    (hplain : ∀ field ∈ plan.schema.fields, PlainName field)
    (hfields : ∀ field ∈ Predicate.fieldsOfParts plan.predicates, field ∈ plan.schema.fields)
    (hnull : Predicate.someDiffersFromNull plan.predicates = false) (row : Record) :
    (∃ truth, verdict? plan.selectStatement row = some truth ∧
      (truth = .yes ↔ ∀ p ∈ plan.predicates, p.holds row = true)) ∧
    (∃ truth, verdict? plan.countStatement row = some truth ∧
      (truth = .yes ↔ ∀ p ∈ plan.predicates, p.holds row = true)) ∧
    (∃ tail, plan.selectStatement.text
      = "SELECT * FROM " ++ plan.schema.table ++ plan.whereText ++ tail) ∧
    plan.countStatement.text
      = "SELECT COUNT(*) AS count FROM " ++ plan.schema.table ++ plan.whereText ∧
    plan.selectStatement.params = plan.countStatement.params ++ plan.boundParams ∧
    ∀ p, Predicate.Built p → p.differsFromNull = false := by
  have hnames : ∀ field ∈ Predicate.fieldsOfParts plan.predicates, PlainName field :=
    fun field hfield => hplain field (hfields field hfield)
  have hcount := truthOf_condition? hnull row []
  rw [List.append_nil] at hcount
  exact ⟨⟨_, verdict?_selectStatement hnames htable row, truthOf_condition? hnull row plan.boundParams⟩,
    ⟨_, verdict?_countStatement hnames htable row, hcount⟩, ⟨_, plan.selectStatement_text⟩,
    plan.countStatement_text, rfl, fun _ => Predicate.Built.differsFromNull⟩

/-- Tasks that are done or urgent, by conditions inside conditions, empty ones among them. -/
def doneOrUrgent : Plan :=
  (((Task.schema.filter (.any [.equals "status" (.string "done"), .any [],
      .all [.among "priority" [.null, .string "urgent"], .present "board_id", .all []]])).filter
      (.differs "title" (.string "")))
    |>.sortBy "created_at" .descending).take 5

example : doneOrUrgent.selectStatement.text = "SELECT * FROM tasks WHERE (status = ?1 OR 0 = 1 OR " ++
    "(priority IN (?2, ?3) AND board_id IS NOT NULL AND 1 = 1)) AND title <> ?4 " ++
    "ORDER BY created_at DESC LIMIT ?5" := by
  decide +kernel

theorem statements_agree_doneOrUrgent : verdict? doneOrUrgent.selectStatement
    [("board_id", .string "b1"), ("priority", .string "urgent"), ("title", .string "Ship")]
      = some .yes := by
  obtain ⟨⟨truth, hread, hmeets⟩, -⟩ := statements_agree doneOrUrgent (by decide +kernel)
    (by decide +kernel) (by decide +kernel) rfl
    [("board_id", .string "b1"), ("priority", .string "urgent"), ("title", .string "Ship")]
  rw [hread, hmeets.2 (by decide +kernel)]

end Plan

end Taskboard
