/-
Statements for a SQL database. A statement is a row of pieces (fixed words, names, and numbered
placeholders) and the values that the placeholders stand for. No value is ever part of the text:
two plans that differ only in values have the same pieces.
-/
import Taskboard.Query.Plan

namespace Taskboard

namespace Sql

/-! ## Pieces -/

/-- The fixed words and symbols of statements. -/
inductive Word where
  | select | count | as | countName | from | where | and | or | in | is | not | null
  | order | by | ascending | descending | limit | offset | insert | into | values | update | set
  | star | comma | opening | closing | equals | differs | zero | one | minusOne | space
deriving DecidableEq

/-- The text of a fixed word. -/
def Word.text : Word → String
  | .select => "SELECT"
  | .count => "COUNT"
  | .as => "AS"
  | .countName => "count"
  | .from => "FROM"
  | .where => "WHERE"
  | .and => "AND"
  | .or => "OR"
  | .in => "IN"
  | .is => "IS"
  | .not => "NOT"
  | .null => "NULL"
  | .order => "ORDER"
  | .by => "BY"
  | .ascending => "ASC"
  | .descending => "DESC"
  | .limit => "LIMIT"
  | .offset => "OFFSET"
  | .insert => "INSERT"
  | .into => "INTO"
  | .values => "VALUES"
  | .update => "UPDATE"
  | .set => "SET"
  | .star => "*"
  | .comma => ","
  | .opening => "("
  | .closing => ")"
  | .equals => "="
  | .differs => "<>"
  | .zero => "0"
  | .one => "1"
  | .minusOne => "-1"
  | .space => " "

/-- A piece of a statement: a fixed word, the name of a table or column, or the placeholder of the
parameter with a number, counted from one. -/
inductive Piece where
  | word (word : Word)
  | name (text : String)
  | placeholder (number : Nat)
deriving DecidableEq

/-- The text of a piece. -/
def Piece.text : Piece → String
  | .word w => w.text
  | .name s => s
  | .placeholder n => "?" ++ toString n

/-- Fixed words with a space on both sides of each. -/
def spaced : List Word → List Piece
  | [] => [.word .space]
  | w :: rest => .word .space :: .word w :: spaced rest

/-- Lists of pieces with a comma and a space between each two. -/
def commaSeparated (parts : List (List Piece)) : List Piece :=
  [Piece.word .comma, .word .space].intercalate parts

/-- The placeholders of the next `count` parameters after the first `bound` ones. -/
def placeholders (bound count : Nat) : List Piece :=
  (List.range count).map fun i => .placeholder (bound + i + 1)

end Sql

open Sql

/-- A statement: its pieces and its parameters. -/
structure Statement where
  pieces : List Piece
  params : List Json

/-- The text that a database is sent. -/
def Statement.text (statement : Statement) : String :=
  String.join (statement.pieces.map Piece.text)

/-! ## Conditions -/

namespace Predicate

/-- A condition that no row meets: `0 = 1`. -/
def falsehood : List Piece :=
  .word .zero :: spaced [.equals] ++ [.word .one]

/-- A condition that every row meets: `1 = 1`. -/
def truth : List Piece :=
  .word .one :: spaced [.equals] ++ [.word .one]

/-- Conditions in parentheses with a word between them; without conditions, what stands for none. -/
def group (joint : Word) (empty : List Piece) : List (List Piece) → List Piece
  | [] => empty
  | parts => .word .opening :: (spaced [joint]).intercalate parts ++ [.word .closing]

mutual

/-- The pieces of a condition behind the first `bound` parameters. -/
def pieces (bound : Nat) : Predicate → List Piece
  | .never => falsehood
  | .equals field _ => .name field :: spaced [.equals] ++ placeholders bound 1
  | .differs field _ => .name field :: spaced [.differs] ++ placeholders bound 1
  | .among _ [] => falsehood
  | .among field (value :: rest) =>
    .name field :: spaced [.in] ++ .word .opening ::
      commaSeparated ((placeholders bound (value :: rest).length).map fun p => [p]) ++ [.word .closing]
  | .missing field => [.name field, .word .space, .word .is, .word .space, .word .null]
  | .present field =>
    [.name field, .word .space, .word .is, .word .space, .word .not, .word .space, .word .null]
  | .all parts => group .and truth (piecesOfParts bound parts)
  | .any parts => group .or falsehood (piecesOfParts bound parts)

/-- The pieces of several conditions, each behind the parameters of those before it. -/
def piecesOfParts (bound : Nat) : List Predicate → List (List Piece)
  | [] => []
  | part :: rest => part.pieces bound :: piecesOfParts (bound + part.values.length) rest

end

end Predicate

/-! ## Selecting and counting -/

namespace Plan

/-- The conditions of a plan behind the word WHERE; nothing when there are none. -/
def wherePieces (plan : Plan) : List Piece :=
  match plan.predicates with
  | [] => []
  | predicates =>
    spaced [.where] ++ (spaced [.and]).intercalate (Predicate.piecesOfParts 0 predicates)

/-- The values that the conditions of a plan compare with. -/
def whereParams (plan : Plan) : List Json :=
  Predicate.valuesOfParts plan.predicates

/-- A column and its direction. -/
def sortPieces (term : SortTerm) : List Piece :=
  [.name term.field, .word .space,
    .word (match term.direction with | .ascending => .ascending | .descending => .descending)]

/-- The sort terms behind the words ORDER BY; nothing when there are none. -/
def orderPieces (plan : Plan) : List Piece :=
  match plan.sortTerms with
  | [] => []
  | terms => spaced [.order, .by] ++ commaSeparated (terms.map sortPieces)

/-- The bounds behind the first `bound` parameters. An offset needs a limit before it, and -1 is no
limit. -/
def boundPieces (bound : Nat) (plan : Plan) : List Piece :=
  match plan.limit?, plan.offset? with
  | none, none => []
  | some _, none => spaced [.limit] ++ placeholders bound 1
  | some _, some _ =>
    spaced [.limit] ++ placeholders bound 1 ++ spaced [.offset] ++ placeholders (bound + 1) 1
  | none, some _ => spaced [.limit] ++ .word .minusOne :: spaced [.offset] ++ placeholders bound 1

/-- The values of the bounds. -/
def boundParams (plan : Plan) : List Json :=
  (plan.limit?.toList ++ plan.offset?.toList).map Json.ofNat

/-- The statement that gives the rows of a plan. -/
def selectStatement (plan : Plan) : Statement where
  pieces :=
    [.word .select, .word .space, .word .star] ++ spaced [.from] ++ .name plan.schema.table ::
      plan.wherePieces ++ plan.orderPieces ++ plan.boundPieces plan.whereParams.length
  params := plan.whereParams ++ plan.boundParams

/-- The statement that gives the number of rows that meet the conditions of a plan. -/
def countStatement (plan : Plan) : Statement where
  pieces :=
    [.word .select, .word .space, .word .count, .word .opening, .word .star, .word .closing] ++
      spaced [.as] ++ .word .countName :: spaced [.from] ++ .name plan.schema.table ::
      plan.wherePieces
  params := plan.whereParams

end Plan

end Taskboard
