/-
Tokens of statements. The text of a statement is read from left to right: letters, digits and
underscores make words, and every other character stands for itself. The pieces of a statement are
set apart by blanks and symbols, so the tokens of its text are those of its pieces, one after another
(`tokens_pieces`); a plain name is read as that name (`tokens_name`).
-/
import Taskboard.Query.Statement
import Taskboard.Text.Ascii
import Mathlib.Data.List.Chain

namespace Taskboard.Sql

/-! ## Words -/

/-- The words by which the conditions of a statement are read. -/
inductive Keyword where
  | from | where | and | or | in | is | not | null | order | limit
deriving DecidableEq

/-- The keyword that a word is, in whatever case. -/
def Keyword.ofWord? (word : String) : Option Keyword :=
  match Text.lower word with
  | "from" => some .from
  | "where" => some .where
  | "and" => some .and
  | "or" => some .or
  | "in" => some .in
  | "is" => some .is
  | "not" => some .not
  | "null" => some .null
  | "order" => some .order
  | "limit" => some .limit
  | _ => none

/-- What a text is made of, blanks left out. -/
inductive Token where
  | keyword (keyword : Keyword)
  | name (text : String)
  | number (value : Nat)
  | parameter (number : Nat)
  | symbol (char : Char)
deriving DecidableEq

/-- The characters of names: letters, digits and underscores, beyond ASCII all. -/
def isNameChar (c : Char) : Bool :=
  c.isAlphanum || c == '_' || decide (128 ≤ c.toNat)

/-- The characters of words: those of names, and the mark of a parameter. -/
def isWordChar (c : Char) : Bool :=
  isNameChar c || c == '?'

/-- The token of a word: a parameter behind its mark, a keyword, a number, or a name. -/
def Token.ofWord (word : List Char) : Token :=
  match word with
  | '?' :: digits =>
    if digits.all Char.isDigit then .parameter (Nat.ofDigitChars 10 digits 0) else .symbol '?'
  | _ =>
    match Keyword.ofWord? (String.ofList word) with
    | some known => .keyword known
    | none =>
      if word.all Char.isDigit then .number (Nat.ofDigitChars 10 word 0) else .name (String.ofList word)

/-- The token of the characters that a word has so far, if it has any. -/
def wordTokens : List Char → List Token
  | [] => []
  | word => [Token.ofWord word]

/-- The token of a character that is not part of a word; blanks are none. -/
def symbolTokens (c : Char) : List Token :=
  if c.isWhitespace then [] else [.symbol c]

/-- The tokens of a text behind the characters of a word. -/
def tokensFrom (word : List Char) : List Char → List Token
  | [] => wordTokens word
  | c :: rest =>
    if isWordChar c then tokensFrom (word ++ [c]) rest
    else wordTokens word ++ symbolTokens c ++ tokensFrom [] rest

/-- The tokens of a text. -/
def tokens (text : List Char) : List Token :=
  tokensFrom [] text

@[simp] theorem tokens_nil : tokens [] = [] := rfl

/-- A name that can be read as one: of the characters of names, and neither a keyword nor a number. -/
@[mk_iff]
structure PlainName (name : String) : Prop where
  ne_nil : name.toList ≠ []
  chars : name.toList.all isNameChar = true
  not_keyword : Keyword.ofWord? name = none
  not_number : name.toList.all Char.isDigit = false

instance (name : String) : Decidable (PlainName name) :=
  decidable_of_iff _ (plainName_iff name).symm

/-! ## Texts side by side -/

/-- A text that is empty or begins with a character that is not part of a word. -/
def Breaks (text : List Char) : Prop :=
  ∀ c ∈ text.head?, isWordChar c = false

theorem tokensFrom_append {text rest : List Char} (h : Breaks rest) (word : List Char) :
    tokensFrom word (text ++ rest) = tokensFrom word text ++ tokens rest := by
  induction text generalizing word with
  | nil =>
    rcases rest with _ | ⟨c, rest⟩
    · exact (List.append_nil _).symm
    · have hc : isWordChar c = false := h c rfl
      simp only [List.nil_append, tokens, tokensFrom, hc, Bool.false_eq_true, if_false, wordTokens,
        List.append_assoc]
  | cons c text ih =>
    rw [List.cons_append, tokensFrom, tokensFrom, ih, ih]
    split
    · rfl
    · simp only [List.append_assoc]

/-- The tokens of two texts are those of one and then of the other when a word does not run across. -/
theorem tokens_append {text rest : List Char} (h : Breaks rest) :
    tokens (text ++ rest) = tokens text ++ tokens rest :=
  tokensFrom_append h []

theorem tokens_cons {c : Char} (hc : isWordChar c = false) (rest : List Char) :
    tokens (c :: rest) = symbolTokens c ++ tokens rest := by
  simp only [tokens, tokensFrom, hc, Bool.false_eq_true, if_false, wordTokens, List.nil_append]

theorem tokensFrom_word {text : List Char} (h : ∀ c ∈ text, isWordChar c = true) (word : List Char) :
    tokensFrom word text = wordTokens (word ++ text) := by
  induction text generalizing word with
  | nil => rw [tokensFrom, List.append_nil]
  | cons c text ih =>
    have hrest : ∀ d ∈ text, isWordChar d = true := fun d hd => h d (List.mem_cons_of_mem _ hd)
    rw [tokensFrom, if_pos (h c (List.mem_cons_self ..)), ih hrest, List.append_assoc]
    rfl

/-! ## Pieces -/

/-- The characters of some pieces. -/
def textOf (pieces : List Piece) : List Char :=
  pieces.flatMap fun piece => piece.text.toList

/-- The tokens of a piece on its own. -/
def Piece.tokens (piece : Piece) : List Token :=
  Sql.tokens piece.text.toList

/-- The words that are blanks or symbols. -/
def separators : List Word :=
  [.star, .comma, .opening, .closing, .equals, .differs, .space]

/-- Blanks and symbols, which no word runs across. -/
def Piece.setsApart : Piece → Bool
  | .word w => separators.contains w
  | _ => false

/-- Pieces of which no two words stand side by side. -/
def Apart (pieces : List Piece) : Prop :=
  pieces.IsChain fun p q => p.setsApart = true ∨ q.setsApart = true

theorem textOf_append (ps qs : List Piece) : textOf (ps ++ qs) = textOf ps ++ textOf qs :=
  List.flatMap_append

theorem text_toList (statement : Statement) : statement.text.toList = textOf statement.pieces := by
  unfold Statement.text textOf
  rw [String.toList_join, List.flatMap_map]

/-- A piece that sets others apart begins with a character that is not part of a word. -/
theorem breaks_of_setsApart {piece : Piece} (h : piece.setsApart = true) (rest : List Char) :
    Breaks (piece.text.toList ++ rest) := by
  have hall : ∀ word ∈ separators, word.text.toList.head?.any (!isWordChar ·) = true := by
    decide +kernel
  cases piece with
  | word word =>
    obtain ⟨first, hfirst, hchar⟩ := (Option.any_eq_true _ _).1 (hall word (List.contains_iff_mem.1 h))
    obtain ⟨others, htext⟩ := List.head?_eq_some_iff.1 hfirst
    intro c hc
    rw [Piece.text, htext] at hc
    cases hc
    simpa using hchar
  | _ => cases h

/-- A piece that sets others apart ends with a character that is not part of a word. -/
theorem ends_of_setsApart {piece : Piece} (h : piece.setsApart = true) :
    ∃ front last, piece.text.toList = front ++ [last] ∧ isWordChar last = false := by
  have hall : ∀ word ∈ separators, word.text.toList.getLast?.any (!isWordChar ·) = true := by
    decide +kernel
  cases piece with
  | word word =>
    obtain ⟨last, hlast, hchar⟩ := (Option.any_eq_true _ _).1 (hall word (List.contains_iff_mem.1 h))
    obtain ⟨front, htext⟩ := List.getLast?_eq_some_iff.1 hlast
    exact ⟨front, last, htext, by simpa using hchar⟩
  | _ => cases h

/-- No word runs out of a piece that sets others apart. -/
theorem tokens_append_of_setsApart {piece : Piece} (h : piece.setsApart = true) (rest : List Char) :
    tokens (piece.text.toList ++ rest) = piece.tokens ++ tokens rest := by
  -- What stands before the last character is read on its own, and so is what stands behind it.
  obtain ⟨front, last, htext, hlast⟩ := ends_of_setsApart h
  have hbreaks : ∀ text, Breaks (last :: text) := by
    intro text c hc
    cases hc
    exact hlast
  have hbehind : ∀ text, tokens (front ++ [last] ++ text)
      = tokens front ++ symbolTokens last ++ tokens text := by
    intro text
    rw [List.append_assoc, List.singleton_append, tokens_append (hbreaks text), tokens_cons hlast,
      List.append_assoc]
  have hpiece : piece.tokens = tokens front ++ symbolTokens last := by
    unfold Piece.tokens
    rw [htext, ← List.append_nil (front ++ [last]), hbehind, tokens_nil, List.append_nil]
  rw [htext, hbehind, hpiece]

/-- The tokens of pieces that are set apart are those of one piece after another. -/
theorem tokens_pieces {pieces : List Piece} (h : Apart pieces) :
    tokens (textOf pieces) = pieces.flatMap Piece.tokens := by
  induction pieces with
  | nil => rfl
  | cons p rest ih =>
    have hrest : tokens (textOf rest) = rest.flatMap Piece.tokens := ih h.of_cons
    have hhead : tokens (p.text.toList ++ textOf rest) = p.tokens ++ tokens (textOf rest) := by
      rcases rest with _ | ⟨q, rest⟩
      · rw [textOf, List.flatMap_nil, List.append_nil, tokens_nil, List.append_nil]
        rfl
      · rcases (List.isChain_cons_cons.1 h).1 with hp | hq
        · exact tokens_append_of_setsApart hp _
        · exact tokens_append (breaks_of_setsApart hq _)
    rw [List.flatMap_cons, ← hrest, ← hhead]
    rfl

/-! ## Pieces set apart -/

theorem apart_cons {s : Piece} (hs : s.setsApart = true) {pieces : List Piece} (h : Apart pieces) :
    Apart (s :: pieces) :=
  List.isChain_cons.2 ⟨fun _ _ => .inl hs, h⟩

theorem apart_append {front : List Piece} (hfront : Apart front) {s : Piece} (hs : s.setsApart = true)
    {rest : List Piece} (hrest : Apart (s :: rest)) : Apart (front ++ s :: rest) := by
  refine List.isChain_append.2 ⟨hfront, hrest, ?_⟩
  rintro p - q hq
  cases hq
  exact .inr hs

/-- Fixed words with spaces on both sides are set apart from whatever follows. -/
theorem apart_spaced (words : List Word) {rest : List Piece} (h : Apart rest) :
    Apart (spaced words ++ rest) := by
  induction words with
  | nil => exact apart_cons rfl h
  | cons w words ih =>
    refine apart_cons rfl (List.isChain_cons.2 ⟨?_, ih⟩)
    intro q hq
    refine .inr ?_
    cases words <;> cases hq <;> rfl

/-- Pieces with a separator between each two are set apart when the pieces are. -/
theorem apart_intercalate {s : Piece} {sep : List Piece} (hs : s.setsApart = true)
    (hsep : ∀ rest, Apart rest → Apart (s :: sep ++ rest)) {parts : List (List Piece)}
    (h : ∀ part ∈ parts, Apart part) : Apart ((s :: sep).intercalate parts) := by
  induction parts with
  | nil => exact List.isChain_nil
  | cons part parts ih =>
    have hpart : Apart part := h part (List.mem_cons_self ..)
    have hrest : Apart ((s :: sep).intercalate parts) :=
      ih fun other hother => h other (List.mem_cons_of_mem _ hother)
    cases parts with
    | nil => rwa [List.intercalate_singleton]
    | cons next parts =>
      rw [List.intercalate_cons_cons, List.append_assoc]
      exact apart_append hpart hs (hsep _ hrest)

theorem apart_commaSeparated {parts : List (List Piece)} (h : ∀ part ∈ parts, Apart part) :
    Apart (commaSeparated parts) := by
  have hcomma : ∀ rest, Apart rest → Apart (.word .comma :: [.word .space] ++ rest) :=
    fun _ hrest => apart_cons rfl (apart_cons rfl hrest)
  exact apart_intercalate rfl hcomma h

theorem apart_joined {word : Word} {parts : List (List Piece)} (h : ∀ part ∈ parts, Apart part) :
    Apart ((spaced [word]).intercalate parts) :=
  apart_intercalate rfl (fun _ => apart_spaced [word]) h

/-- The tokens of parts with a separator between each two. -/
theorem tokens_intercalate (sep : List Piece) (parts : List (List Piece)) :
    (sep.intercalate parts).flatMap Piece.tokens
      = (sep.flatMap Piece.tokens).intercalate (parts.map (List.flatMap Piece.tokens)) := by
  induction parts with
  | nil => rfl
  | cons part parts ih =>
    cases parts with
    | nil => simp only [List.map_cons, List.map_nil, List.intercalate_singleton]
    | cons next parts =>
      rw [List.intercalate_cons_cons, List.flatMap_append, List.flatMap_append, ih]
      simp only [List.map_cons, List.intercalate_cons_cons]

/-! ## The tokens of single pieces -/

/-- What a fixed word is read as. -/
def Word.tokens : Word → List Token
  | .from => [.keyword .from]
  | .where => [.keyword .where]
  | .and => [.keyword .and]
  | .or => [.keyword .or]
  | .in => [.keyword .in]
  | .is => [.keyword .is]
  | .not => [.keyword .not]
  | .null => [.keyword .null]
  | .order => [.keyword .order]
  | .limit => [.keyword .limit]
  | .star => [.symbol '*']
  | .comma => [.symbol ',']
  | .opening => [.symbol '(']
  | .closing => [.symbol ')']
  | .equals => [.symbol '=']
  | .differs => [.symbol '<', .symbol '>']
  | .zero => [.number 0]
  | .one => [.number 1]
  | .minusOne => [.symbol '-', .number 1]
  | .space => []
  | word => [.name word.text]

@[simp] theorem tokens_word (word : Word) : (Piece.word word).tokens = word.tokens := by
  cases word <;> decide +kernel

/-- A word between spaces is read as its keyword. -/
theorem tokens_spaced {word : Word} {keyword : Keyword} (h : word.tokens = [.keyword keyword]) :
    (spaced [word]).flatMap Piece.tokens = [.keyword keyword] := by
  have hspace : Word.space.tokens = [] := rfl
  simp [spaced, h, hspace]

/-- Spaced words are read on their own, whatever follows. -/
theorem tokens_spaced_append (word : Word) (rest : List Piece) :
    ∃ others, tokens (textOf (spaced [word] ++ rest)) = word.tokens ++ others := by
  have htext : textOf (spaced [word] ++ rest) = (Piece.word .space).text.toList
      ++ ((Piece.word word).text.toList ++ ((Piece.word .space).text.toList ++ textOf rest)) := by
    simp [textOf, spaced]
  refine ⟨(Piece.word .space).tokens ++ tokens (textOf rest), ?_⟩
  have hspace : (Piece.word .space).tokens = [] := tokens_word .space
  have hword : tokens (Piece.word word).text.toList = word.tokens := tokens_word word
  rw [htext, tokens_append_of_setsApart rfl, tokens_append (breaks_of_setsApart rfl _),
    tokens_append_of_setsApart rfl, hspace, hword]
  rfl

/-- A plain name is read as itself. -/
theorem tokens_name {name : String} (h : PlainName name) : (Piece.name name).tokens = [.name name] := by
  have hword : ∀ c ∈ name.toList, isWordChar c = true := by
    intro c hc
    rw [isWordChar, List.all_eq_true.1 h.chars c hc, Bool.true_or]
  have hread : wordTokens name.toList = [Token.ofWord name.toList] := by
    unfold wordTokens
    split
    · exact absurd ‹_› h.ne_nil
    · rfl
  -- The mark of a parameter is not a character of names.
  have hmark : ∀ digits, name.toList ≠ '?' :: digits := by
    intro digits heq
    have hchar := List.all_eq_true.1 h.chars '?' (heq ▸ List.mem_cons_self ..)
    exact absurd hchar (by decide)
  change tokensFrom [] name.toList = _
  rw [tokensFrom_word hword, List.nil_append, hread, Token.ofWord.eq_2 _ hmark, String.ofList_toList,
    h.not_keyword, h.not_number]
  rfl

theorem placeholder_toList (number : Nat) :
    (Piece.placeholder number).text.toList = '?' :: Nat.toDigits 10 number := by
  change ("?" ++ toString number).toList = _
  rw [String.toList_append, Nat.toString_eq_repr, Nat.toList_repr]
  rfl

/-- The placeholder of a parameter is read as that parameter. -/
@[simp] theorem tokens_placeholder (number : Nat) :
    (Piece.placeholder number).tokens = [.parameter number] := by
  have hdigit : ∀ c ∈ Nat.toDigits 10 number, c.isDigit = true :=
    fun c hc => Nat.isDigit_of_mem_toDigits (by decide) (by decide) hc
  have hword : ∀ c ∈ '?' :: Nat.toDigits 10 number, isWordChar c = true := by
    intro c hc
    rcases List.mem_cons.1 hc with rfl | hc
    · decide
    · simp [isWordChar, isNameChar, Char.isAlphanum, hdigit c hc]
  unfold Piece.tokens
  rw [placeholder_toList, tokens, tokensFrom_word hword]
  simp [wordTokens, Token.ofWord, List.all_eq_true.2 hdigit, Nat.ofDigitChars_ten_toDigits]

end Taskboard.Sql
