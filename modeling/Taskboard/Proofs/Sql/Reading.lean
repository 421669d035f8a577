/-
Reading conditions from tokens. AND binds closer than OR, parentheses closer than both, and what
stands behind a condition is left over. A list of parts with one word between each two is read as
their conjunction or disjunction (`readsAs_conjunction`, `readsAs_disjunction`), and parts in
parentheses are a part again (`isPart_group`).
-/
import Taskboard.Proofs.Sql.Condition
import Taskboard.Proofs.Sql.Tokens

namespace Taskboard.Sql

/-! ## Reading -/

/-- The operand that a token stands for. -/
def Operand.ofToken? : Token → Option Operand
  | .name name => some (.column name)
  | .parameter index => some (.parameter index)
  | .number value => some (.number value)
  | _ => none

/-- Operands with commas between them, up to the closing parenthesis. -/
def readItems : List Token → Option (List Operand × List Token)
  | token :: .symbol ',' :: rest =>
    match Operand.ofToken? token, readItems rest with
    | some item, some (items, rest) => some (item :: items, rest)
    | _, _ => none
  | token :: .symbol ')' :: rest => (Operand.ofToken? token).map fun item => ([item], rest)
  | _ => none

/-- What is said about an operand. -/
def readRelation (left : Operand) : List Token → Option (Condition × List Token)
  | .symbol '=' :: token :: rest => (Operand.ofToken? token).map fun right => (.equals left right, rest)
  | .symbol '<' :: .symbol '>' :: token :: rest =>
    (Operand.ofToken? token).map fun right => (.differs left right, rest)
  | .keyword .in :: .symbol '(' :: rest =>
    (readItems rest).map fun (items, rest) => (.among left items, rest)
  | .keyword .is :: .keyword .null :: rest => some (.missing left, rest)
  | .keyword .is :: .keyword .not :: .keyword .null :: rest => some (.present left, rest)
  | _ => none

/-- A single comparison. -/
def readComparison : List Token → Option (Condition × List Token)
  | token :: rest => (Operand.ofToken? token).bind fun left => readRelation left rest
  | [] => none

/-- Parts with a word between each two, at most `count` of them. -/
def readChain (joint : Keyword) (join : Condition → Condition → Condition)
    (readPart : List Token → Option (Condition × List Token)) :
    Nat → List Token → Option (Condition × List Token)
  | 0, _ => none
  | count + 1, text =>
    match readPart text with
    | some (first, .keyword word :: rest) =>
      if word = joint then
        (readChain joint join readPart count rest).map fun (others, rest) => (join first others, rest)
      else some (first, .keyword word :: rest)
    | other => other

/-- Alternatives of conjunctions of parts. A text has at most one more part than it has tokens. -/
def readAlternatives (readPart : List Token → Option (Condition × List Token)) (text : List Token) :
    Option (Condition × List Token) :=
  readChain .or .or (readChain .and .and readPart (text.length + 1)) (text.length + 1) text

/-- A comparison, or alternatives in parentheses, with parentheses at most `depth` deep. -/
def readPart : Nat → List Token → Option (Condition × List Token)
  | 0, _ => none
  | depth + 1, .symbol '(' :: rest =>
    match readAlternatives (readPart depth) rest with
    | some (condition, .symbol ')' :: rest) => some (condition, rest)
    | _ => none
  | _ + 1, text => readComparison text

/-- The condition at the front of a text, and what stands behind it. Parentheses are no deeper than
the text has tokens. -/
def readCondition (text : List Token) : Option (Condition × List Token) :=
  readAlternatives (readPart (text.length + 1)) text

/-- Whether the conditions of a statement end here: at the end of the text, at its sorting, or at its
bounds. -/
def endsConditions : List Token → Bool
  | [] => true
  | .keyword .order :: _ => true
  | .keyword .limit :: _ => true
  | _ => false

/-- What stands behind the name of a table, with the word WHERE and a condition or without. -/
def readWhere : List Token → Option (Option Condition)
  | .keyword .where :: rest =>
    match readCondition rest with
    | some (condition, rest) => if endsConditions rest then some (some condition) else none
    | none => none
  | rest => if endsConditions rest then some none else none

/-- The truth of a condition that may be absent: no condition is one that every row meets. -/
def truthOf (row : Record) (params : List Json) : Option Condition → Truth
  | some condition => condition.truth row params
  | none => .yes

/-- Whether a row meets the conditions of a statement, as its text and its parameters have them; none
for a text that cannot be read. -/
def verdict? (statement : Statement) (row : Record) : Option Truth :=
  match (tokens statement.text.toList).dropWhile (· != .keyword .from) with
  | .keyword .from :: .name _ :: rest => (readWhere rest).map (truthOf row statement.params)
  | _ => none

/-! ## What is read from joined parts -/

/-- The tokens are read as the condition by a reader of parts, whatever stands behind them. -/
def ReadsAs (readPart : List Token → Option (Condition × List Token)) (follows : List Token → Prop)
    (text : List Token) (condition : Condition) : Prop :=
  ∀ rest, follows rest → readPart (text ++ rest) = some (condition, rest)

/-- A text that is empty or begins with another token than a keyword. -/
def Stops (joint : Keyword) (text : List Token) : Prop :=
  text.head? ≠ some (.keyword joint)

theorem readsAs_chain {joint : Keyword} {join : Condition → Condition → Condition}
    {readPart : List Token → Option (Condition × List Token)} {follows : List Token → Prop}
    (hjoint : ∀ rest, follows (.keyword joint :: rest)) {texts : List (List Token)}
    {text : List Token} {first : Condition} {others : List Condition}
    (htext : ReadsAs readPart follows text first)
    (htexts : List.Forall₂ (ReadsAs readPart follows) texts others) {count : Nat}
    (hcount : texts.length < count) :
    ReadsAs (readChain joint join readPart count) (fun rest => follows rest ∧ Stops joint rest)
      ([Token.keyword joint].intercalate (text :: texts)) (Condition.joined join first others) := by
  induction htexts generalizing text first count with
  | nil =>
    rintro rest ⟨hfollows, hstops⟩
    obtain ⟨count, rfl⟩ := Nat.exists_eq_add_one.2 hcount
    rw [List.intercalate_singleton, readChain, htext rest hfollows]
    rcases rest with _ | ⟨token, rest⟩
    · rfl
    · cases token with
      | keyword word =>
        have hword : word ≠ joint := fun heq => hstops (heq ▸ rfl)
        exact if_neg hword
      | _ => rfl
  | cons hnext _ ih =>
    rintro rest hrest
    obtain ⟨count, rfl⟩ : ∃ n, count = n + 1 := ⟨count - 1, by omega⟩
    have hothers := ih hnext (Nat.lt_of_succ_lt_succ hcount) rest hrest
    rw [List.intercalate_cons_cons, readChain, List.append_assoc, List.append_assoc,
      List.singleton_append, htext _ (hjoint _)]
    simp only [if_true, hothers]
    rfl

/-- A part on its own is all there is to read. -/
theorem readsAs_single {joint : Keyword} {join : Condition → Condition → Condition}
    {readPart : List Token → Option (Condition × List Token)} {follows : List Token → Prop}
    (hjoint : ∀ rest, follows (.keyword joint :: rest)) {text : List Token} {condition : Condition}
    (htext : ReadsAs readPart follows text condition) {count : Nat} (hcount : 0 < count) :
    ReadsAs (readChain joint join readPart count) (fun rest => follows rest ∧ Stops joint rest) text
      condition := by
  have hchain : ReadsAs (readChain joint join readPart count) _ _ _ :=
    readsAs_chain hjoint htext .nil hcount
  rw [List.intercalate_singleton] at hchain
  exact hchain

theorem length_le_intercalate (joint : Token) (text : List Token) (texts : List (List Token)) :
    texts.length ≤ ([joint].intercalate (text :: texts)).length := by
  induction texts generalizing text with
  | nil => exact Nat.zero_le _
  | cons next texts ih =>
    have hrest := ih next
    rw [List.intercalate_cons_cons]
    simp only [List.length_append, List.length_cons, List.length_nil] at hrest ⊢
    omega

section Alternatives

variable {readPart : List Token → Option (Condition × List Token)} {text : List Token}
  {texts : List (List Token)} {first : Condition} {others : List Condition}

/-- Parts with AND between them are read as their conjunction. -/
theorem readsAs_conjunction (htext : ReadsAs readPart (fun _ => True) text first)
    (htexts : List.Forall₂ (ReadsAs readPart fun _ => True) texts others) :
    ReadsAs (readAlternatives readPart) (fun rest => Stops .and rest ∧ Stops .or rest)
      ([Token.keyword .and].intercalate (text :: texts)) (Condition.joined .and first others) := by
  rintro rest ⟨hand, hor⟩
  have hlength := length_le_intercalate (.keyword .and) text texts
  have hconjunction : ReadsAs (readChain .and .and readPart
      (([Token.keyword .and].intercalate (text :: texts) ++ rest).length + 1)) _ _ _ :=
    readsAs_chain (fun _ => trivial) htext htexts (by rw [List.length_append]; omega)
  exact readsAs_single (fun _ => ⟨trivial, by simp [Stops]⟩) hconjunction (Nat.succ_pos _) rest
    ⟨⟨trivial, hand⟩, hor⟩

/-- Parts with OR between them are read as their disjunction. -/
theorem readsAs_disjunction (htext : ReadsAs readPart (fun _ => True) text first)
    (htexts : List.Forall₂ (ReadsAs readPart fun _ => True) texts others) :
    ReadsAs (readAlternatives readPart) (fun rest => Stops .and rest ∧ Stops .or rest)
      ([Token.keyword .or].intercalate (text :: texts)) (Condition.joined .or first others) := by
  rintro rest ⟨hand, hor⟩
  have hlength := length_le_intercalate (.keyword .or) text texts
  -- Each alternative is a conjunction of one part, which ends before OR.
  have hsingle : ∀ part condition, ReadsAs readPart (fun _ => True) part condition →
      ReadsAs (readChain .and .and readPart
        (([Token.keyword .or].intercalate (text :: texts) ++ rest).length + 1)) _ part condition :=
    fun _ _ hpart => readsAs_single (fun _ => trivial) hpart (Nat.succ_pos _)
  exact readsAs_chain (fun _ => ⟨trivial, by simp [Stops]⟩) (hsingle _ _ htext)
    (htexts.imp hsingle) (by rw [List.length_append]; omega) rest ⟨⟨trivial, hand⟩, hor⟩

end Alternatives

/-! ## What is read from single parts -/

/-- Alternatives in parentheses are one part. -/
theorem readsAs_parentheses {depth : Nat} {text : List Token} {condition : Condition}
    (h : ReadsAs (readAlternatives (readPart depth)) (fun rest => Stops .and rest ∧ Stops .or rest) text
      condition) :
    ReadsAs (readPart (depth + 1)) (fun _ => True) (.symbol '(' :: text ++ [.symbol ')']) condition := by
  intro rest _
  have hinner := h (.symbol ')' :: rest) ⟨by simp [Stops], by simp [Stops]⟩
  rw [List.cons_append, List.cons_append, List.append_assoc, List.singleton_append, readPart, hinner]
  rfl

/-- A text that is read as one part, by any reader that can go as deep as the text is long. -/
def IsPart (text : List Token) (condition : Condition) : Prop :=
  ∀ depth, text.length < depth → ReadsAs (readPart depth) (fun _ => True) text condition

/-- A comparison is a part. -/
theorem isPart_comparison {token : Token} {others : List Token} {condition : Condition}
    (htoken : token ≠ .symbol '(')
    (hread : ∀ rest, readComparison (token :: others ++ rest) = some (condition, rest)) :
    IsPart (token :: others) condition := by
  intro depth hdepth rest _
  obtain ⟨depth, rfl⟩ : ∃ n, depth = n + 1 := ⟨depth - 1, by omega⟩
  have hhead : ∀ inner, token :: others ++ rest ≠ .symbol '(' :: inner :=
    fun inner heq => htoken (List.cons.inj heq).1
  rw [readPart.eq_3 _ _ hhead, hread rest]

theorem readsAs_of_isPart {depth : Nat} {texts : List (List Token)} {conditions : List Condition}
    (h : List.Forall₂ IsPart texts conditions) (hdepth : ∀ text ∈ texts, text.length < depth) :
    List.Forall₂ (ReadsAs (readPart depth) fun _ => True) texts conditions := by
  induction h with
  | nil => exact .nil
  | cons hpart _ ih =>
    exact .cons (hpart depth (hdepth _ (List.mem_cons_self ..)))
      (ih fun text htext => hdepth text (List.mem_cons_of_mem _ htext))

theorem length_le_of_mem_intercalate {sep text : List Token} {texts : List (List Token)}
    (h : text ∈ texts) : text.length ≤ (sep.intercalate texts).length := by
  induction texts with
  | nil => cases h
  | cons head texts ih =>
    cases texts with
    | nil =>
      obtain rfl := List.mem_singleton.1 h
      rw [List.intercalate_singleton]
    | cons next texts =>
      rw [List.intercalate_cons_cons, List.length_append, List.length_append]
      rcases List.mem_cons.1 h with rfl | hmem
      · omega
      · have hrest := ih hmem
        omega

/-- Parts with a word between each two are a part in parentheses. -/
theorem isPart_group {joint : Keyword} {join : Condition → Condition → Condition}
    {text : List Token} {texts : List (List Token)} {first : Condition} {others : List Condition}
    (hread : ∀ readPart, ReadsAs readPart (fun _ => True) text first →
      List.Forall₂ (ReadsAs readPart fun _ => True) texts others →
      ReadsAs (readAlternatives readPart) (fun rest => Stops .and rest ∧ Stops .or rest)
        ([Token.keyword joint].intercalate (text :: texts)) (Condition.joined join first others))
    (hparts : List.Forall₂ IsPart (text :: texts) (first :: others)) :
    IsPart (.symbol '(' :: [Token.keyword joint].intercalate (text :: texts) ++ [.symbol ')'])
      (Condition.joined join first others) := by
  intro depth hdepth
  -- The parentheses are two tokens more than the parts, so one level less is deep enough for those.
  simp only [List.length_append, List.length_cons, List.length_nil] at hdepth
  obtain ⟨depth, rfl⟩ : ∃ n, depth = n + 1 := ⟨depth - 1, by omega⟩
  have hlength : ∀ part ∈ text :: texts, part.length < depth := by
    intro part hpart
    have hle := @length_le_of_mem_intercalate [.keyword joint] _ _ hpart
    omega
  have hreads := readsAs_of_isPart hparts hlength
  rcases hreads with _ | ⟨hfirst, hothers⟩
  exact readsAs_parentheses (hread _ hfirst hothers)

/-- What is read at the front of a text of parts with AND between them. -/
theorem readCondition_conjunction {text : List Token} {texts : List (List Token)} {first : Condition}
    {others : List Condition} (hparts : List.Forall₂ IsPart (text :: texts) (first :: others))
    {rest : List Token} (hand : Stops .and rest) (hor : Stops .or rest) :
    readCondition ([Token.keyword .and].intercalate (text :: texts) ++ rest)
      = some (Condition.joined .and first others, rest) := by
  have hlength : ∀ part ∈ text :: texts, part.length
      < ([Token.keyword .and].intercalate (text :: texts) ++ rest).length + 1 := by
    intro part hpart
    have hle := @length_le_of_mem_intercalate [.keyword .and] _ _ hpart
    rw [List.length_append]
    omega
  have hreads := readsAs_of_isPart hparts hlength
  rcases hreads with _ | ⟨hfirst, hothers⟩
  exact readsAs_conjunction hfirst hothers rest ⟨hand, hor⟩

/-- What follows IN is read item by item. -/
theorem readItems_commas {tokens : List Token} {items : List Operand} (hne : tokens ≠ [])
    (h : List.Forall₂ (fun t i => Operand.ofToken? t = some i) tokens items) (rest : List Token) :
    readItems ([Token.symbol ','].intercalate (tokens.map fun t => [t]) ++ .symbol ')' :: rest)
      = some (items, rest) := by
  induction h with
  | nil => exact absurd rfl hne
  | cons hitem htail ih =>
    cases htail with
    | nil => simp [readItems, hitem]
    | cons hnext hothers =>
      have hrest := ih (List.cons_ne_nil _ _)
      rw [List.map_cons] at hrest
      rw [List.map_cons, List.map_cons, List.intercalate_cons_cons, List.append_assoc,
        List.append_assoc, List.singleton_append, List.singleton_append, readItems, hitem, hrest]

end Taskboard.Sql
