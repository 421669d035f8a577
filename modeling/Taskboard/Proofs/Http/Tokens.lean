/-
Tokens in requests. An authorization gives a token when it is the word "bearer" in some case, a space, and a text with
the token in it (`ofAuthorization?_eq_some_iff`); blank characters in front of the word do not matter, nor do any
around the token (`ofAuthorization?_iff_grammar`). What is owed to a caller with one header or the other follows from
this (`tokens_lawful`).
-/
import Taskboard.Http.Headers
import Taskboard.Proofs.Text.Case

namespace Taskboard

open Text

namespace Token

variable {authorization scheme word other front back rest token : String}

/-! ## Authorizations -/

theorem solid_scheme (h : sameWord scheme "bearer" = true) : Solid scheme :=
  .of_sameWord ⟨by decide, by simp [isBlank]⟩ h

theorem toList_spaced (scheme rest : String) :
    (scheme ++ " " ++ rest).toList = scheme.toList ++ ' ' :: rest.toList := by
  simp

/-- An authorization gives a token when, trimmed, it is the word "bearer" in some case, a space, and a text that is
not blank; the token is what is left of that text. -/
theorem ofAuthorization?_eq_some_iff : ofAuthorization? authorization = some token ↔
    ∃ scheme rest, trim authorization = scheme ++ " " ++ rest ∧ sameWord scheme "bearer" = true ∧
      nonBlank? rest = some token := by
  constructor
  · intro h
    unfold ofAuthorization? at h
    generalize hchars : (trim authorization).toList = cs at h
    have hcut := @List.takeWhile_append_dropWhile _ (· ≠ ' ') cs
    have hstop := List.head?_dropWhile_not (· ≠ ' ') cs
    dsimp only at h
    rcases hrest : cs.dropWhile (· ≠ ' ') with _ | ⟨c, rest⟩ <;> rw [hrest] at h hcut hstop
    · cases h
    obtain rfl : c = ' ' := by simpa using hstop
    obtain ⟨hscheme, htoken⟩ := Option.ite_none_right_eq_some.1 h
    refine ⟨String.ofList (cs.takeWhile (· ≠ ' ')), String.ofList rest, ?_, hscheme, htoken⟩
    rw [← String.toList_inj, toList_spaced, String.toList_ofList, String.toList_ofList, hcut, hchars]
  · rintro ⟨scheme, rest, htrim, hscheme, htoken⟩
    have hword : ∀ c ∈ scheme.toList, decide (c ≠ ' ') = true := fun c hc => by
      rw [decide_eq_true_eq]
      rintro rfl
      exact absurd ((solid_scheme hscheme).unblank _ hc) (by decide)
    unfold ofAuthorization?
    dsimp only
    rw [htrim, toList_spaced, List.takeWhile_append_of_pos hword, List.dropWhile_append_of_pos hword]
    simp [hscheme, htoken]

theorem ofAuthorization?_congr (h : trim authorization = trim other) :
    ofAuthorization? authorization = ofAuthorization? other := by
  rw [ofAuthorization?, ofAuthorization?, h]

/-- An authorization gives a token when it is the word "bearer" in some case behind blank characters, a space, and a
text with the token in it. -/
theorem ofAuthorization?_iff_grammar : ofAuthorization? authorization = some token ↔
    ∃ front scheme rest, authorization = front ++ scheme ++ " " ++ rest ∧ Blank front ∧
      sameWord scheme "bearer" = true ∧ nonBlank? rest = some token := by
  constructor
  · intro h
    obtain ⟨scheme, rest, htrim, hscheme, htoken⟩ := ofAuthorization?_eq_some_iff.1 h
    obtain ⟨front, back, hfront, hback, hall⟩ := exists_surrounded authorization
    refine ⟨front, scheme, rest ++ back, ?_, hfront, hscheme, ?_⟩
    · rw [hall, htrim]
      simp only [String.append_assoc]
    · rw [nonBlank?_congr (trim_append_blank rest hback), htoken]
  · rintro ⟨front, scheme, rest, rfl, hfront, hscheme, htoken⟩
    obtain ⟨gap, back, hgap, hback, hrest⟩ := exists_surrounded rest
    have htrimmed := trimmed_of_nonBlank? htoken
    obtain rfl := eq_trim_of_nonBlank? htoken
    -- The word and the token are not blank at their ends, so nothing between them is taken off by trimming.
    have hends := (solid_scheme hscheme).trimmed.append (" " ++ gap) htrimmed
    have hall : front ++ scheme ++ " " ++ rest = front ++ (scheme ++ (" " ++ gap) ++ trim rest) ++ back := by
      conv_lhs => rw [hrest]
      simp only [String.append_assoc]
    rw [hall, ofAuthorization?_congr (trim_surrounded hfront hback), ofAuthorization?_eq_some_iff]
    refine ⟨scheme, gap ++ trim rest, ?_, hscheme, ?_⟩
    · rw [hends.fixed]
      simp only [String.append_assoc]
    · rw [nonBlank?_congr (trim_blank_append hgap _), htrimmed.nonBlank?_eq]

/-- Of a text that is cut at a space, a beginning without a space lies in front of it. -/
theorem exists_append_of_spaced (hword : ' ' ∉ word.toList) (h : word ++ rest = front ++ " " ++ back) :
    ∃ more, front = word ++ more ∧ rest = more ++ " " ++ back := by
  have hchars : word.toList ++ rest.toList = front.toList ++ ' ' :: back.toList := by
    rw [← String.toList_append, h, toList_spaced]
  rcases List.append_eq_append_iff.1 hchars with ⟨more, hfront, hrest⟩ | ⟨more, hfront, hrest⟩
  · refine ⟨String.ofList more, ?_, ?_⟩
    · rw [← String.toList_inj, String.toList_append, String.toList_ofList, hfront]
    · rw [← String.toList_inj, toList_spaced, String.toList_ofList, hrest]
  · rcases List.cons_eq_append_iff.1 hrest with ⟨rfl, hback⟩ | ⟨more, rfl, -⟩
    · refine ⟨"", ?_, ?_⟩
      · rw [← String.toList_inj, String.append_empty, hfront, List.append_nil]
      · rw [← String.toList_inj, toList_spaced, hback]
        rfl
    · exact absurd (hfront ▸ List.mem_append_right _ (List.mem_cons_self ..)) hword

theorem ofAuthorization?_of_recased (hword : ' ' ∉ word.toList) (hsame : sameWord other word = true)
    (h : ofAuthorization? (word ++ rest) = some token) : ofAuthorization? (other ++ rest) = some token := by
  obtain ⟨front, scheme, text, hall, hfront, hscheme, htoken⟩ := ofAuthorization?_iff_grammar.1 h
  obtain ⟨more, hstart, rfl⟩ := exists_append_of_spaced hword hall
  have hmore : sameWord (other ++ more) (front ++ scheme) = true := hstart ▸ sameWord_append hsame more
  obtain ⟨front', scheme', hcut, hblank, hother⟩ := exists_append_of_sameWord hmore
  refine ofAuthorization?_iff_grammar.2 ⟨front', scheme', text, ?_, hfront.of_sameWord hblank, ?_, htoken⟩
  · rw [← hcut]
    simp only [String.append_assoc]
  · exact sameWord_iff.2 ((sameWord_iff.1 hother).trans (sameWord_iff.1 hscheme))

/-- The case of the letters in front of the first space does not matter. -/
theorem ofAuthorization?_recased (hword : ' ' ∉ word.toList) (hsame : sameWord word other = true) (rest : String) :
    ofAuthorization? (word ++ rest) = ofAuthorization? (other ++ rest) := by
  have hother := not_mem_of_sameWord hword (sameWord_symm hsame)
  exact Option.ext fun token => ⟨ofAuthorization?_of_recased hword (sameWord_symm hsame),
    ofAuthorization?_of_recased hother hsame⟩

/-- Behind the word "bearer" in any case and spaces, a trimmed text is the token. -/
theorem ofAuthorization?_bearer (hscheme : sameWord scheme "bearer" = true) {spaces : String} (hne : spaces ≠ "")
    (hspaces : ∀ c ∈ spaces.toList, c = ' ') (htoken : Trimmed token) :
    ofAuthorization? (scheme ++ spaces ++ token) = some token := by
  obtain ⟨c, more, hmore⟩ := List.exists_cons_of_ne_nil (mt String.toList_eq_nil_iff.1 hne)
  rw [hmore] at hspaces
  obtain ⟨rfl, hothers⟩ := List.forall_mem_cons.1 hspaces
  have hblank : Blank (String.ofList more) := fun c hc => by
    rw [String.toList_ofList] at hc
    rw [hothers c hc]
    decide
  refine ofAuthorization?_iff_grammar.2 ⟨"", scheme, String.ofList more ++ token, ?_, blank_empty, hscheme, ?_⟩
  · rw [← String.toList_inj, toList_spaced]
    simp [hmore]
  · rw [nonBlank?_congr (trim_blank_append hblank token), htoken.nonBlank?_eq]

/-! ## Headers -/

theorem select?_of_blank {agent? : Option String} (h : ∀ agent ∈ agent?, Blank agent)
    (authorization? : Option String) : select? agent? authorization? = authorization?.bind ofAuthorization? := by
  have hnone : agent?.bind nonBlank? = none :=
    Option.bind_eq_none_iff.2 fun agent hagent => nonBlank?_eq_none_iff.2 (trim_eq_empty_iff.2 (h agent hagent))
  rw [select?, hnone]

theorem select?_of_not_blank {agent : String} (h : ¬ Blank agent) (authorization? : Option String) :
    select? (some agent) authorization? = some (trim agent) := by
  rw [select?, Option.bind_some, nonBlank?_eq_some_iff_not_blank.2 ⟨h, rfl⟩]

theorem select?_congr (h : ofAuthorization? authorization = ofAuthorization? other) (agent? : Option String) :
    select? agent? (some authorization) = select? agent? (some other) := by
  rw [select?, select?, Option.bind_some, Option.bind_some, h]

/-- Where a token is found, it is trimmed. -/
theorem trimmed_of_select? {agent? authorization? : Option String} (h : select? agent? authorization? = some token) :
    Trimmed token := by
  by_cases hblank : ∀ agent ∈ agent?, Blank agent
  · rw [select?_of_blank hblank] at h
    obtain ⟨authorization, -, h⟩ := Option.bind_eq_some_iff.1 h
    obtain ⟨_, _, -, -, htoken⟩ := ofAuthorization?_eq_some_iff.1 h
    exact trimmed_of_nonBlank? htoken
  · obtain ⟨agent, rfl, hagent⟩ : ∃ agent, agent? = some agent ∧ ¬ Blank agent := by simpa using hblank
    rw [select?_of_not_blank hagent] at h
    exact trimmed_of_nonBlank? (nonBlank?_eq_some_iff_not_blank.2 ⟨hagent, (Option.some.inj h).symm⟩)

/-- What is owed to callers by a way to find the token of a request: in what the header of its own holds, and in what
the authorization says. -/
structure Lawful (find? : Option String → Option String → Option String) : Prop where
  /-- A token is not blank and has no blank characters at its ends. -/
  trimmed : ∀ {agent? authorization? token}, find? agent? authorization? = some token → Trimmed token
  /-- A header of its own that is blank is as good as none. -/
  blank : ∀ {agent}, Blank agent → ∀ authorization?, find? (some agent) authorization? = find? none authorization?
  /-- One that is not blank has the token, whatever the authorization is. -/
  preferred : ∀ {agent}, ¬ Blank agent → ∀ authorization?, find? (some agent) authorization? = some (trim agent)
  /-- Blank characters around the header of its own do not matter. -/
  agent_surrounded : ∀ {front back}, Blank front → Blank back → ∀ agent authorization?,
    find? (some (front ++ agent ++ back)) authorization? = find? (some agent) authorization?
  /-- Nor do blank characters around the authorization. -/
  surrounded : ∀ {front back}, Blank front → Blank back → ∀ agent? authorization,
    find? agent? (some (front ++ authorization ++ back)) = find? agent? (some authorization)
  /-- The case of its word does not matter: of whatever stands behind blank characters and in front of a space. -/
  recased : ∀ {front word other}, Blank front → ' ' ∉ word.toList → sameWord word other = true → ∀ agent? rest,
    find? agent? (some (front ++ word ++ rest)) = find? agent? (some (front ++ other ++ rest))
  /-- Behind the word "bearer" in any case and spaces, a trimmed text is the token. -/
  bearer : ∀ {agent? scheme spaces token}, (∀ agent ∈ agent?, Blank agent) → sameWord scheme "bearer" = true →
    spaces ≠ "" → (∀ c ∈ spaces.toList, c = ' ') → Trimmed token →
    find? agent? (some (scheme ++ spaces ++ token)) = some token
  /-- There is none without a header. -/
  neither : find? none none = none
  /-- An authorization has a token just when, trimmed, it is this word, a space and a text that is not blank. -/
  only_bearer : ∀ {authorization token}, find? none (some authorization) = some token ↔ ∃ scheme rest,
    trim authorization = scheme ++ " " ++ rest ∧ sameWord scheme "bearer" = true ∧ ¬ Blank rest ∧ token = trim rest

/-- Requests are searched lawfully for their token, in what their headers are looked up to hold. -/
theorem tokens_lawful : Lawful select? ∧ ∀ headers : Http.Headers,
    headers.token? = select? (headers.value? agentHeader) (headers.value? authorizationHeader) := by
  refine ⟨?_, fun _ => rfl⟩
  constructor
  case trimmed => exact trimmed_of_select?
  case blank =>
    intro agent hagent authorization?
    rw [select?_of_blank (by simpa using hagent), select?_of_blank (by simp)]
  case preferred => exact select?_of_not_blank
  case agent_surrounded =>
    intro front back hfront hback agent authorization?
    rw [select?, select?, Option.bind_some, Option.bind_some, nonBlank?_congr (trim_surrounded hfront hback)]
  case surrounded =>
    intro front back hfront hback agent? authorization
    exact select?_congr (ofAuthorization?_congr (trim_surrounded hfront hback)) agent?
  case recased =>
    intro front word other hfront hword hsame agent? rest
    refine select?_congr ?_ agent?
    rw [String.append_assoc, String.append_assoc, ofAuthorization?_congr (trim_blank_append hfront _),
      ofAuthorization?_congr (trim_blank_append hfront _), ofAuthorization?_recased hword hsame]
  case bearer =>
    intro agent? scheme spaces token hagent hscheme hne hspaces htoken
    rw [select?_of_blank hagent, Option.bind_some, ofAuthorization?_bearer hscheme hne hspaces htoken]
  case neither => rfl
  case only_bearer =>
    intro authorization token
    rw [select?_of_blank (by simp), Option.bind_some, ofAuthorization?_eq_some_iff]
    simp only [nonBlank?_eq_some_iff_not_blank]

/-- With a blank header of its own a token is found behind the word in capitals, though there are blank characters
around it all; a header that is not blank is taken in its place. -/
theorem tokens_lawful_capitals : Blank " \u3000" ∧ ¬ Blank " key " ∧
    select? (some " \u3000") (some "\tBEARER   a b\u00a0") = some "a b" ∧
    select? (some " key ") (some "\tBEARER   a b\u00a0") = some "key" := by
  obtain ⟨hlaws, -⟩ := tokens_lawful
  have hblank : Blank " \u3000" := by decide +kernel
  have hkey : ¬ Blank " key " := by decide +kernel
  have htoken : Trimmed "a b" := ⟨by decide +kernel, by decide⟩
  refine ⟨hblank, hkey, ?_, ?_⟩
  · have htab : Blank "\t" := by decide +kernel
    have hend : Blank "\u00a0" := by decide +kernel
    have hspaced : select? none (some ("bearer" ++ "   " ++ "a b")) = some "a b" :=
      hlaws.bearer (by simp) (by decide) (by decide) (by simp) htoken
    calc select? (some " \u3000") (some "\tBEARER   a b\u00a0")
        = select? none (some ("\t" ++ ("BEARER" ++ "   a b") ++ "\u00a0")) := hlaws.blank hblank _
      _ = select? none (some ("" ++ "BEARER" ++ "   a b")) := hlaws.surrounded htab hend none _
      _ = select? none (some ("" ++ "bearer" ++ "   a b")) := hlaws.recased blank_empty (by decide) (by decide) none _
      _ = some "a b" := hspaced
  · rw [hlaws.preferred hkey]
    decide +kernel

end Token

end Taskboard
