/-
Texts of strings and numbers, read again with anything behind them. A quoted string reads as itself
(`readString_quoted`). The text of a number is a numeral, of which every digit is read and nothing beyond
(`Numeral.read`); whole numbers and doubles are both written as numerals.
-/
import Taskboard.Json.Parser
import Taskboard.Json.Printer
import Mathlib.Data.List.Basic

namespace Taskboard.Json

/-! ## Strings -/

theorem hex4?_control : ∀ n < 0x20, hex4? '0' '0' (Text.hexDigit ((UInt8.ofNat n).toNat / 16))
    (Text.hexDigit ((UInt8.ofNat n).toNat % 16)) = some n := by
  decide

/-- The code of a character that is no surrogate, whatever comes behind it. -/
theorem readString_code {a b c d : Char} {n : Nat} (hcode : hex4? a b c d = some n) (hn : n < 0xd800)
    (rest : List Char) :
    readString ('\\' :: 'u' :: a :: b :: c :: d :: rest) = prepend (Char.ofNat n) (readString rest) := by
  -- Another code behind it could only be taken for a trailing surrogate.
  by_cases hrest : ∃ e f g h rest', rest = '\\' :: 'u' :: e :: f :: g :: h :: rest'
  · obtain ⟨e, f, g, h, rest', rfl⟩ := hrest
    rw [readString.eq_2, hcode]
    dsimp only
    rw [if_neg (by omega), if_neg (by omega)]
  · rw [readString.eq_3 _ _ _ _ _ fun e f g h rest' heq => hrest ⟨e, f, g, h, rest', heq⟩, hcode]
    exact if_neg (by omega)

/-- A character is read as it was before it was escaped. -/
theorem readString_escape (c : Char) (rest : List Char) :
    readString (escape c ++ rest) = prepend c (readString rest) := by
  unfold escape
  split_ifs with hquote hback hb hf hn hr ht hcontrol
  iterate 7 subst_vars; rfl
  · show readString ('\\' :: 'u' :: '0' :: '0' :: _ :: _ :: rest) = _
    rw [readString_code (hex4?_control _ hcontrol) (by omega), Char.ofNat_toNat]
  · show readString (c :: rest) = _
    rw [readString.eq_5 _ _ hquote (fun _ _ _ _ _ _ _ _ _ h => absurd h hback) (fun _ _ _ _ _ h => absurd h hback)
      (fun _ _ h => absurd h hback)]
    exact if_neg hcontrol

theorem readString_quoted (s rest : List Char) : readString (s.flatMap escape ++ '"' :: rest) = some (s, rest) := by
  induction s with
  | nil => rfl
  | cons c s ih =>
    rw [List.flatMap_cons, List.append_assoc, readString_escape, ih]
    rfl

/-! ## Digits -/

/-- A row of one or more digits. -/
def Digits (cs : List Char) : Prop :=
  cs ≠ [] ∧ ∀ c ∈ cs, c.isDigit = true

/-- What comes next is no digit. -/
def EndsDigits (rest : List Char) : Prop :=
  ∀ c ∈ rest.head?, c.isDigit = false

/-- The values of some digits. -/
def digitValues (cs : List Char) : List Nat :=
  cs.map fun c => c.toNat - '0'.toNat

theorem Digits.append {cs ds : List Char} (hcs : Digits cs) (hds : ∀ c ∈ ds, c.isDigit = true) : Digits (cs ++ ds) :=
  ⟨List.append_ne_nil_of_left_ne_nil hcs.1 ds, fun c hc => (List.mem_append.1 hc).elim (hcs.2 c) (hds c)⟩

theorem Digits.values_cons {cs : List Char} (h : Digits cs) : ∃ first more, digitValues cs = first :: more :=
  List.exists_cons_of_ne_nil (mt List.map_eq_nil_iff.1 h.1)

theorem digits_toDigits (n : Nat) : Digits (Nat.toDigits 10 n) :=
  ⟨Nat.toDigits_ne_nil, fun _ => Nat.isDigit_of_mem_toDigits (by decide) (by decide)⟩

theorem digits_zeros (n : Nat) : ∀ c ∈ Binary64.zeros n, c.isDigit = true := by
  intro c hc
  rw [List.eq_of_mem_replicate hc]
  rfl

theorem readDigits_append {cs rest : List Char} (hcs : ∀ c ∈ cs, c.isDigit = true) (hrest : EndsDigits rest) :
    readDigits (cs ++ rest) = (digitValues cs, rest) := by
  have hnone : rest.takeWhile Char.isDigit = [] ∧ rest.dropWhile Char.isDigit = rest := by
    cases rest with
    | nil => exact ⟨rfl, rfl⟩
    | cons c rest =>
      have hc : c.isDigit = false := hrest c rfl
      exact ⟨List.takeWhile_cons_of_neg (by simp [hc]), List.dropWhile_cons_of_neg (by simp [hc])⟩
  unfold readDigits
  rw [List.takeWhile_append_of_pos hcs, List.dropWhile_append_of_pos hcs, hnone.1, hnone.2, List.append_nil]
  rfl

/-! ## Numerals -/

/-- Nothing comes next that would go on with a number. -/
def Stops (rest : List Char) : Prop :=
  ∀ c ∈ rest.head?, c.isDigit = false ∧ c ≠ '.' ∧ c ≠ 'e' ∧ c ≠ 'E'

theorem Stops.endsDigits {rest : List Char} (h : Stops rest) : EndsDigits rest :=
  fun c hc => (h c hc).1

/-- The text of a number by its parts: whether it is negative, the digits of its whole part and of its
fraction, and the digits of its exponent with whether that is negative. -/
structure Numeral where
  negative : Bool
  whole : List Char
  fraction? : Option (List Char)
  exponent? : Option (Bool × List Char)

/-- The whole part that some digits make: no leading zero but a single one. -/
def wholeOf? : List Nat → Option (List Nat)
  | [] | 0 :: _ :: _ => none
  | digits => some digits

namespace Numeral

variable (numeral : Numeral)

/-- The characters of a fraction. -/
def fractionText : List Char :=
  numeral.fraction?.elim [] ('.' :: ·)

/-- The characters of an exponent. -/
def exponentText : List Char :=
  numeral.exponent?.elim [] fun (minus, digits) => 'e' :: (if minus then '-' else '+') :: digits

/-- The characters of a numeral behind its sign. -/
def magnitude : List Char :=
  numeral.whole ++ (numeral.fractionText ++ numeral.exponentText)

/-- The characters of a numeral. -/
def text : List Char :=
  (if numeral.negative then ['-'] else []) ++ numeral.magnitude

/-- The number that a numeral stands for. -/
def value? : Option Json :=
  (wholeOf? (digitValues numeral.whole)).bind fun whole =>
    numberOf? numeral.negative whole (numeral.fraction?.map digitValues) (numeral.exponent?.map fun (minus, digits) =>
      let n : Int := Text.ofDigits (digitValues digits)
      if minus then -n else n)

/-- Each part that a numeral has is a row of digits. -/
structure Sound : Prop where
  whole : Digits numeral.whole
  fraction : ∀ digits ∈ numeral.fraction?, Digits digits
  exponent : ∀ part ∈ numeral.exponent?, Digits part.2

end Numeral

theorem readWhole_append {cs rest : List Char} (hcs : Digits cs) (hrest : EndsDigits rest) :
    readWhole (cs ++ rest) = (wholeOf? (digitValues cs)).map (·, rest) := by
  unfold readWhole
  rw [readDigits_append hcs.2 hrest]
  match digitValues cs with
  | [] => rfl
  | [0] => rfl
  | 0 :: _ :: _ => rfl
  | (n + 1) :: _ => rfl

section Parts

variable {numeral : Numeral} {rest : List Char} (hrest : Stops rest)
include hrest

theorem exponentText_stops : ∀ c ∈ (numeral.exponentText ++ rest).head?, c.isDigit = false ∧ c ≠ '.' := by
  unfold Numeral.exponentText
  cases numeral.exponent? with
  | none => exact fun c hc => ⟨(hrest c hc).1, (hrest c hc).2.1⟩
  | some part =>
    rintro c hc
    obtain rfl : 'e' = c := Option.some.inj hc
    decide

theorem fractionText_stops : EndsDigits (numeral.fractionText ++ (numeral.exponentText ++ rest)) := by
  unfold Numeral.fractionText
  cases numeral.fraction? with
  | none => exact fun c hc => (exponentText_stops hrest c hc).1
  | some digits =>
    rintro c hc
    obtain rfl : '.' = c := Option.some.inj hc
    rfl

variable (hsound : numeral.Sound)
include hsound

theorem readExponent_append : readExponent (numeral.exponentText ++ rest) =
    some (numeral.exponent?.map fun (minus, digits) =>
      let n : Int := Text.ofDigits (digitValues digits)
      if minus then -n else n, rest) := by
  have hdigits := hsound.exponent
  unfold Numeral.exponentText
  cases hexponent : numeral.exponent? with
  | none =>
    cases rest with
    | nil => rfl
    | cons c rest => exact if_neg (not_or.2 ⟨(hrest c rfl).2.2.1, (hrest c rfl).2.2.2⟩)
  | some part =>
    obtain ⟨minus, digits⟩ := part
    have hpart := hdigits _ (Option.mem_def.2 hexponent)
    have hread : readSign ((if minus then '-' else '+') :: (digits ++ rest)) = (minus, digits ++ rest) := by
      cases minus <;> rfl
    obtain ⟨first, more, hvalues⟩ := hpart.values_cons
    show readExponent ('e' :: ((if minus then '-' else '+') :: (digits ++ rest))) = _
    unfold readExponent
    simp only [true_or, if_true, hread, readDigits_append hpart.2 hrest.endsDigits, hvalues, Option.map_some]

theorem readFraction_append : readFraction (numeral.fractionText ++ (numeral.exponentText ++ rest)) =
    some (numeral.fraction?.map digitValues, numeral.exponentText ++ rest) := by
  have hstops := @exponentText_stops numeral rest hrest
  have hdigits := hsound.fraction
  unfold Numeral.fractionText
  cases hfraction : numeral.fraction? with
  | none =>
    generalize numeral.exponentText ++ rest = cs at hstops ⊢
    show readFraction cs = some (none, cs)
    unfold readFraction
    split
    · exact absurd rfl (hstops '.' rfl).2
    · rfl
  | some digits =>
    have hpart := hdigits _ (Option.mem_def.2 hfraction)
    obtain ⟨first, more, hvalues⟩ := hpart.values_cons
    show readFraction ('.' :: (digits ++ (numeral.exponentText ++ rest))) = _
    unfold readFraction
    simp only [readDigits_append hpart.2 fun c hc => (hstops c hc).1, hvalues, Option.map_some]

/-- A numeral is read to its end, and as the number it stands for. -/
theorem Numeral.read : readNumber (numeral.text ++ rest) = numeral.value?.map (·, rest) := by
  have hminus : readMinus (numeral.text ++ rest) =
      (numeral.negative, numeral.whole ++ (numeral.fractionText ++ (numeral.exponentText ++ rest))) := by
    unfold Numeral.text Numeral.magnitude
    cases numeral.negative with
    | true => simp [readMinus]
    | false =>
      obtain ⟨c, cs, hwhole⟩ := List.exists_cons_of_ne_nil hsound.whole.1
      have hc : c.isDigit = true := hsound.whole.2 c (hwhole ▸ List.mem_cons_self ..)
      have hne : c ≠ '-' := by
        rintro rfl
        cases hc
      simp only [hwhole, Bool.false_eq_true, if_false, List.nil_append, List.cons_append, List.append_assoc]
      unfold readMinus
      split
      · rename_i heq
        exact absurd (List.cons.inj heq).1 hne
      · rfl
  unfold readNumber Numeral.value?
  rw [hminus]
  dsimp only
  rw [readWhole_append hsound.whole (fractionText_stops hrest)]
  cases wholeOf? (digitValues numeral.whole) with
  | none => rfl
  | some whole =>
    simp only [Option.map_some, Option.bind_some, readFraction_append hrest hsound, readExponent_append hrest hsound]

end Parts

/-! ## Written numbers -/

namespace Numeral

/-- The numeral of a whole number. -/
def ofInt (n : Int) : Numeral :=
  ⟨n < 0, Nat.toDigits 10 n.natAbs, none, none⟩

theorem ofInt_sound (n : Int) : (ofInt n).Sound :=
  ⟨digits_toDigits _, nofun, nofun⟩

theorem ofInt_text (n : Int) : (ofInt n).text = writeInt n := by
  by_cases hn : n < 0 <;> simp [text, magnitude, ofInt, writeInt, fractionText, exponentText, hn]

/-- The numeral of some digits, of which the last has a given power of ten, without an exponent. -/
def positional (negative : Bool) (digits : List Char) (power : Int) : Numeral :=
  if 0 ≤ power then ⟨negative, digits ++ Binary64.zeros power.toNat, some ['0'], none⟩
  else
    let places := (-power).toNat
    if places < digits.length then
      ⟨negative, digits.take (digits.length - places), some (digits.drop (digits.length - places)), none⟩
    else ⟨negative, ['0'], some (Binary64.zeros (places - digits.length) ++ digits), none⟩

/-- The numeral of some digits, of which the first has a given power of ten, with an exponent. -/
def scientific (negative : Bool) (digits : List Char) (leading : Int) : Numeral :=
  ⟨negative, digits.take 1, if digits.length ≤ 1 then none else some (digits.drop 1),
    some (leading < 0, Nat.toDigits 10 leading.natAbs)⟩

/-- The numeral of a double. -/
def ofDouble (x : Binary64) : Numeral :=
  if x.units = 0 then ⟨x.negative, ['0'], some ['0'], none⟩
  else
    let (digits, power) := Binary64.shortest x.units
    let text := Nat.toDigits 10 digits
    let leading := power + text.length - 1
    if numberLayout.positionalFrom ≤ leading ∧ leading < numberLayout.positionalUpTo then
      positional x.negative text power
    else scientific x.negative text leading

theorem digits_zero : Digits ['0'] := by
  refine ⟨List.cons_ne_nil _ _, fun c hc => ?_⟩
  rw [List.mem_singleton.1 hc]
  rfl

section Layouts

variable (negative : Bool) {digits : List Char} (hdigits : Digits digits)
include hdigits

theorem positional_sound (power : Int) : (positional negative digits power).Sound := by
  have hmem : ∀ {n : Nat}, (∀ c ∈ digits.take n, c.isDigit = true) ∧ ∀ c ∈ digits.drop n, c.isDigit = true :=
    ⟨fun c hc => hdigits.2 c (List.mem_of_mem_take hc), fun c hc => hdigits.2 c (List.mem_of_mem_drop hc)⟩
  unfold positional
  dsimp only
  split_ifs with hpower hplaces
  · refine ⟨hdigits.append (digits_zeros _), fun ds hds => ?_, nofun⟩
    cases hds
    exact digits_zero
  · refine ⟨⟨fun h => ?_, hmem.1⟩, fun ds hds => ?_, nofun⟩
    · have := congrArg List.length h
      simp only [List.length_take, List.length_nil] at this
      omega
    · cases hds
      refine ⟨fun h => ?_, hmem.2⟩
      have := congrArg List.length h
      simp only [List.length_drop, List.length_nil] at this
      omega
  · refine ⟨digits_zero, fun ds hds => ?_, nofun⟩
    cases hds
    exact ⟨List.append_ne_nil_of_right_ne_nil _ hdigits.1, fun c hc =>
      (List.mem_append.1 hc).elim (digits_zeros _ c) (hdigits.2 c)⟩

theorem positional_magnitude (power : Int) :
    (positional negative digits power).magnitude = Binary64.positional true digits power := by
  have hlength : 0 < digits.length := List.length_pos_iff.2 hdigits.1
  unfold positional Binary64.positional
  by_cases hpower : 0 ≤ power
  · simp [hpower, magnitude, fractionText, exponentText]
  · by_cases hplaces : (-power).toNat < digits.length
    · have hlong : ¬ digits.length ≤ digits.length - (-power).toNat := by omega
      simp [hpower, hplaces, Binary64.pointed, hlong, magnitude, fractionText, exponentText]
    · simp [hpower, hplaces, magnitude, fractionText, exponentText]

theorem scientific_sound (leading : Int) : (scientific negative digits leading).Sound := by
  refine ⟨⟨fun h => ?_, fun c hc => hdigits.2 c (List.mem_of_mem_take hc)⟩, fun ds hds => ?_, fun part hpart => ?_⟩
  · have hnil : digits.take 1 = [] := h
    rw [List.take_eq_nil_iff] at hnil
    exact hnil.elim nofun hdigits.1
  · unfold scientific at hds
    by_cases hshort : digits.length ≤ 1
    · rw [if_pos hshort] at hds
      cases hds
    · rw [if_neg hshort] at hds
      obtain rfl : digits.drop 1 = ds := Option.some.inj hds
      exact ⟨fun h => hshort (List.drop_eq_nil_iff.1 h), fun c hc => hdigits.2 c (List.mem_of_mem_drop hc)⟩
  · cases hpart
    exact digits_toDigits _

omit hdigits in
theorem scientific_magnitude (leading : Int) :
    (scientific negative digits leading).magnitude = Binary64.scientific digits leading := by
  unfold scientific Binary64.scientific Binary64.pointed
  by_cases hlength : digits.length ≤ 1
  · simp [magnitude, fractionText, exponentText, hlength, List.take_of_length_le]
  · simp [magnitude, fractionText, exponentText, hlength]

end Layouts

theorem ofDouble_sound (x : Binary64) : (ofDouble x).Sound := by
  unfold ofDouble
  dsimp only
  split_ifs
  · refine ⟨digits_zero, fun ds hds => ?_, nofun⟩
    cases hds
    exact digits_zero
  · exact positional_sound _ (digits_toDigits _) _
  · exact scientific_sound _ (digits_toDigits _) _

theorem ofDouble_negative (x : Binary64) : (ofDouble x).negative = x.negative := by
  unfold ofDouble positional scientific
  dsimp only
  split_ifs <;> rfl

theorem ofDouble_text (x : Binary64) : (ofDouble x).text = x.write numberLayout := by
  have hsign : (ofDouble x).text = if x.negative then '-' :: (ofDouble x).magnitude else (ofDouble x).magnitude := by
    unfold text
    rw [ofDouble_negative]
    cases x.negative <;> rfl
  rw [hsign]
  refine congrArg (fun magnitude : List Char => if x.negative then '-' :: magnitude else magnitude) ?_
  unfold ofDouble
  by_cases hzero : x.units = 0
  · rw [if_pos hzero, if_pos hzero]
    rfl
  · rw [if_neg hzero, if_neg hzero]
    dsimp only
    split_ifs
    · exact positional_magnitude _ (digits_toDigits _) _
    · exact scientific_magnitude _ _

end Numeral

end Taskboard.Json
