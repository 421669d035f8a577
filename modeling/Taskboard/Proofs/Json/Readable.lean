/-
Values that were read, written and read again. The number that a double is written as is read again
(`Numeral.isSome_value?_ofDouble`); a value that was read is `Readable` (`readable_of_readValue`), and what is
readable is read from its text (`Readable.reread`). So no text that was read turns into one that cannot be read
when its value is written back (`isSome_parse?_render`).
-/
import Taskboard.Proofs.Json.Reread
import Taskboard.Proofs.Number.Shortest

namespace Taskboard.Json

open Binary64 (append Fits)

/-! ## Doubles -/

theorem append_digitValues_zeros (value n : Nat) : append value (digitValues (Binary64.zeros n)) = value * 10 ^ n := by
  induction n generalizing value with
  | zero => exact (Nat.mul_one _).symm
  | succ n ih =>
    calc append value (digitValues (Binary64.zeros (n + 1)))
        = append (10 * value) (digitValues (Binary64.zeros n)) := rfl
      _ = 10 * value * 10 ^ n := ih _
      _ = value * 10 ^ (n + 1) := by rw [Nat.pow_succ]; ring

theorem append_digitValues_toDigits (n : Nat) : append 0 (digitValues (Nat.toDigits 10 n)) = n :=
  ofDigits_toDigits n

theorem digitValues_append (cs ds : List Char) : digitValues (cs ++ ds) = digitValues cs ++ digitValues ds :=
  List.map_append

theorem length_digitValues (cs : List Char) : (digitValues cs).length = cs.length :=
  List.length_map _

namespace Numeral

/-- A numeral that is read as a double, of given digits with a given power of ten. -/
structure Stands (numeral : Numeral) (digits : Nat) (power : Int) : Prop where
  double : (numeral.fraction?.isSome || numeral.exponent?.isSome) = true
  whole : wholeOf? (digitValues numeral.whole) = some (digitValues numeral.whole)
  digits : append 0 (digitValues (numeral.whole ++ numeral.fraction?.getD [])) = digits
  power : (numeral.exponent?.elim 0 fun (minus, digits) =>
    let n : Int := Text.ofDigits (digitValues digits)
    if minus then -n else n) - (numeral.fraction?.getD []).length = power

variable {numeral : Numeral} {digits : Nat} {power : Int}

theorem Stands.isSome_value? (h : numeral.Stands digits power) (hfits : Fits digits power) :
    numeral.value?.isSome := by
  obtain ⟨negative, whole, fraction?, exponent?⟩ := numeral
  obtain ⟨hdouble, hwhole, hdigits, hpower⟩ := h
  dsimp only at hdouble hwhole hdigits hpower
  rw [digitValues_append] at hdigits
  unfold value? numberOf?
  dsimp only
  rw [hwhole, Option.bind_some, Option.isSome_map, Option.isSome_map, if_pos hdouble, Option.isSome_map]
  refine hfits.isSome_ofDecimal? negative ?_ ?_
  · rw [← hdigits]
    cases fraction? <;> rfl
  · rw [← hpower]
    cases fraction? <;> cases exponent? <;> simp [length_digitValues]

section Layouts

variable (negative : Bool)

theorem length_toDigits_pos (n : Nat) : 0 < (Nat.toDigits 10 n).length :=
  List.length_pos_iff.2 Nat.toDigits_ne_nil

/-- A single digit is a whole part, whichever it is. -/
theorem wholeOf?_singleton (digit : Nat) : wholeOf? [digit] = some [digit] := by
  cases digit <;> rfl

/-- The whole part that a front of the digits of a positive number makes. -/
theorem wholeOf?_take {n count : Nat} (hn : 0 < n) (hcount : 0 < count) (zeros : Nat) :
    wholeOf? (digitValues ((Nat.toDigits 10 n).take count ++ Binary64.zeros zeros)) =
      some (digitValues ((Nat.toDigits 10 n).take count ++ Binary64.zeros zeros)) := by
  obtain ⟨first, more, hvalues⟩ := digitValues_toDigits_cons hn
  obtain ⟨count, rfl⟩ := Nat.exists_eq_succ_of_ne_zero hcount.ne'
  have hfront : digitValues ((Nat.toDigits 10 n).take (count + 1)) = (first + 1) :: more.take count := by
    unfold digitValues at hvalues ⊢
    rw [List.map_take, hvalues]
    rfl
  rw [digitValues_append, hfront]
  rfl

/-- Without an exponent, the zeros behind the digits and the one behind the point are read as digits too. -/
theorem stands_positional_of_nonneg (hdigits : 0 < digits) (n : Nat) :
    (positional negative (Nat.toDigits 10 digits) n).Stands (digits * 10 ^ (n + 1)) (-1) := by
  unfold positional
  rw [if_pos (Int.natCast_nonneg n), Int.toNat_natCast]
  refine ⟨rfl, ?_, ?_, rfl⟩
  · have hwhole := wholeOf?_take hdigits (length_toDigits_pos digits) n
    rwa [List.take_length] at hwhole
  · show append 0 (digitValues (_ ++ Binary64.zeros n ++ Binary64.zeros 1)) = _
    rw [digitValues_append, digitValues_append, Binary64.append_append, Binary64.append_append,
      append_digitValues_toDigits, append_digitValues_zeros, append_digitValues_zeros, Nat.mul_assoc, Nat.pow_succ]
    rfl

theorem stands_positional_of_neg (hpower : power < 0) :
    (positional negative (Nat.toDigits 10 digits) power).Stands digits power := by
  unfold positional
  rw [if_neg (not_le.2 hpower)]
  dsimp only
  split_ifs with hplaces
  · have hdigits : 0 < digits := by
      by_contra hzero
      obtain rfl : digits = 0 := by omega
      have hone : (Nat.toDigits 10 0).length = 1 := rfl
      omega
    refine ⟨rfl, ?_, ?_, ?_⟩
    · have hwhole := wholeOf?_take hdigits (Nat.sub_pos_of_lt hplaces) 0
      rwa [show Binary64.zeros 0 = [] from rfl, List.append_nil] at hwhole
    · show append 0 (digitValues (List.take _ _ ++ List.drop _ _)) = digits
      rw [List.take_append_drop, append_digitValues_toDigits]
    · simp only [Option.elim_none, Option.getD_some, List.length_drop]
      omega
  · -- The point stands in front of all the digits.
    refine ⟨rfl, rfl, ?_, ?_⟩
    · show append 0 (digitValues (Binary64.zeros 1 ++ (Binary64.zeros _ ++ Nat.toDigits 10 digits))) = digits
      rw [digitValues_append, digitValues_append, Binary64.append_append, Binary64.append_append,
        append_digitValues_zeros, append_digitValues_zeros, Nat.zero_mul, Nat.zero_mul, append_digitValues_toDigits]
    · simp only [Option.elim_none, Option.getD_some, List.length_append, Binary64.zeros, List.length_replicate]
      omega

theorem stands_scientific : (scientific negative (Nat.toDigits 10 digits)
    (power + (Nat.toDigits 10 digits).length - 1)).Stands digits power := by
  have hpos := length_toDigits_pos digits
  have hfraction : (if (Nat.toDigits 10 digits).length ≤ 1 then none
      else some ((Nat.toDigits 10 digits).drop 1)).getD [] = (Nat.toDigits 10 digits).drop 1 := by
    split_ifs with hshort
    · exact (List.drop_eq_nil_of_le hshort).symm
    · rfl
  unfold scientific
  refine ⟨Bool.or_true _, ?_, ?_, ?_⟩
  · obtain ⟨c, cs, hdigits⟩ := List.exists_cons_of_length_pos hpos
    dsimp only
    rw [hdigits]
    exact wholeOf?_singleton _
  · dsimp only
    rw [hfraction, List.take_append_drop, append_digitValues_toDigits]
  · simp only [Option.elim_some, hfraction, List.length_drop, ofDigits_toDigits, decide_eq_true_eq]
    split_ifs <;> omega

/-- Digits without an exponent are read when there are at most sixteen of them in front of the point. -/
theorem isSome_value?_positional (hfits : Fits digits power)
    (hlength : (Nat.toDigits 10 digits).length + power ≤ 16) :
    (positional negative (Nat.toDigits 10 digits) power).value?.isSome := by
  rcases lt_or_ge power 0 with hpower | hpower
  · exact (stands_positional_of_neg negative hpower).isSome_value? hfits
  · obtain ⟨n, rfl⟩ := Int.eq_ofNat_of_zero_le hpower
    have hdigits : 0 < digits := Nat.pos_of_ne_zero (hfits.nonzero hpower)
    have hlt : digits < 10 ^ (Nat.toDigits 10 digits).length := Binary64.lt_pow_digitCount digits
    have hfew : digits * 10 ^ (n + 1) ≤ 10 ^ 17 + 1 := calc
      digits * 10 ^ (n + 1) ≤ 10 ^ (Nat.toDigits 10 digits).length * 10 ^ (n + 1) := Nat.mul_le_mul_right _ hlt.le
      _ = 10 ^ ((Nat.toDigits 10 digits).length + (n + 1)) := (Nat.pow_add ..).symm
      _ ≤ 10 ^ 17 := Nat.pow_le_pow_right (by decide) (by omega)
      _ ≤ 10 ^ 17 + 1 := Nat.le_succ _
    exact (stands_positional_of_nonneg negative hdigits n).isSome_value? (Fits.of_neg hfew (by decide))

end Layouts

/-- The number that a finite double is written as is read again. -/
theorem isSome_value?_ofDouble {x : Binary64} (h : x.Finite) : (ofDouble x).value?.isSome := by
  unfold ofDouble
  split_ifs with hzero
  · have hstands : Stands ⟨x.negative, ['0'], some ['0'], none⟩ 0 (-1) := ⟨rfl, rfl, rfl, rfl⟩
    exact hstands.isSome_value? (Fits.of_neg (Nat.zero_le _) (by decide))
  · have hfits := Binary64.fits_shortest hzero h
    dsimp only
    split_ifs with hlayout
    · have hlast := hlayout.2
      refine isSome_value?_positional x.negative hfits ?_
      unfold numberLayout at hlast
      dsimp only at hlast
      omega
    · exact (stands_scientific x.negative).isSome_value? hfits

end Numeral

/-! ## Values that can be read -/

/-- A value that is nested at most `depth` deep, with whole numbers of 64 bits and finite doubles. -/
inductive Readable : Nat → Json → Prop
  | null {depth : Nat} : Readable depth .null
  | bool {depth : Nat} (flag : Bool) : Readable depth (.bool flag)
  | int {depth : Nat} {n : Int} (hmin : signedMin ≤ n) (hmax : n ≤ unsignedMax) : Readable depth (.int n)
  | float {depth : Nat} {x : Binary64} (h : x.Finite) : Readable depth (.float x)
  | string {depth : Nat} (text : String) : Readable depth (.string text)
  | array {depth : Nat} {items : List Json} (h : ∀ item ∈ items, Readable depth item) :
    Readable (depth + 1) (.array items)
  | object {depth : Nat} {fields : List (String × Json)} (h : ∀ field ∈ fields, Readable depth field.2) :
    Readable (depth + 1) (.object fields)

theorem isSome_mapM {α β : Type} {f : α → Option β} {xs : List α} (h : ∀ x ∈ xs, (f x).isSome) :
    (xs.mapM f).isSome := by
  induction xs with
  | nil => rfl
  | cons x xs ih =>
    obtain ⟨y, hy⟩ := Option.isSome_iff_exists.1 (h x (List.mem_cons_self ..))
    obtain ⟨ys, hys⟩ := Option.isSome_iff_exists.1 (ih fun x hx => h x (List.mem_cons_of_mem _ hx))
    rw [List.mapM_cons, hy, hys]
    rfl

/-- A readable value is read from its text. -/
theorem Readable.reread {depth : Nat} {value : Json} (h : Readable depth value) :
    (Json.reread depth value).isSome := by
  induction h with
  | null | bool | string => unfold Json.reread; rfl
  | int hmin hmax =>
    unfold Json.reread
    rw [value?_ofInt hmin hmax]
    rfl
  | float h =>
    unfold Json.reread
    exact Numeral.isSome_value?_ofDouble h
  | array h ih =>
    unfold Json.reread
    rw [Option.isSome_map]
    exact isSome_mapM ih
  | object h ih =>
    unfold Json.reread
    rw [Option.isSome_map]
    exact isSome_mapM fun field hfield => (Option.isSome_map ..).trans (ih field hfield)

/-! ## Values that were read -/

section Read

variable {value : Json} {cs rest : List Char}

theorem readable_of_numberOf? {negative : Bool} {whole : List Nat} {fraction? : Option (List Nat)}
    {exponent? : Option Int} (h : numberOf? negative whole fraction? exponent? = some value) (depth : Nat) :
    Readable depth value := by
  have hfloat : (Binary64.ofDecimal? negative whole (fraction?.getD []) (exponent?.getD 0)).map Json.float =
      some value → Readable depth value := by
    intro hfloat
    obtain ⟨x, hx, rfl⟩ := Option.map_eq_some_iff.1 hfloat
    exact .float (Binary64.finite_of_ofDecimal? hx)
  unfold numberOf? at h
  dsimp only at h
  split_ifs at h with hdouble hnegative hrange hrange
  · exact hfloat h
  · cases h
    exact .int hrange.2 (by omega)
  · exact hfloat h
  · cases h
    exact .int (by unfold signedMin; omega) (Int.ofNat_le.2 hrange)
  · exact hfloat h

theorem readable_of_readScalar (h : readScalar cs = some (value, rest)) (depth : Nat) : Readable depth value := by
  unfold readScalar at h
  split at h
  · cases h
    exact .null
  · cases h
    exact .bool true
  · cases h
    exact .bool false
  · obtain ⟨⟨text, rest⟩, -, hvalue⟩ := Option.map_eq_some_iff.1 h
    cases hvalue
    exact .string _
  · simp only [readNumber, Option.bind_eq_some_iff, Option.map_eq_some_iff] at h
    obtain ⟨⟨whole, cs⟩, -, ⟨fraction?, cs⟩, -, ⟨exponent?, cs⟩, -, number, hnumber, hvalue⟩ := h
    cases hvalue
    exact readable_of_numberOf? hnumber depth

variable {read : List Char → Reading Json} {holds : Json → Prop}

/-- What holds of every value that is read holds of the items of an array that is read. -/
theorem forall_of_readItems (hread : ∀ cs value rest, read cs = some (value, rest) → holds value) {n : Nat}
    {items : List Json} (h : readItems read n cs = some (items, rest)) : ∀ item ∈ items, holds item := by
  induction n generalizing cs items with
  | zero => cases h
  | succ n ih =>
    unfold readItems at h
    split at h
    · cases h
    · rename_i item front hitem
      split at h
      · cases h
        exact List.forall_mem_singleton.2 (hread _ _ _ hitem)
      · obtain ⟨⟨more, rest⟩, hmore, hitems⟩ := Option.map_eq_some_iff.1 h
        cases hitems
        exact List.forall_mem_cons.2 ⟨hread _ _ _ hitem, ih hmore⟩
      · cases h

theorem holds_of_readField (hread : ∀ cs value rest, read cs = some (value, rest) → holds value)
    {field : String × Json} (h : readField read cs = some (field, rest)) : holds field.2 := by
  unfold readField at h
  split at h
  · split at h
    · cases h
    · split at h
      · obtain ⟨⟨value, rest⟩, hvalue, hfield⟩ := Option.map_eq_some_iff.1 h
        cases hfield
        exact hread _ _ _ hvalue
      · cases h
  · cases h

/-- And of the fields of an object that is read. -/
theorem forall_of_readFields (hread : ∀ cs value rest, read cs = some (value, rest) → holds value) {n : Nat}
    {fields : List (String × Json)} (h : readFields read n cs = some (fields, rest)) :
    ∀ field ∈ fields, holds field.2 := by
  induction n generalizing cs fields with
  | zero => cases h
  | succ n ih =>
    unfold readFields at h
    split at h
    · cases h
    · rename_i field front hfield
      split at h
      · cases h
        exact List.forall_mem_singleton.2 (holds_of_readField hread hfield)
      · obtain ⟨⟨more, rest⟩, hmore, hfields⟩ := Option.map_eq_some_iff.1 h
        cases hfields
        exact List.forall_mem_cons.2 ⟨holds_of_readField hread hfield, ih hmore⟩
      · cases h

theorem mem_insert {name : String} {value : Json} {record : Record} {field : String × Json}
    (h : field ∈ Record.insert name value record) : field = (name, value) ∨ field ∈ record := by
  induction record with
  | nil => exact .inl (List.mem_singleton.1 h)
  | cons first record ih =>
    unfold Record.insert at h
    split_ifs at h <;> simp only [List.mem_cons] at h ⊢ <;> tauto

/-- A record has no other fields than those that make it. -/
theorem mem_of_mem_ofFields {fields : List (String × Json)} {field : String × Json}
    (h : field ∈ Record.ofFields fields) : field ∈ fields := by
  have hfold : ∀ (more : List (String × Json)) (record : Record),
      field ∈ more.foldl (fun record field => Record.insert field.1 field.2 record) record →
        field ∈ record ∨ field ∈ more := by
    intro more
    induction more with
    | nil => exact fun _ hmem => .inl hmem
    | cons first more ih =>
      intro record hmem
      rcases ih _ hmem with hmem | hmem
      · exact (mem_insert hmem).elim (fun heq => .inr (heq ▸ List.mem_cons_self ..)) .inl
      · exact .inr (List.mem_cons_of_mem _ hmem)
  exact (hfold fields [] h).resolve_left List.not_mem_nil

/-- A value that was read can be read from its text. -/
theorem readable_of_readValue {limit depth : Nat} (h : readValue limit depth cs = some (value, rest)) :
    Readable depth value := by
  induction depth generalizing cs value rest with
  | zero => exact readable_of_readScalar h 0
  | succ depth ih =>
    have hread : ∀ cs value rest, readValue limit depth cs = some (value, rest) → Readable depth value :=
      fun _ _ _ h => ih h
    unfold readValue at h
    split at h
    · unfold readArray at h
      split at h
      · cases h
        exact .array nofun
      · obtain ⟨⟨items, rest⟩, hitems, hvalue⟩ := Option.map_eq_some_iff.1 h
        cases hvalue
        exact .array (forall_of_readItems hread hitems)
    · unfold readObject at h
      split at h
      · cases h
        exact .object nofun
      · obtain ⟨⟨fields, rest⟩, hfields, hvalue⟩ := Option.map_eq_some_iff.1 h
        cases hvalue
        exact .object fun field hfield => forall_of_readFields hread hfields field (mem_of_mem_ofFields hfield)
    · exact readable_of_readScalar h _

theorem readable_of_parse? {s : String} (h : parse? s = some value) : Readable depthLimit value := by
  unfold parse? parseWithin? at h
  split at h
  · rename_i hread
    split_ifs at h
    cases h
    exact readable_of_readValue hread
  · cases h

/-- The text of a value that was read can be read. -/
theorem isSome_parse?_render {s : String} (h : parse? s = some value) : (parse? value.render).isSome := by
  rw [parse?_render]
  exact (readable_of_parse? h).reread

end Read

end Taskboard.Json
