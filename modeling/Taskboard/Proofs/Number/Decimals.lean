/-
Reading decimals. Digits that fit 64 bits are all taken (`gather_all`, `ofDecimal?_eq`), and what is read is finite
(`finite_of_ofDecimal?`).
-/
import Taskboard.Proofs.Number.Rounding
import Taskboard.Text.Natural

namespace Taskboard.Binary64

/-! ## Digits -/

theorem gather_le {value : Nat} (h : value ≤ unsignedMax) (digits : List Nat) :
    (gather value digits).1 ≤ unsignedMax ∧ (gather value digits).2.length ≤ digits.length := by
  induction digits generalizing value with
  | nil => exact ⟨h, Nat.le_refl _⟩
  | cons digit digits ih =>
    unfold gather
    split
    · exact ⟨(ih ‹_›).1, Nat.le_succ_of_le (ih ‹_›).2⟩
    · exact ⟨h, Nat.le_refl _⟩

/-- The value of some digits behind others. -/
def append (value : Nat) (digits : List Nat) : Nat :=
  digits.foldl (fun value digit => 10 * value + digit) value

theorem le_append (value : Nat) (digits : List Nat) : value ≤ append value digits := by
  induction digits generalizing value with
  | nil => exact Nat.le_refl _
  | cons digit digits ih => exact Nat.le_trans (by omega) (ih (10 * value + digit))

/-- Digits that fit are all taken. -/
theorem gather_all {value : Nat} {digits : List Nat} (h : append value digits ≤ unsignedMax) :
    gather value digits = (append value digits, []) := by
  induction digits generalizing value with
  | nil => rfl
  | cons digit digits ih =>
    have hfirst : 10 * value + digit ≤ unsignedMax := (le_append _ digits).trans h
    unfold gather
    rw [if_pos hfirst]
    exact ih h

theorem append_append (value : Nat) (digits more : List Nat) :
    append value (digits ++ more) = append (append value digits) more :=
  List.foldl_append

/-! ## Powers of ten -/

theorem unitsPerOne_pos : 0 < unitsPerOne := by
  decide +kernel

theorem roundUnits_le_double (num den : Nat) : roundUnits num den ≤ 2 * (num / den) + 1 := by
  refine (roundUnits_le num den).trans ?_
  by_cases h : num / den = 0
  · rw [h]
    decide
  · have := spacing_le h
    omega

theorem unitsPerOne_le_powerOfTen (n : Nat) : unitsPerOne ≤ powerOfTen n := calc
  unitsPerOne = roundUnits unitsPerOne 1 := by decide +kernel
  _ ≤ powerOfTen n := roundUnits_mono 1 (Nat.le_mul_of_pos_left _ (Nat.pow_pos (by decide)))

theorem divUnits_le {factor divisor : Nat} (units : Nat) (hfactor : 0 < factor)
    (h : factor * unitsPerOne ≤ divisor) : divUnits units divisor ≤ 2 * (units / factor) + 1 := by
  have hquotient : units * unitsPerOne / divisor ≤ units / factor := calc
    units * unitsPerOne / divisor ≤ units * unitsPerOne / (factor * unitsPerOne) :=
      Nat.div_le_div_left h (Nat.mul_pos hfactor unitsPerOne_pos)
    _ = units / factor := Nat.mul_div_mul_right _ _ unitsPerOne_pos
  have hdouble := roundUnits_le_double (units * unitsPerOne) divisor
  unfold divUnits
  omega

theorem divPowerOfTen_le (n units : Nat) : divPowerOfTen n units ≤ 2 * units + 1 := by
  induction n using Nat.strongRecOn generalizing units with
  | ind n ih =>
    unfold divPowerOfTen
    split
    · have hdivisor : 1 * unitsPerOne ≤ powerOfTen n := by
        rw [Nat.one_mul]
        exact unitsPerOne_le_powerOfTen n
      have hstep := @divUnits_le 1 (powerOfTen n) units Nat.one_pos hdivisor
      rwa [Nat.div_one] at hstep
    · split
      · omega
      · -- A division by so large a power makes the magnitude no larger.
        have hpositive : 0 < powerLimit := by decide
        have hdivisor : 4 * unitsPerOne ≤ powerOfTen powerLimit := by decide +kernel
        have hstep := divUnits_le units (by decide) hdivisor
        have hrest := ih (n - powerLimit) (by omega) (divUnits units (powerOfTen powerLimit))
        omega

/-! ## Decimals -/

section Decimals

variable {negative : Bool} {whole fraction : List Nat} {exponent : Int} {x : Binary64}

/-- What is read is finite. -/
theorem finite_of_ofDecimal? (h : ofDecimal? negative whole fraction exponent = some x) : x.Finite := by
  unfold ofDecimal? at h
  dsimp only at h
  have hfront := (gather_le (Nat.zero_le unsignedMax) whole).1
  have hback := (gather_le hfront fraction).1
  generalize (gather (gather 0 whole).1 fraction).1 = significand at h hback
  have hunits := roundUnits_le_double (significand * unitsPerOne) 1
  obtain ⟨magnitude, hmagnitude, rfl⟩ := Option.map_eq_some_iff.1 h
  show magnitude ≤ largest
  split at hmagnitude
  · unfold mulPowerOfTen? at hmagnitude
    dsimp only at hmagnitude
    split_ifs at hmagnitude with hzero hlimit hover
    · cases hmagnitude
      exact Nat.zero_le _
    · cases hmagnitude
      exact roundUnits_le_largest hover
  · cases hmagnitude
    have hlimit : 2 * (2 * (unsignedMax * unitsPerOne / 1) + 1) + 1 ≤ largest := by decide +kernel
    have hscaled : significand * unitsPerOne / 1 ≤ unsignedMax * unitsPerOne / 1 :=
      Nat.div_le_div_right (Nat.mul_le_mul_right _ hback)
    refine (divPowerOfTen_le _ _).trans (le_trans ?_ hlimit)
    show 2 * roundUnits (significand * unitsPerOne) 1 + 1 ≤ _
    omega

/-- A decimal whose digits all fit. -/
theorem ofDecimal?_eq (h : append 0 (whole ++ fraction) ≤ unsignedMax) :
    ofDecimal? negative whole fraction exponent =
      let units := (ofInt (append 0 (whole ++ fraction))).units
      let shift := exponent - fraction.length
      (if 0 ≤ shift then mulPowerOfTen? shift.toNat units else some (divPowerOfTen (-shift).toNat units)).map
        fun magnitude => ⟨negative, magnitude⟩ := by
  rw [append_append] at h ⊢
  have hfront := gather_all ((le_append _ fraction).trans h)
  have hback := gather_all h
  unfold ofDecimal?
  dsimp only
  rw [hfront]
  dsimp only
  rw [hback]
  simp only [List.length_nil, Int.natCast_zero, Int.add_zero, Nat.sub_zero]

end Decimals

end Taskboard.Binary64
