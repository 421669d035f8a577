/-
The shortest digits of a finite double. Seventeen digits suffice (`find?_last`), so the digits are few and what
they stand for is not too large (`fits_shortest`); such digits are read back as a finite double.
-/
import Taskboard.Number.Shortest
import Taskboard.Proofs.Number.Decimals
import Mathlib.Tactic.Ring

namespace Taskboard.Binary64

-- Unfolded, it is a number of a thousand digits, which no step here needs to see.
attribute [local irreducible] unitsPerOne

/-! ## Leading digits -/

theorem lt_pow_digitCount (n : Nat) : n < 10 ^ digitCount n :=
  (Nat.length_toDigits_le_iff (by decide) (List.length_pos_iff.2 Nat.toDigits_ne_nil)).1 (Nat.le_refl _)

theorem pow_digitCount_le {n : Nat} (h : n ≠ 0) : 10 ^ (digitCount n - 1) ≤ n := by
  by_contra hlt
  rcases Nat.eq_zero_or_pos (digitCount n - 1) with hone | hpos
  · rw [hone] at hlt
    omega
  · have hle : digitCount n ≤ digitCount n - 1 := (Nat.length_toDigits_le_iff (by decide) hpos).2 (not_le.1 hlt)
    omega

section Leading

variable {units : Nat}

/-- The leading digit of a magnitude of at least one. -/
theorem leadingPower_of_le (h : unitsPerOne ≤ units) : 0 ≤ leadingPower units ∧
    10 ^ (leadingPower units).toNat * unitsPerOne ≤ units ∧
    units < 10 ^ ((leadingPower units).toNat + 1) * unitsPerOne := by
  have hwhole : units / unitsPerOne ≠ 0 := (Nat.div_pos h unitsPerOne_pos).ne'
  have hcount : 0 < digitCount (units / unitsPerOne) := List.length_pos_iff.2 Nat.toDigits_ne_nil
  have hpower : leadingPower units = (digitCount (units / unitsPerOne) - 1 : Nat) := by
    unfold leadingPower
    rw [if_pos h]
    omega
  rw [hpower, Int.toNat_natCast, Nat.sub_add_cancel hcount]
  refine ⟨Int.natCast_nonneg _, ?_, ?_⟩
  · exact (Nat.le_div_iff_mul_le unitsPerOne_pos).1 (pow_digitCount_le hwhole)
  · exact (Nat.div_lt_iff_lt_mul unitsPerOne_pos).1 (lt_pow_digitCount _)

/-- Scaled by a power of ten, a magnitude below one has no more digits than the power has zeros. -/
theorem digitCount_scaled (h : units < unitsPerOne) {scale : Nat} (hscale : 0 < scale) :
    digitCount (units * Nat.pow 10 scale / unitsPerOne) ≤ scale ∧
      units * 10 ^ (scale - digitCount (units * Nat.pow 10 scale / unitsPerOne)) < unitsPerOne := by
  have hpow : 0 < 10 ^ scale := Nat.pow_pos (by decide)
  have hcount : digitCount (units * Nat.pow 10 scale / unitsPerOne) ≤ scale := by
    refine (Nat.length_toDigits_le_iff (by decide) hscale).2 ((Nat.div_lt_iff_lt_mul unitsPerOne_pos).2 ?_)
    rw [Nat.mul_comm]
    exact Nat.mul_lt_mul_of_pos_left h hpow
  refine ⟨hcount, ?_⟩
  have hlt := (Nat.div_lt_iff_lt_mul unitsPerOne_pos).1 (lt_pow_digitCount (units * Nat.pow 10 scale / unitsPerOne))
  generalize digitCount (units * Nat.pow 10 scale / unitsPerOne) = count at hcount hlt ⊢
  have hsplit : Nat.pow 10 scale = 10 ^ count * 10 ^ (scale - count) := by
    rw [← Nat.pow_add, Nat.add_sub_cancel' hcount]
    rfl
  rw [hsplit, Nat.mul_left_comm] at hlt
  exact Nat.lt_of_mul_lt_mul_left hlt

theorem leadingPower_eq {scale : Nat} (hscale : 325 = scale) (h : units < unitsPerOne) :
    leadingPower units = (digitCount (units * Nat.pow 10 scale / unitsPerOne) : Int) - 326 := by
  unfold leadingPower
  rw [hscale]
  exact if_neg (not_le.2 h)

theorem leadingPower_of_lt (h : units < unitsPerOne) : leadingPower units < 0 ∧
    units * 10 ^ (-1 - leadingPower units).toNat < unitsPerOne := by
  obtain ⟨scale, hscale⟩ : ∃ scale, 325 = scale := ⟨_, rfl⟩
  obtain ⟨hcount, hlt⟩ := digitCount_scaled h (show 0 < scale by omega)
  rw [leadingPower_eq hscale h]
  generalize digitCount (units * Nat.pow 10 scale / unitsPerOne) = count at hcount hlt ⊢
  have hexponent : (-1 - ((count : Int) - 326)).toNat = scale - count := by omega
  rw [hexponent]
  exact ⟨by omega, hlt⟩

end Leading

/-! ## Grids -/

section Grids

variable {units digits : Nat} {power : Int}

/-- The distance between the points of a grid, and a magnitude, both scaled to be whole. -/
def gridStep (power : Int) : Nat :=
  unitsPerOne * 10 ^ power.toNat

def onGrid (units : Nat) (power : Int) : Nat :=
  units * 10 ^ (-power).toNat

theorem gridStep_pos (power : Int) : 0 < gridStep power :=
  Nat.mul_pos unitsPerOne_pos (Nat.pow_pos (by decide))

theorem gridNeighbours_eq : ∃ others, gridNeighbours units power =
    roundQuotient (onGrid units power) (gridStep power) :: others := by
  unfold gridNeighbours
  dsimp only
  split
  · rename_i hnear
    exact ⟨_, congrArg (· :: _) hnear.symm⟩
  · rename_i hnear
    have hle := roundQuotient_le (onGrid units power) (gridStep power)
    have hge := div_le_roundQuotient (onGrid units power) (gridStep power)
    refine ⟨_, congrArg (· :: _) (le_antisymm ?_ hle)⟩
    exact Nat.succ_le_of_lt (lt_of_le_of_ne hge (Ne.symm hnear))

/-- A neighbour of a magnitude is at most one step above it. -/
theorem mul_le_of_mem_gridNeighbours (h : digits ∈ gridNeighbours units power) :
    digits * gridStep power ≤ onGrid units power + gridStep power := by
  have hle : digits ≤ onGrid units power / gridStep power + 1 := by
    unfold gridNeighbours at h
    dsimp only at h
    split at h <;> simp only [List.mem_cons, List.not_mem_nil, or_false] at h
    · exact h.elim (fun h => h ▸ Nat.le_succ _) (fun h => h ▸ Nat.le_refl _)
    · exact h.elim (fun h => h ▸ Nat.le_refl _) (fun h => h ▸ Nat.le_succ _)
  calc digits * gridStep power ≤ (onGrid units power / gridStep power + 1) * gridStep power :=
        Nat.mul_le_mul_right _ hle
    _ = onGrid units power / gridStep power * gridStep power + gridStep power := by rw [Nat.add_mul, Nat.one_mul]
    _ ≤ onGrid units power + gridStep power := Nat.add_le_add_right (Nat.div_mul_le_self ..) _

theorem inRounding_eq (units digits : Nat) (power : Int) : inRounding units digits power =
    let below := if units / spacing units = Nat.pow 2 52 ∧ 1 < spacing units then spacing units else 2 * spacing units
    let low := 4 * onGrid units power - below * 10 ^ (-power).toNat
    let high := 4 * onGrid units power + 2 * (spacing units * 10 ^ (-power).toNat)
    if units / spacing units % 2 = 0 then low ≤ 4 * (digits * gridStep power) && 4 * (digits * gridStep power) ≤ high
    else low < 4 * (digits * gridStep power) && 4 * (digits * gridStep power) < high := by
  unfold inRounding onGrid gridStep
  simp only [Nat.sub_mul, Nat.add_mul, Nat.mul_assoc, Nat.pow_eq]

/-- A decimal that rounds to a magnitude is at most half a spacing above it. -/
theorem mul_le_of_inRounding (h : inRounding units digits power = true) :
    4 * (digits * gridStep power) ≤ 4 * onGrid units power + 2 * (spacing units * 10 ^ (-power).toNat) := by
  rw [inRounding_eq] at h
  dsimp only at h
  split at h <;> simp only [Bool.and_eq_true, decide_eq_true_eq] at h
  · exact h.2
  · exact h.2.le

/-- Nothing rounds to a positive magnitude that stands for zero. -/
theorem ne_zero_of_inRounding (hunits : units ≠ 0) (h : inRounding units digits power = true) : digits ≠ 0 := by
  rintro rfl
  have hscale : 0 < 10 ^ (-power).toNat := Nat.pow_pos (by decide)
  have hmagnitude : 0 < onGrid units power := Nat.mul_pos (Nat.pos_of_ne_zero hunits) hscale
  have hspacing : spacing units * 10 ^ (-power).toNat ≤ onGrid units power :=
    Nat.mul_le_mul_right _ (spacing_le hunits)
  rw [inRounding_eq, Nat.zero_mul] at h
  dsimp only at h
  have hbelow : (if units / spacing units = Nat.pow 2 52 ∧ 1 < spacing units then spacing units
      else 2 * spacing units) * 10 ^ (-power).toNat ≤ 2 * onGrid units power := by
    split
    · omega
    · rw [Nat.mul_assoc]
      omega
  split at h <;> simp only [Bool.and_eq_true, decide_eq_true_eq] at h <;> omega

/-- On a grid that is fine enough, the nearest neighbour of a magnitude rounds to it. -/
theorem inRounding_near (hfine : gridStep power * 10 ^ 16 ≤ onGrid units power) :
    inRounding units (roundQuotient (onGrid units power) (gridStep power)) power = true := by
  have hstep := gridStep_pos power
  obtain ⟨hupper, hlower⟩ := roundQuotient_near (onGrid units power) hstep
  have hscale : 0 < 10 ^ (-power).toNat := Nat.pow_pos (by decide)
  have hspacing : onGrid units power < 2 ^ 53 * (spacing units * 10 ^ (-power).toNat) := by
    rw [← Nat.mul_assoc]
    exact Nat.mul_lt_mul_of_pos_right (lt_spacing units) hscale
  -- Below a power of two the neighbours are closer together.
  have hclose : units / spacing units = Nat.pow 2 52 →
      onGrid units power < (2 ^ 52 + 1) * (spacing units * 10 ^ (-power).toNat) := by
    intro hsignificand
    rw [← Nat.mul_assoc]
    refine Nat.mul_lt_mul_of_pos_right ?_ hscale
    exact (Nat.div_lt_iff_lt_mul (spacing_pos units)).1 (hsignificand ▸ Nat.lt_succ_self _)
  rw [inRounding_eq]
  generalize onGrid units power = magnitude at *
  generalize roundQuotient magnitude (gridStep power) * gridStep power = near at *
  generalize gridStep power = step at *
  dsimp only
  have hbelow : 2 * step < (if units / spacing units = Nat.pow 2 52 ∧ 1 < spacing units then spacing units
      else 2 * spacing units) * 10 ^ (-power).toNat := by
    split
    · have := hclose (And.left ‹_›)
      omega
    · rw [Nat.mul_assoc]
      omega
  split <;> simp only [Bool.and_eq_true, decide_eq_true_eq] <;> omega

theorem searchGrids_succ (units grids : Nat) (power : Int) : searchGrids units (grids + 1) power =
    match (gridNeighbours units power).find? (fun digits => inRounding units digits power) with
    | some digits => (digits, power)
    | none => searchGrids units grids (power - 1) :=
  rfl

/-- The search ends with the first neighbour on some grid that rounds to the magnitude, or finds none on any. -/
theorem searchGrids_cases (units grids : Nat) (power : Int) :
    (∃ digits q, searchGrids units grids power = (digits, q) ∧ power - grids < q ∧ q ≤ power ∧
      (gridNeighbours units q).find? (fun digits => inRounding units digits q) = some digits) ∨
    searchGrids units grids power = (roundQuotient units unitsPerOne, power - grids) ∧
      ∀ q, power - grids < q → q ≤ power →
        (gridNeighbours units q).find? (fun digits => inRounding units digits q) = none := by
  induction grids generalizing power with
  | zero =>
    refine .inr ⟨?_, fun q hlow hhigh => by omega⟩
    rw [Int.natCast_zero, Int.sub_zero]
    rfl
  | succ grids ih =>
    have hlast : power - 1 - grids = power - (grids + 1 : Nat) := by omega
    rw [searchGrids_succ]
    split
    · rename_i digits hfind
      exact .inl ⟨digits, power, rfl, by omega, le_refl _, hfind⟩
    · rename_i hfind
      rcases ih (power - 1) with ⟨digits, q, hsearch, hlow, hhigh, hq⟩ | ⟨hsearch, hnone⟩
      · exact .inl ⟨digits, q, hsearch, by omega, by omega, hq⟩
      · refine .inr ⟨hlast ▸ hsearch, fun q hlow hhigh => ?_⟩
        by_cases hq : q = power
        · exact hq ▸ hfind
        · exact hnone q (by omega) (by omega)

/-- On the seventeenth grid the nearest neighbour is found. -/
theorem find?_last (h : unitsPerOne ≤ units) :
    (gridNeighbours units (leadingPower units - 16)).find?
        (fun digits => inRounding units digits (leadingPower units - 16)) =
      some (roundQuotient (onGrid units (leadingPower units - 16)) (gridStep (leadingPower units - 16))) := by
  obtain ⟨hpos, hlow, -⟩ := leadingPower_of_le h
  obtain ⟨others, hothers⟩ := @gridNeighbours_eq units (leadingPower units - 16)
  have hfine : gridStep (leadingPower units - 16) * 10 ^ 16 ≤ onGrid units (leadingPower units - 16) := by
    have hpow : 10 ^ (leadingPower units - 16).toNat * 10 ^ 16 =
        10 ^ (leadingPower units).toNat * 10 ^ (-(leadingPower units - 16)).toNat := by
      rw [← Nat.pow_add, ← Nat.pow_add]
      exact congrArg (10 ^ ·) (by omega)
    unfold gridStep onGrid
    rw [Nat.mul_assoc, hpow, ← Nat.mul_assoc, Nat.mul_comm unitsPerOne]
    exact Nat.mul_le_mul_right _ hlow
  rw [hothers]
  exact List.find?_cons_of_pos (inRounding_near hfine)

end Grids

/-! ## Decimals that fit -/

/-- The first multiple of a sixteenth power below the limit that is read as too large. -/
def tooLarge : Nat :=
  17976931348623158 * 10 ^ (powerLimit - 16)

attribute [local irreducible] tooLarge

/-- Digits that are few enough to be read, stand for a number that is not too large, and for zero only behind
a point. -/
structure Fits (digits : Nat) (power : Int) : Prop where
  few : digits ≤ 10 ^ 17 + 1
  small : digits * 10 ^ power.toNat < tooLarge * 10 ^ (-power).toNat
  nonzero : 0 ≤ power → digits ≠ 0

/-- Behind a point, digits fit when they are few. -/
theorem Fits.of_neg {digits : Nat} {power : Int} (hfew : digits ≤ 10 ^ 17 + 1) (hpower : power < 0) :
    Fits digits power := by
  refine ⟨hfew, ?_, fun h => absurd h (by omega)⟩
  have hnat : power.toNat = 0 := by omega
  have hlimit : 10 ^ 17 + 1 < tooLarge := by decide +kernel
  rw [hnat, Nat.pow_zero, Nat.mul_one]
  exact (hfew.trans_lt hlimit).trans_le (Nat.le_mul_of_pos_right _ (Nat.pow_pos (by decide)))

theorem Fits.strip {digits : Nat} {power : Int} (h : Fits digits power) (n : Nat) :
    Fits (stripZeros n (digits, power)).1 (stripZeros n (digits, power)).2 := by
  induction n generalizing digits power with
  | zero => exact h
  | succ n ih =>
    unfold stripZeros
    split
    · rename_i hzeros
      refine ih ⟨by have := h.few; omega, ?_, fun _ => by omega⟩
      have hsmall := h.small
      have hdigits : digits = digits / 10 * 10 := by omega
      by_cases hpower : 0 ≤ power
      · have hnat : (power + 1).toNat = power.toNat + 1 ∧ (-(power + 1)).toNat = (-power).toNat := by omega
        rw [hnat.1, hnat.2, Nat.pow_succ, Nat.mul_comm _ 10, ← Nat.mul_assoc, ← hdigits]
        exact hsmall
      · have hnat : power.toNat = 0 ∧ (power + 1).toNat = 0 ∧ (-power).toNat = (-(power + 1)).toNat + 1 := by omega
        rw [hnat.1, hnat.2.2, Nat.pow_succ, ← Nat.mul_assoc] at hsmall
        rw [hnat.2.1]
        omega
    · exact h

section Fitting

variable {units digits : Nat} {q : Int}

/-- A magnitude has at most seventeen digits on each grid that is searched. -/
theorem onGrid_lt (hlow : leadingPower units - 17 < q) (hhigh : q ≤ leadingPower units) :
    onGrid units q < 10 ^ 17 * gridStep q := by
  have hten : 0 < 10 := by decide
  unfold onGrid gridStep
  rcases Nat.lt_or_ge units unitsPerOne with h | h
  · obtain ⟨hneg, hlt⟩ := leadingPower_of_lt h
    have hpower : q.toNat = 0 ∧ (-q).toNat ≤ (-1 - leadingPower units).toNat + 17 := by omega
    rw [hpower.1, Nat.pow_zero, Nat.mul_one]
    calc units * 10 ^ (-q).toNat ≤ units * 10 ^ ((-1 - leadingPower units).toNat + 17) :=
          Nat.mul_le_mul_left _ (Nat.pow_le_pow_right hten hpower.2)
      _ = 10 ^ 17 * (units * 10 ^ (-1 - leadingPower units).toNat) := by rw [Nat.pow_add]; ring
      _ < 10 ^ 17 * unitsPerOne := Nat.mul_lt_mul_of_pos_left hlt (by decide)
  · obtain ⟨hpos, -, hlt⟩ := leadingPower_of_le h
    have hpower : (leadingPower units).toNat + 1 + (-q).toNat ≤ 17 + q.toNat := by omega
    calc units * 10 ^ (-q).toNat < 10 ^ ((leadingPower units).toNat + 1) * unitsPerOne * 10 ^ (-q).toNat :=
          Nat.mul_lt_mul_of_pos_right hlt (Nat.pow_pos hten)
      _ = unitsPerOne * 10 ^ ((leadingPower units).toNat + 1 + (-q).toNat) := by rw [Nat.pow_add]; ring
      _ ≤ unitsPerOne * 10 ^ (17 + q.toNat) := Nat.mul_le_mul_left _ (Nat.pow_le_pow_right hten hpower)
      _ = 10 ^ 17 * (unitsPerOne * 10 ^ q.toNat) := by rw [Nat.pow_add]; ring

theorem few_of_mem (hlow : leadingPower units - 17 < q) (hhigh : q ≤ leadingPower units)
    (hmem : digits ∈ gridNeighbours units q) : digits ≤ 10 ^ 17 + 1 := by
  have hmul := mul_le_of_mem_gridNeighbours hmem
  have hgrid := onGrid_lt hlow hhigh
  have hlt : digits * gridStep q < (10 ^ 17 + 1) * gridStep q := by
    rw [Nat.add_mul, Nat.one_mul]
    omega
  exact (Nat.lt_of_mul_lt_mul_right hlt).le

/-- A magnitude below the largest power of ten stays small on every grid. -/
theorem small_of_lt (h : units < 10 ^ powerLimit * unitsPerOne) (hq : q < powerLimit)
    (hmem : digits ∈ gridNeighbours units q) : digits * 10 ^ q.toNat < tooLarge * 10 ^ (-q).toNat := by
  have hscale : 0 < 10 ^ (-q).toNat := Nat.pow_pos (by decide)
  have hgrid : onGrid units q < 10 ^ powerLimit * unitsPerOne * 10 ^ (-q).toNat :=
    Nat.mul_lt_mul_of_pos_right h hscale
  have hpower : 10 ^ q.toNat ≤ 10 ^ (powerLimit - 1) * 10 ^ (-q).toNat := calc
    10 ^ q.toNat ≤ 10 ^ (powerLimit - 1) := Nat.pow_le_pow_right (by decide) (by omega)
    _ ≤ 10 ^ (powerLimit - 1) * 10 ^ (-q).toNat := Nat.le_mul_of_pos_right _ hscale
  have hlimit : 10 ^ powerLimit + 10 ^ (powerLimit - 1) ≤ tooLarge := by decide +kernel
  have hdigits : digits * 10 ^ q.toNat < 10 ^ powerLimit * 10 ^ (-q).toNat + 10 ^ q.toNat := by
    refine Nat.lt_of_mul_lt_mul_left (a := unitsPerOne) ?_
    calc unitsPerOne * (digits * 10 ^ q.toNat) = digits * gridStep q := Nat.mul_left_comm ..
      _ ≤ onGrid units q + gridStep q := mul_le_of_mem_gridNeighbours hmem
      _ < 10 ^ powerLimit * unitsPerOne * 10 ^ (-q).toNat + gridStep q := Nat.add_lt_add_right hgrid _
      _ = unitsPerOne * (10 ^ powerLimit * 10 ^ (-q).toNat + 10 ^ q.toNat) := by unfold gridStep; ring
  calc digits * 10 ^ q.toNat < 10 ^ powerLimit * 10 ^ (-q).toNat + 10 ^ q.toNat := hdigits
    _ ≤ 10 ^ powerLimit * 10 ^ (-q).toNat + 10 ^ (powerLimit - 1) * 10 ^ (-q).toNat := Nat.add_le_add_left hpower _
    _ = (10 ^ powerLimit + 10 ^ (powerLimit - 1)) * 10 ^ (-q).toNat := (Nat.add_mul ..).symm
    _ ≤ tooLarge * 10 ^ (-q).toNat := Nat.mul_le_mul_right _ hlimit

theorem leadingPower_lt_limit (h : units < 10 ^ powerLimit * unitsPerOne) : leadingPower units < powerLimit := by
  rcases Nat.lt_or_ge units unitsPerOne with hone | hone
  · exact (leadingPower_of_lt hone).1.trans_le (Int.natCast_nonneg _)
  · obtain ⟨hpos, hlow, -⟩ := leadingPower_of_le hone
    have hpowers : 10 ^ (leadingPower units).toNat < 10 ^ powerLimit :=
      Nat.lt_of_mul_lt_mul_right (hlow.trans_lt h)
    have hbelow := Nat.pow_lt_pow_iff_right (a := 10) (by decide) |>.1 hpowers
    omega

theorem leadingPower_eq_limit (h : 10 ^ powerLimit * unitsPerOne ≤ units) (hfinite : units ≤ largest) :
    unitsPerOne ≤ units ∧ leadingPower units = powerLimit := by
  have hpower : 0 < 10 ^ powerLimit := by decide +kernel
  have hone : unitsPerOne ≤ units := (Nat.le_mul_of_pos_left _ hpower).trans h
  obtain ⟨hpos, hlow, hhigh⟩ := leadingPower_of_le hone
  have hlimit : largest < 10 ^ (powerLimit + 1) * unitsPerOne := by decide +kernel
  have hbelow : 10 ^ (leadingPower units).toNat < 10 ^ (powerLimit + 1) :=
    Nat.lt_of_mul_lt_mul_right ((hlow.trans hfinite).trans_lt hlimit)
  have habove : 10 ^ powerLimit < 10 ^ ((leadingPower units).toNat + 1) :=
    Nat.lt_of_mul_lt_mul_right (h.trans_lt hhigh)
  have := (Nat.pow_lt_pow_iff_right (by decide)).1 hbelow
  have := (Nat.pow_lt_pow_iff_right (by decide)).1 habove
  exact ⟨hone, by omega⟩

/-- The nearest neighbour of the largest magnitude on the finest grid. -/
theorem near_lt (hfinite : units ≤ largest) (hq : q = (powerLimit - 16 : Nat)) :
    roundQuotient (onGrid units q) (gridStep q) < 17976931348623158 := by
  have hpower : q.toNat = powerLimit - 16 ∧ (-q).toNat = 0 := by omega
  have hlimit : 2 * largest + unitsPerOne * 10 ^ (powerLimit - 16) <
      2 * (17976931348623158 * (unitsPerOne * 10 ^ (powerLimit - 16))) := by decide +kernel
  have hnear := (roundQuotient_near (onGrid units q) (gridStep_pos q)).1
  have hgrid : onGrid units q ≤ largest := by
    unfold onGrid
    rwa [hpower.2, Nat.pow_zero, Nat.mul_one]
  have hstep : gridStep q = unitsPerOne * 10 ^ (powerLimit - 16) := by
    unfold gridStep
    rw [hpower.1]
  rw [← hstep] at hlimit
  exact Nat.lt_of_mul_lt_mul_right (a := gridStep q) (by omega)

theorem log2_largest_le : largest.log2 - 52 ≤ widest := by
  decide +kernel

/-- A decimal with at most sixteen digits that rounds to a finite magnitude. -/
theorem small_of_inRounding (hfinite : units ≤ largest) (hq : (powerLimit - 15 : Nat) ≤ q)
    (h : inRounding units digits q = true) : digits * 10 ^ q.toNat < tooLarge * 10 ^ (-q).toNat := by
  obtain ⟨n, hn⟩ : ∃ n, q.toNat = powerLimit - 15 + n := ⟨q.toNat - (powerLimit - 15), by omega⟩
  have hzero : (-q).toNat = 0 := by omega
  have hmul := mul_le_of_inRounding h
  have hspacing : spacing units ≤ 2 ^ widest :=
    spacing_le_pow ((Nat.sub_le_sub_right (log2_mono hfinite) _).trans log2_largest_le)
  have hlimit : 4 * largest + 2 * 2 ^ widest < 4 * (1797693134862316 * (unitsPerOne * 10 ^ (powerLimit - 15))) := by
    decide +kernel
  unfold onGrid at hmul
  rw [hzero, Nat.pow_zero, Nat.mul_one, Nat.mul_one] at hmul
  -- What stands for a multiple of a fifteenth power is told apart from the limit by its digits.
  have hgrid : digits * gridStep q = digits * 10 ^ n * (unitsPerOne * 10 ^ (powerLimit - 15)) := by
    unfold gridStep
    rw [hn, Nat.pow_add]
    ring
  rw [hgrid] at hmul
  have hdigits : digits * 10 ^ n < 1797693134862316 :=
    Nat.lt_of_mul_lt_mul_right (a := unitsPerOne * 10 ^ (powerLimit - 15)) (by omega)
  have hlarge : 1797693134862315 * 10 ^ (powerLimit - 15) < tooLarge := by decide +kernel
  rw [hn, hzero, Nat.pow_zero, Nat.mul_one]
  calc digits * 10 ^ (powerLimit - 15 + n) = digits * 10 ^ n * 10 ^ (powerLimit - 15) := by
        rw [Nat.pow_add]
        ring
    _ ≤ 1797693134862315 * 10 ^ (powerLimit - 15) := Nat.mul_le_mul_right _ (Nat.le_of_lt_succ hdigits)
    _ < tooLarge := hlarge

/-- And so does a magnitude above it. -/
theorem small_of_le (h : 10 ^ powerLimit * unitsPerOne ≤ units) (hfinite : units ≤ largest)
    (hlow : leadingPower units - 17 < q)
    (hfind : (gridNeighbours units q).find? (fun digits => inRounding units digits q) = some digits) :
    digits * 10 ^ q.toNat < tooLarge * 10 ^ (-q).toNat := by
  obtain ⟨hone, hleading⟩ := leadingPower_eq_limit h hfinite
  have hlast : powerLimit = 308 := rfl
  rcases lt_or_ge q (powerLimit - 15 : Nat) with hq | hq
  · -- On the finest grid the nearest neighbour has been found.
    have hq : q = (powerLimit - 16 : Nat) := by omega
    have hnear := find?_last hone
    rw [show leadingPower units - 16 = q by omega, hfind] at hnear
    have hdigits : digits < 17976931348623158 := Option.some.inj hnear ▸ near_lt hfinite hq
    have hpower : q.toNat = powerLimit - 16 ∧ (-q).toNat = 0 := by omega
    rw [hpower.1, hpower.2, Nat.pow_zero, Nat.mul_one]
    unfold tooLarge
    exact Nat.mul_lt_mul_of_pos_right hdigits (Nat.pow_pos (by decide))
  · have hrounding := @List.find?_some _ (fun digits => inRounding units digits q) _ _ hfind
    exact small_of_inRounding hfinite hq hrounding

end Fitting

/-- The shortest digits of a positive finite magnitude fit. -/
theorem fits_shortest {units : Nat} (hunits : units ≠ 0) (hfinite : units ≤ largest) :
    Fits (shortest units).1 (shortest units).2 := by
  suffices hsearch : Fits (searchGrids units 17 (leadingPower units)).1 (searchGrids units 17 (leadingPower units)).2
    from hsearch.strip 17
  rcases searchGrids_cases units 17 (leadingPower units) with ⟨digits, q, hsearch, hlow, hhigh, hfind⟩ | ⟨hsearch, hnone⟩
  · rw [hsearch]
    have hmem := List.mem_of_find?_eq_some hfind
    have hrounding := @List.find?_some _ (fun digits => inRounding units digits q) _ _ hfind
    refine ⟨few_of_mem hlow hhigh hmem, ?_, fun _ => ne_zero_of_inRounding hunits hrounding⟩
    rcases Nat.lt_or_ge units (10 ^ powerLimit * unitsPerOne) with hsmall | hlarge
    · exact small_of_lt hsmall (hhigh.trans_lt (leadingPower_lt_limit hsmall)) hmem
    · exact small_of_le hlarge hfinite hlow hfind
  · -- Nothing is found only below one, where the digit is at most one and stands behind the point.
    have hbelow : units < unitsPerOne := by
      by_contra hone
      cases (hnone _ (by omega) (by omega)).symm.trans (find?_last (not_lt.1 hone))
    have hneg := (leadingPower_of_lt hbelow).1
    have hdigit : roundQuotient units unitsPerOne ≤ 1 := by
      have := roundQuotient_le units unitsPerOne
      rwa [Nat.div_eq_of_lt hbelow] at this
    rw [hsearch]
    exact Fits.of_neg (hdigit.trans (by decide)) (by omega)

/-! ## Reading the digits -/

section Reading

variable {digits : Nat} {power : Int}

/-- The largest numbers of digits that fit at the largest powers do not overflow. -/
theorem mul_lt_overflow_of_limit : ∀ k ≤ 16,
    roundUnits ((ofInt ((tooLarge - 1) / 10 ^ (powerLimit - k) : Nat)).units * powerOfTen (powerLimit - k)) unitsPerOne <
      overflow := by
  decide +kernel

/-- And neither do the largest digits at smaller powers. -/
theorem mul_lt_overflow_of_few :
    roundUnits ((ofInt (10 ^ 17 + 1 : Nat)).units * powerOfTen (powerLimit - 17)) unitsPerOne < overflow := by
  decide +kernel

theorem units_ofInt_mono {m n : Nat} (h : m ≤ n) : (ofInt m).units ≤ (ofInt n).units :=
  roundUnits_mono 1 (Nat.mul_le_mul_right _ h)

theorem powerOfTen_mono {m n : Nat} (h : m ≤ n) : powerOfTen m ≤ powerOfTen n :=
  roundUnits_mono 1 (Nat.mul_le_mul_right _ (Nat.pow_le_pow_right (by decide) h))

/-- Digits that fit are multiplied by their power of ten without overflow. -/
theorem Fits.isSome_mulPowerOfTen? {n : Nat} (h : Fits digits n) : (mulPowerOfTen? n (ofInt digits).units).isSome := by
  have hzero : (-(n : Int)).toNat = 0 := by omega
  have hsmall : digits * 10 ^ n < tooLarge := by
    have hscaled := h.small
    rwa [Int.toNat_natCast, hzero, Nat.pow_zero, Nat.mul_one] at hscaled
  have hdigits : 1 ≤ digits := Nat.one_le_iff_ne_zero.2 (h.nonzero (Int.natCast_nonneg n))
  have hpower : n < powerLimit + 1 := by
    have hlimit : tooLarge ≤ 10 ^ (powerLimit + 1) := by decide +kernel
    have hlt : 10 ^ n < 10 ^ (powerLimit + 1) :=
      ((Nat.le_mul_of_pos_left _ hdigits).trans_lt hsmall).trans_le hlimit
    exact Nat.pow_lt_pow_iff_right (a := 10) (by decide) |>.1 hlt
  have hproduct : roundUnits ((ofInt digits).units * powerOfTen n) unitsPerOne < overflow := by
    -- At the largest powers the number decides, at smaller ones that the digits are few.
    rcases Nat.lt_or_ge n (powerLimit - 16) with hn | hn
    · refine lt_of_le_of_lt (roundUnits_mono _ (Nat.mul_le_mul ?_ ?_)) mul_lt_overflow_of_few
      · exact units_ofInt_mono h.few
      · exact powerOfTen_mono (by omega)
    · have hlast : powerLimit - (powerLimit - n) = n := Nat.sub_sub_self (Nat.le_of_lt_succ hpower)
      have hproduct := mul_lt_overflow_of_limit (powerLimit - n) (by omega)
      rw [hlast] at hproduct
      refine lt_of_le_of_lt (roundUnits_mono _ (Nat.mul_le_mul_right _ (units_ofInt_mono ?_))) hproduct
      exact (Nat.le_div_iff_mul_le (Nat.pow_pos (by decide))).2 (Nat.le_sub_one_of_lt hsmall)
  unfold mulPowerOfTen?
  split_ifs with hnone hlimit
  · rfl
  · omega
  · dsimp only
    rw [if_pos hproduct]
    rfl

/-- A decimal with digits that fit is read. -/
theorem Fits.isSome_ofDecimal? (h : Fits digits power) (negative : Bool) {whole fraction : List Nat} {exponent : Int}
    (hdigits : append 0 (whole ++ fraction) = digits) (hpower : exponent - fraction.length = power) :
    (ofDecimal? negative whole fraction exponent).isSome := by
  have hmax : append 0 (whole ++ fraction) ≤ unsignedMax := hdigits ▸ h.few.trans (by decide)
  rw [ofDecimal?_eq hmax, hdigits, hpower]
  dsimp only
  split_ifs with hsign
  · obtain ⟨n, rfl⟩ := Int.eq_ofNat_of_zero_le hsign
    rw [Option.isSome_map]
    exact h.isSome_mulPowerOfTen?
  · rfl

end Reading

end Taskboard.Binary64
