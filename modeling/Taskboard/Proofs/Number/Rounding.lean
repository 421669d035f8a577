/-
Rounding to 53 significant bits. A rounded quotient is a nearest whole number (`roundQuotient_near`), a rounded
magnitude lies within the binade of the exact one (`roundUnits_le_pow`, `pow_le_roundUnits`) and grows with it
(`roundUnits_mono`), and a rounded magnitude that does not overflow is at most the largest finite one
(`roundUnits_le_largest`).
-/
import Taskboard.Number.Binary64
import Mathlib.Algebra.Group.Nat.Defs
import Mathlib.Data.Nat.Log

namespace Taskboard.Binary64

/-! ## Quotients -/

section Quotients

variable {num other den : Nat}

theorem div_le_roundQuotient (num den : Nat) : num / den ≤ roundQuotient num den := by
  unfold roundQuotient
  dsimp only
  split <;> omega

theorem roundQuotient_le (num den : Nat) : roundQuotient num den ≤ num / den + 1 := by
  unfold roundQuotient
  dsimp only
  split <;> omega

/-- A rounded quotient is at most half away from the exact one. -/
theorem roundQuotient_near (num : Nat) (hden : 0 < den) : 2 * (roundQuotient num den * den) ≤ 2 * num + den ∧
    2 * num ≤ 2 * (roundQuotient num den * den) + den := by
  have hsplit := Nat.div_add_mod num den
  have hmod := Nat.mod_lt num hden
  rw [Nat.mul_comm] at hsplit
  unfold roundQuotient
  dsimp only
  split
  · omega
  · rw [Nat.add_mul, Nat.one_mul]
    omega

theorem roundQuotient_mono (h : num ≤ other) : roundQuotient num den ≤ roundQuotient other den := by
  rcases Nat.lt_or_ge (num / den) (other / den) with hlt | hge
  · exact (roundQuotient_le num den).trans ((Nat.succ_le_of_lt hlt).trans (div_le_roundQuotient other den))
  · -- The quotients agree, and the remainders decide.
    have heq : num / den = other / den := le_antisymm (Nat.div_le_div_right h) hge
    have hnum := Nat.div_add_mod num den
    have hother := Nat.div_add_mod other den
    rw [heq] at hnum
    unfold roundQuotient
    dsimp only
    rw [heq]
    split <;> split <;> omega

end Quotients

/-! ## The distance between neighbours -/

theorem spacing_pos (units : Nat) : 0 < spacing units :=
  Nat.pow_pos (by decide)

theorem spacing_le {units : Nat} (h : units ≠ 0) : spacing units ≤ units :=
  (Nat.pow_le_pow_right (by decide) (Nat.sub_le _ _)).trans (Nat.log2_self_le h)

theorem spacing_le_pow {units n : Nat} (h : units.log2 - 52 ≤ n) : spacing units ≤ 2 ^ n :=
  Nat.pow_le_pow_right (by decide) h

theorem lt_spacing (units : Nat) : units < 2 ^ 53 * spacing units := by
  have hlog : units < 2 ^ (units.log2 + 1) := Nat.lt_log2_self
  have hpow : 2 ^ 53 * spacing units = 2 ^ (53 + (units.log2 - 52)) := (Nat.pow_add ..).symm
  rw [hpow]
  exact hlog.trans_le (Nat.pow_le_pow_right (by decide) (by omega))

/-! ## Magnitudes -/

theorem log2_mono {m n : Nat} (h : m ≤ n) : m.log2 ≤ n.log2 := by
  rcases Nat.eq_zero_or_pos m with rfl | hm
  · exact Nat.zero_le _
  · exact (Nat.le_log2 (by omega)).2 ((Nat.log2_self_le (by omega)).trans h)

theorem roundUnits_eq (num den : Nat) :
    roundUnits num den = roundQuotient num (den * spacing (num / den)) * spacing (num / den) :=
  rfl

theorem roundUnits_le (num den : Nat) : roundUnits num den ≤ num / den + spacing (num / den) := by
  calc roundUnits num den
      ≤ (num / den / spacing (num / den) + 1) * spacing (num / den) :=
        Nat.mul_le_mul_right _ (Nat.div_div_eq_div_mul num den _ ▸ roundQuotient_le ..)
    _ = num / den / spacing (num / den) * spacing (num / den) + spacing (num / den) := by rw [Nat.add_mul, Nat.one_mul]
    _ ≤ num / den + spacing (num / den) := Nat.add_le_add_right (Nat.div_mul_le_self ..) _

/-- A rounded magnitude is at most the next power of two. -/
theorem roundUnits_le_pow (num den : Nat) : roundUnits num den ≤ 2 ^ ((num / den).log2 + 1) := by
  have hpos := spacing_pos (num / den)
  have hpow : 2 ^ ((num / den).log2 + 1) =
      2 ^ ((num / den).log2 + 1 - ((num / den).log2 - 52)) * spacing (num / den) := by
    unfold spacing
    rw [Nat.pow_eq, ← Nat.pow_add]
    exact congrArg (2 ^ ·) (by omega)
  have hlt : num / den < 2 ^ ((num / den).log2 + 1) := Nat.lt_log2_self
  have hquotient : roundQuotient num (den * spacing (num / den)) ≤
      2 ^ ((num / den).log2 + 1 - ((num / den).log2 - 52)) := by
    refine (roundQuotient_le ..).trans ?_
    rw [← Nat.div_div_eq_div_mul]
    exact (Nat.div_lt_iff_lt_mul hpos).2 (hpow ▸ hlt)
  rw [hpow]
  exact Nat.mul_le_mul_right _ hquotient

/-- A rounded magnitude is at least the power of two below the exact one. -/
theorem pow_le_roundUnits {num den : Nat} (h : num / den ≠ 0) : 2 ^ (num / den).log2 ≤ roundUnits num den := by
  have hpos := spacing_pos (num / den)
  have hpow : 2 ^ (num / den).log2 = 2 ^ ((num / den).log2 - ((num / den).log2 - 52)) * spacing (num / den) := by
    unfold spacing
    rw [Nat.pow_eq, ← Nat.pow_add]
    exact congrArg (2 ^ ·) (by omega)
  have hle : 2 ^ (num / den).log2 ≤ num / den := Nat.log2_self_le h
  have hquotient : 2 ^ ((num / den).log2 - ((num / den).log2 - 52)) ≤
      roundQuotient num (den * spacing (num / den)) := by
    refine le_trans ?_ (div_le_roundQuotient ..)
    rw [← Nat.div_div_eq_div_mul]
    exact (Nat.le_div_iff_mul_le hpos).2 (hpow ▸ hle)
  rw [hpow]
  exact Nat.mul_le_mul_right _ hquotient

theorem roundUnits_mono {num other : Nat} (den : Nat) (h : num ≤ other) :
    roundUnits num den ≤ roundUnits other den := by
  have hquotient : num / den ≤ other / den := Nat.div_le_div_right h
  rcases Nat.lt_or_ge (num / den).log2 (other / den).log2 with hlt | hge
  · have hne : other / den ≠ 0 := by
      intro hzero
      rw [hzero] at hlt
      exact absurd hlt (Nat.not_lt_zero _)
    calc roundUnits num den ≤ 2 ^ ((num / den).log2 + 1) := roundUnits_le_pow num den
      _ ≤ 2 ^ (other / den).log2 := Nat.pow_le_pow_right (by decide) hlt
      _ ≤ roundUnits other den := pow_le_roundUnits hne
  · -- In one binade the neighbours are equally far apart.
    have hlog : (num / den).log2 = (other / den).log2 := le_antisymm (log2_mono hquotient) hge
    have hspacing : spacing (num / den) = spacing (other / den) := congrArg (fun log => Nat.pow 2 (log - 52)) hlog
    rw [roundUnits_eq, roundUnits_eq, hspacing]
    exact Nat.mul_le_mul_right _ (roundQuotient_mono h)

/-! ## Finite magnitudes -/

/-- A rounded magnitude below a large power of two is at most the last one with 53 significant bits. -/
theorem roundUnits_le_last {num den m : Nat} (h : roundUnits num den < 2 ^ m * 2 ^ 53) :
    roundUnits num den ≤ 2 ^ m * (2 ^ 53 - 1) := by
  rcases Nat.lt_or_ge (num / den).log2 (m + 52) with hsmall | hlarge
  · calc roundUnits num den ≤ 2 ^ ((num / den).log2 + 1) := roundUnits_le_pow num den
      _ ≤ 2 ^ (m + 52) := Nat.pow_le_pow_right (by decide) hsmall
      _ = 2 ^ m * 2 ^ 52 := Nat.pow_add ..
      _ ≤ 2 ^ m * (2 ^ 53 - 1) := Nat.mul_le_mul_left _ (by decide)
  · -- Neighbours are at least `2 ^ m` apart.
    have hspacing : 2 ^ m ∣ spacing (num / den) := Nat.pow_dvd_pow 2 (by omega)
    obtain ⟨k, hk⟩ : 2 ^ m ∣ roundUnits num den := Nat.dvd_mul_left_of_dvd hspacing _
    rw [hk] at h ⊢
    exact Nat.mul_le_mul_left _ (Nat.le_sub_one_of_lt (Nat.lt_of_mul_lt_mul_left h))

/-- The power of two of the distance between the largest finite magnitudes. -/
def widest : Nat :=
  2045

/-- The largest finite magnitude. -/
def largest : Nat :=
  2 ^ widest * (2 ^ 53 - 1)

/-- A magnitude that is not too large. -/
def Finite (x : Binary64) : Prop :=
  x.units ≤ largest

theorem overflow_eq : overflow = 2 ^ widest * 2 ^ 53 := by
  decide +kernel

/-- A rounded magnitude that does not overflow is at most the largest finite one. -/
theorem roundUnits_le_largest {num den : Nat} (h : roundUnits num den < overflow) : roundUnits num den ≤ largest :=
  roundUnits_le_last (h.trans_eq overflow_eq)

end Taskboard.Binary64
