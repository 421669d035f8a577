/-
Whole numbers as doubles. One of less than 53 bits is held exactly (`signedUnits_ofInt`), and no other whole
number, however large, is rounded to its value (`sameRounded_iff`). With one bit more that ends; beyond, just the
numbers are held exactly that have 53 significant bits at most (`signedUnits_ofInt_iff`).
-/
import Taskboard.Proofs.Number.Decimals

namespace Taskboard.Binary64

/-! ## Magnitudes that are held exactly -/

theorem roundQuotient_mul_of_dvd {num den : Nat} (hden : 0 < den) (h : den ∣ num) :
    roundQuotient num den * den = num := by
  obtain ⟨q, rfl⟩ := h
  have hquotient : roundQuotient (den * q) den = q := by
    simp [roundQuotient, Nat.mul_div_cancel_left q hden, hden]
  rw [hquotient, Nat.mul_comm]

theorem roundUnits_of_dvd {units : Nat} (h : spacing units ∣ units) : roundUnits units 1 = units := by
  rw [roundUnits_eq, Nat.div_one, Nat.one_mul, roundQuotient_mul_of_dvd (spacing_pos units) h]

/-- A magnitude of at most 53 significant bits lies on the grid of its neighbours. -/
theorem roundUnits_mul_pow {n : Nat} (h : n < 2 ^ 53) (k : Nat) : roundUnits (n * 2 ^ k) 1 = n * 2 ^ k := by
  have hlog : (n * 2 ^ k).log2 - 52 ≤ k := by
    rcases Nat.eq_zero_or_pos (n * 2 ^ k) with hzero | hpos
    · rw [hzero]
      exact Nat.zero_le _
    · have hlt : n * 2 ^ k < 2 ^ (53 + k) := by
        rw [Nat.pow_add]
        exact Nat.mul_lt_mul_of_pos_right h (Nat.pow_pos (by decide))
      have := (Nat.log2_lt (Nat.ne_of_gt hpos)).2 hlt
      omega
  exact roundUnits_of_dvd (Nat.dvd_mul_left_of_dvd (Nat.pow_dvd_pow 2 hlog) n)

/-- A magnitude of more bits is not rounded to one of fewer. -/
theorem le_roundUnits_mul_pow {n : Nat} (h : 2 ^ 53 ≤ n) (k : Nat) : 2 ^ 53 * 2 ^ k ≤ roundUnits (n * 2 ^ k) 1 := by
  have hle : 2 ^ (53 + k) ≤ n * 2 ^ k := by
    rw [Nat.pow_add]
    exact Nat.mul_le_mul_right _ h
  have hne : n * 2 ^ k ≠ 0 := Nat.ne_of_gt ((Nat.pow_pos (by decide)).trans_le hle)
  calc 2 ^ 53 * 2 ^ k = 2 ^ (53 + k) := (Nat.pow_add ..).symm
    _ ≤ 2 ^ (n * 2 ^ k / 1).log2 := by
      rw [Nat.div_one]
      exact Nat.pow_le_pow_right (by decide) ((Nat.le_log2 hne).2 hle)
    _ ≤ roundUnits (n * 2 ^ k) 1 := pow_le_roundUnits (by rwa [Nat.div_one])

/-- The power of two that makes one of the smallest positive number. -/
def onePower : Nat :=
  1074

theorem unitsPerOne_eq : unitsPerOne = 2 ^ onePower := by
  decide +kernel

/-! ## Whole numbers -/

theorem natAbs_signedUnits (x : Binary64) : x.signedUnits.natAbs = x.units := by
  unfold signedUnits
  split <;> simp

theorem units_ofInt {n : Int} (h : n.natAbs < 2 ^ 53) : (ofInt n).units = n.natAbs * unitsPerOne := by
  unfold ofInt
  rw [unitsPerOne_eq, roundUnits_mul_pow h]

/-- A whole number from 2^53 on is not rounded to less. -/
theorem le_units_ofInt {n : Int} (h : 2 ^ 53 ≤ n.natAbs) : 2 ^ 53 * unitsPerOne ≤ (ofInt n).units := by
  unfold ofInt
  rw [unitsPerOne_eq]
  exact le_roundUnits_mul_pow h onePower

/-- A whole number keeps its sign. -/
theorem signedUnits_ofInt_of_units {n : Int} (h : (ofInt n).units = n.natAbs * unitsPerOne) :
    (ofInt n).signedUnits = n * unitsPerOne := by
  have hnegative : (ofInt n).negative = decide (n < 0) := rfl
  unfold signedUnits
  rw [h, hnegative, Int.natCast_mul]
  by_cases hsign : n < 0
  · rw [if_pos (decide_eq_true hsign), Int.ofNat_natAbs_of_nonpos (by omega), ← Int.neg_mul, Int.neg_neg]
  · rw [if_neg (by simpa using hsign), Int.natAbs_of_nonneg (by omega)]

/-- A whole number below 2^53 is held exactly. -/
theorem signedUnits_ofInt {n : Int} (h : n.natAbs < 2 ^ 53) : (ofInt n).signedUnits = n * unitsPerOne :=
  signedUnits_ofInt_of_units (units_ofInt h)

/-- Whether two whole numbers are rounded to one value. -/
def sameRounded (n m : Int) : Bool :=
  (ofInt n).sameValue (ofInt m)

/-- No other whole number is rounded to the value of one below 2^53. -/
theorem sameRounded_iff {n m : Int} (h : m.natAbs < 2 ^ 53) : sameRounded n m = true ↔ n = m := by
  unfold sameRounded sameValue
  rw [beq_iff_eq]
  refine ⟨fun heq => ?_, fun heq => by rw [heq]⟩
  have hpos : 0 < unitsPerOne := unitsPerOne_pos
  rcases Nat.lt_or_ge n.natAbs (2 ^ 53) with hn | hn
  · rw [signedUnits_ofInt hn, signedUnits_ofInt h] at heq
    exact Int.eq_of_mul_eq_mul_right (by exact_mod_cast hpos.ne') heq
  · -- Magnitudes from 2^53 on stay apart from those below.
    have hunits := congrArg Int.natAbs heq
    rw [natAbs_signedUnits, natAbs_signedUnits, units_ofInt h] at hunits
    have hlt := Nat.mul_lt_mul_of_pos_right h hpos
    exact absurd (le_units_ofInt hn) (by omega)

/-- The bound is the best one: 2^53 and its neighbour above have one value. -/
example : sameRounded 9007199254740993 9007199254740992 = true := by
  decide +kernel

/-- To round to the value of one of some numbers below 2^53 is to be one of them. -/
theorem any_sameRounded {numbers : List Int} (h : ∀ m ∈ numbers, m.natAbs < 2 ^ 53) (n : Int) :
    numbers.any (sameRounded n) = decide (n ∈ numbers) := by
  rw [Bool.eq_iff_iff, List.any_eq_true, decide_eq_true_iff]
  constructor
  · rintro ⟨m, hm, hsame⟩
    exact (sameRounded_iff (h m hm)).1 hsame ▸ hm
  · exact fun hn => ⟨n, hn, (sameRounded_iff (h n hn)).2 rfl⟩

end Taskboard.Binary64
