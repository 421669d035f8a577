/-
Finite double-precision numbers, held exactly: a sign and a count of the smallest positive one,
2^-1074. Comparison is comparison of whole numbers, so it is total and the two zeros are equal.
Rounding takes the exact quotient of two naturals to the nearest number with 53 significant
bits, a tie to the even one.
-/
import Taskboard.Number.Bounds

namespace Taskboard

/-- A finite double-precision number: its sign, and its magnitude in units of 2^-1074. -/
structure Binary64 where
  negative : Bool
  units : Nat
deriving Inhabited, DecidableEq

namespace Binary64

/-- How many of the smallest positive numbers make one. -/
def unitsPerOne : Nat := Nat.pow 2 1074

/-- The first magnitude that is too large to be finite, 2^1024. -/
def overflow : Nat := Nat.pow 2 2098

/-! ## Order -/

/-- The value as a whole number of units; both zeros have the value 0. -/
def signedUnits (x : Binary64) : Int :=
  if x.negative then -(x.units : Int) else x.units

/-- Numbers are equal when their values are, whatever the sign of a zero. -/
def sameValue (x y : Binary64) : Bool :=
  x.signedUnits == y.signedUnits

/-- Numbers are ordered by their values. -/
def order (x y : Binary64) : Ordering :=
  compare x.signedUnits y.signedUnits

/-! ## Rounding -/

/-- The whole number nearest to `num / den`; a tie goes to the even one. -/
def roundQuotient (num den : Nat) : Nat :=
  let q := num / den
  let twice := 2 * (num % den)
  if twice < den ∨ (twice = den ∧ q % 2 = 0) then q else q + 1

/-- The distance between neighbouring magnitudes around `units`: 53 significant bits are kept. -/
def spacing (units : Nat) : Nat :=
  Nat.pow 2 (units.log2 - 52)

/-- The magnitude nearest to `num / den` units, however large. -/
def roundUnits (num den : Nat) : Nat :=
  let step := spacing (num / den)
  roundQuotient num (den * step) * step

/-- The number nearest to a whole number. -/
def ofInt (n : Int) : Binary64 :=
  ⟨n < 0, roundUnits (n.natAbs * unitsPerOne) 1⟩

/-- One for a true flag and zero for a false one. -/
def ofBool (b : Bool) : Binary64 :=
  ofInt (if b then 1 else 0)

/-- Whether the value is a whole number. -/
def isWhole (x : Binary64) : Bool :=
  x.units % unitsPerOne == 0

/-! ## Reading decimals -/

/-- Appends decimal digits to `value` for as long as the result fits 64 bits, and gives the digits
that are left. -/
def gather (value : Nat) : List Nat → Nat × List Nat
  | [] => (value, [])
  | digit :: rest =>
    if 10 * value + digit ≤ unsignedMax then gather (10 * value + digit) rest else (value, digit :: rest)

/-- Ten to the power `n`, as a magnitude. -/
def powerOfTen (n : Nat) : Nat :=
  roundUnits (Nat.pow 10 n * unitsPerOne) 1

/-- The largest power of ten that one division or multiplication takes. -/
def powerLimit : Nat := 308

/-- The magnitude divided by `divisor`, in the same units. -/
def divUnits (units divisor : Nat) : Nat :=
  roundUnits (units * unitsPerOne) divisor

/-- The magnitude divided by ten to the power `n`, in steps of at most 10^308, each rounded. -/
def divPowerOfTen (n units : Nat) : Nat :=
  if n ≤ powerLimit then divUnits units (powerOfTen n)
  else if units = 0 then 0
  else divPowerOfTen (n - powerLimit) (divUnits units (powerOfTen powerLimit))
termination_by n
decreasing_by
  have : 0 < powerLimit := by decide
  omega

/-- The magnitude times ten to the power `n`; none when the result is not finite. -/
def mulPowerOfTen? (n units : Nat) : Option Nat :=
  if units = 0 then some 0
  else if powerLimit < n then none
  else
    let product := roundUnits (units * powerOfTen n) unitsPerOne
    if product < overflow then some product else none

/-- Reads the decimal `whole.fraction · 10^exponent`: the leading digits that fit 64 bits make the
significand, whole digits beyond them count as zeros and fraction digits beyond them are dropped;
significand and power of ten are rounded, and so is their product or quotient. None when the result
is not finite. -/
def ofDecimal? (negative : Bool) (whole fraction : List Nat) (exponent : Int) : Option Binary64 :=
  let front := gather 0 whole
  let back := gather front.1 fraction
  let units := (ofInt back.1).units
  let shift := exponent + front.2.length - (fraction.length - back.2.length : Nat)
  let magnitude? := if 0 ≤ shift then mulPowerOfTen? shift.toNat units
    else some (divPowerOfTen (-shift).toNat units)
  magnitude?.map fun magnitude => ⟨negative, magnitude⟩

end Binary64

end Taskboard
