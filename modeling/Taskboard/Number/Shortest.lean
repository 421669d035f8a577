/-
The shortest decimal that reads back as a given double-precision number, and the ways to lay it
out as text. Of the decimals with the fewest digits the nearest to the value is taken, of two
equally near ones that with an even last digit.
-/
import Taskboard.Number.Binary64
import Taskboard.Text.Natural

namespace Taskboard.Binary64

/-! ## Digits -/

/-- Whether the decimal `digits · 10^power` lies among the reals that round to a magnitude. The
bounds are half a spacing away, below a power of two a quarter; they count as inside when the
significand is even. -/
def inRounding (units : Nat) (digits : Nat) (power : Int) : Bool :=
  let step := spacing units
  let significand := units / step
  let below := if significand = Nat.pow 2 52 ∧ 1 < step then step else 2 * step
  let left := 4 * (digits * unitsPerOne * Nat.pow 10 power.toNat)
  let scale := Nat.pow 10 (-power).toNat
  let low := (4 * units - below) * scale
  let high := (4 * units + 2 * step) * scale
  if significand % 2 = 0 then low ≤ left && left ≤ high else low < left && left < high

/-- The number of decimal digits of a natural. -/
def digitCount (n : Nat) : Nat :=
  (Nat.toDigits 10 n).length

/-- The power of ten of the leading digit of a positive magnitude. -/
def leadingPower (units : Nat) : Int :=
  if unitsPerOne ≤ units then digitCount (units / unitsPerOne) - 1
  else
    -- scaled by 10^325 every positive magnitude has a whole part
    (digitCount (units * Nat.pow 10 325 / unitsPerOne) : Int) - 326

/-- The two neighbours of a magnitude on the grid of multiples of `10^power`, the nearer first, and
of two equally near ones the even one. -/
def gridNeighbours (units : Nat) (power : Int) : List Nat :=
  let num := units * Nat.pow 10 (-power).toNat
  let den := unitsPerOne * Nat.pow 10 power.toNat
  let near := roundQuotient num den
  let floor := num / den
  if near = floor then [floor, floor + 1] else [floor + 1, floor]

/-- The first neighbour that reads back, from the coarsest of the grids that are left to the finest. -/
def searchGrids (units : Nat) : Nat → Int → Nat × Int
  | 0, power => (roundQuotient units unitsPerOne, power)
  | grids + 1, power =>
    match (gridNeighbours units power).find? (fun digits => inRounding units digits power) with
    | some digits => (digits, power)
    | none => searchGrids units grids (power - 1)

/-- Moves trailing zeros of the digits into the power, at most `n` of them. -/
def stripZeros : Nat → Nat × Int → Nat × Int
  | 0, d => d
  | n + 1, (digits, power) =>
    if digits ≠ 0 ∧ digits % 10 = 0 then stripZeros n (digits / 10, power + 1) else (digits, power)

/-- The shortest digits of a positive magnitude and the power of ten of the last of them. Seventeen
digits always suffice. -/
def shortest (units : Nat) : Nat × Int :=
  stripZeros 17 (searchGrids units 17 (leadingPower units))

/-! ## Layout -/

/-- How shortest digits become text. -/
structure Layout where
  /-- The least power of the leading digit that is written without an exponent. -/
  positionalFrom : Int
  /-- The first power of the leading digit that is written with an exponent again. -/
  positionalUpTo : Int
  /-- Whether a whole number is written with `.0`. -/
  pointZero : Bool

/-- Zeros in a row. -/
def zeros (n : Nat) : List Char :=
  List.replicate n '0'

/-- The digits with a point after the first `whole` of them; without one when none is left. -/
def pointed (whole : Nat) (digits : List Char) : List Char :=
  if digits.length ≤ whole then digits else digits.take whole ++ '.' :: digits.drop whole

/-- Digits written without an exponent, where the last of them has the given power of ten. -/
def positional (pointZero : Bool) (digits : List Char) (power : Int) : List Char :=
  if 0 ≤ power then digits ++ zeros power.toNat ++ (if pointZero then ['.', '0'] else [])
  else
    let places := (-power).toNat
    if places < digits.length then pointed (digits.length - places) digits
    else '0' :: '.' :: zeros (places - digits.length) ++ digits

/-- Digits written with a point after the first of them and a signed exponent. -/
def scientific (digits : List Char) (leading : Int) : List Char :=
  pointed 1 digits ++ 'e' :: (if leading < 0 then '-' else '+') :: Nat.toDigits 10 leading.natAbs

/-- The text of a number in a layout. -/
def write (layout : Layout) (x : Binary64) : List Char :=
  let magnitude :=
    if x.units = 0 then '0' :: (if layout.pointZero then ['.', '0'] else [])
    else
      let (digits, power) := shortest x.units
      let text := Nat.toDigits 10 digits
      let leading := power + text.length - 1
      if layout.positionalFrom ≤ leading ∧ leading < layout.positionalUpTo then
        positional layout.pointZero text power
      else scientific text leading
  if x.negative then '-' :: magnitude else magnitude

/-- The exact decimal of a whole number, and the shortest digits without an exponent of any other. -/
def plainText (x : Binary64) : String :=
  if x.isWhole then
    String.ofList ((if x.negative then ['-'] else []) ++ Nat.toDigits 10 (x.units / unitsPerOne))
  else String.ofList (x.write ⟨-400, 400, false⟩)

end Taskboard.Binary64
