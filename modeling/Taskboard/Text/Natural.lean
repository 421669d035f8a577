/-
Natural numbers in texts: an optional plus sign and one or more decimal digits, of a value that
fits 64 bits.
-/
import Taskboard.Number.Bounds

namespace Taskboard.Text

/-- The value of a decimal digit. -/
def digit? (c : Char) : Option Nat :=
  if c.isDigit then some (c.toNat - '0'.toNat) else none

/-- The value of a row of decimal digits, read from the left. -/
def ofDigits (digits : List Nat) : Nat :=
  digits.foldl (fun value digit => 10 * value + digit) 0

/-- Reads a number of at most 64 bits; blanks, other signs and separators are refused. -/
def natural? (s : String) : Option Nat := do
  let cs := match s.toList with
    | '+' :: rest => rest
    | cs => cs
  if cs.isEmpty then none
  let value := ofDigits (← cs.mapM digit?)
  if value ≤ unsignedMax then some value else none

end Taskboard.Text
