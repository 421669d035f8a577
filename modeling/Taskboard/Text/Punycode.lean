/-
Punycode: a text as ASCII characters. The ASCII characters of the text come first, then a hyphen, and
behind it a number for each other character, which says how many places further it goes when the places
of all characters are counted one code point after another. A number has its lowest digit first, and
ends with the first digit below a threshold, which adapts to the numbers before it.
-/

namespace Taskboard.Text.Punycode

/-! ## Numbers -/

/-- The value of a digit: letters of either case, then decimal digits. -/
def digit? (c : Char) : Option Nat :=
  if c.isAlpha then some (c.toLower.toNat - 'a'.toNat)
  else if c.isDigit then some (c.toNat - '0'.toNat + 26)
  else none

/-- The threshold of the digit at a place; places are counted in steps of 36. -/
def threshold (bias place : Nat) : Nat :=
  if place ≤ bias then 1 else if bias + 26 ≤ place then 26 else place - bias

/-- Divides a distance until it is small, and counts the divisions in steps of 36. -/
def scaleDown (distance count : Nat) : Nat × Nat :=
  if 455 < distance then scaleDown (distance / 35) (count + 36) else (distance, count)
termination_by distance
decreasing_by exact Nat.div_lt_self (by omega) (by omega)

/-- The bias behind a number, from the distance that it stands for and the length of the text. -/
def adapt (distance length : Nat) (isFirst : Bool) : Nat :=
  let damped := if isFirst then distance / 700 else distance / 2
  let (rest, count) := scaleDown (damped + damped / length) 0
  count + 36 * rest / (rest + 38)

/-! ## Reading -/

/-- A text being read: what it is so far, the code point and the place of the last character put in,
and the number being read, with the weight and place of its next digit. -/
structure Reader where
  text : List Char
  code : Nat
  start : Nat
  bias : Nat
  value : Nat
  weight : Nat
  place : Nat

namespace Reader

/-- A reader in front of a number. -/
def begin (text : List Char) (code start bias : Nat) : Reader :=
  ⟨text, code, start, bias, start, 1, 36⟩

/-- Puts in the character that the number stands for; none if there is no such character. -/
def insert? (reader : Reader) : Option Reader :=
  let places := reader.text.length + 1
  let code := reader.code + reader.value / places
  let position := reader.value % places
  if code.isValidChar then
    let bias := adapt (reader.value - reader.start) places (reader.start = 0)
    some (begin (reader.text.insertIdx position (Char.ofNat code)) code (position + 1) bias)
  else none

/-- Reads a digit; none when a number or a weight outgrows 32 bits. -/
def read? (reader : Reader) (c : Char) : Option Reader := do
  let digit ← digit? c
  let threshold := threshold reader.bias reader.place
  let more := { reader with
    value := reader.value + digit * reader.weight
    weight := reader.weight * (36 - threshold)
    place := reader.place + 36 }
  let limit := Nat.pow 2 32
  if limit ≤ more.value then none
  else if digit < threshold then more.insert?
  else if limit ≤ more.weight then none
  else some more

end Reader

/-- The text that a Punycode text stands for; none if it is not one, or ends within a number. -/
def decode? (cs : List Char) : Option (List Char) := do
  let numbers := (cs.reverse.takeWhile (· ≠ '-')).reverse
  let plain := cs.take (cs.length - numbers.length - 1)
  let digits := if plain.isEmpty then cs else numbers
  let reader ← digits.foldlM Reader.read? (Reader.begin plain 128 0 72)
  if reader.place = 36 then some reader.text else none

end Taskboard.Text.Punycode
