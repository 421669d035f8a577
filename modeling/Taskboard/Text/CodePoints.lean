/-
Tables of characters. A table is written as a text of words, a word for each run of code points: the
first and the last of them with a hyphen between, or the only one, in hexadecimal digits. Behind an
equals sign stand the numbers that belong to the run, with points between them.
-/
import Taskboard.Text.Hex

namespace Taskboard.Text

/-- A run of code points and the numbers that belong to it. -/
structure Run where
  first : Nat
  last : Nat
  values : List Nat

namespace Run

/-- Whether a character is one of the run. -/
def holds (run : Run) (c : Char) : Bool :=
  run.first ≤ c.toNat && c.toNat ≤ run.last

/-- The value of a row of hexadecimal digits, read from the left. -/
def number (digits : List Char) : Nat :=
  digits.foldl (fun value digit => 16 * value + (hexValue? digit).getD 0) 0

/-- The run that a word of a table stands for. -/
def ofWord (word : List Char) : Run :=
  let bounds := ((word.takeWhile (· ≠ '=')).splitOn '-').map number
  let values := match word.dropWhile (· ≠ '=') with
    | _ :: text => (text.splitOn '.').map number
    | [] => []
  ⟨bounds.head?.getD 0, bounds.getLast?.getD 0, values⟩

end Run

/-- The runs of a table, in its order. -/
def runs (table : String) : List Run :=
  let words := (table.toList.map fun c => if c = '\n' then ' ' else c).splitOn ' '
  (words.filter fun word => !word.isEmpty).map Run.ofWord

/-- Whether one of the runs holds a character. -/
def isInRuns (runs : List Run) (c : Char) : Bool :=
  runs.any fun run => run.holds c

/-- The first run that holds a character. -/
def runOf? (runs : List Run) (c : Char) : Option Run :=
  runs.find? fun run => run.holds c

end Taskboard.Text
