/-
Query strings: pairs of names and values with `&` between them, where `+` stands for a space and a
percent sign with two hexadecimal digits for a byte.
-/
import Taskboard.Text.Hex
import Taskboard.Text.Utf8

namespace Taskboard.Http.Form

/-- The hexadecimal digit that a byte is the code of. -/
def hexByte? (b : UInt8) : Option Nat :=
  Text.hexValue? (Char.ofNat b.toNat)

/-- Replaces each percent sign with two hexadecimal digits by the byte they name, and leaves every
other percent sign as it is. -/
def percentDecode : List UInt8 → List UInt8
  | 0x25 :: a :: b :: rest =>
    match hexByte? a, hexByte? b with
    | some high, some low => UInt8.ofNat (16 * high + low) :: percentDecode rest
    | _, _ => 0x25 :: percentDecode (a :: b :: rest)
  | b :: rest => b :: percentDecode rest
  | [] => []

/-- The text that a name or a value stands for. -/
def decode (cs : List Char) : String :=
  let spaced := cs.map fun c => if c = '+' then ' ' else c
  String.ofList (Text.ofUtf8Lossy (percentDecode (spaced.flatMap Text.utf8OfChar)))

/-- A piece as a name and a value; without `=` the value is empty. -/
def pair (piece : List Char) : String × String :=
  (decode (piece.takeWhile (· ≠ '=')), decode ((piece.dropWhile (· ≠ '=')).drop 1))

/-- The pairs of a query string; empty pieces do not count. -/
def pairs (query : String) : List (String × String) :=
  ((query.toList.splitOn '&').filter fun piece => !piece.isEmpty).map pair

end Taskboard.Http.Form
