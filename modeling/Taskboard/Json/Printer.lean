/-
JSON text as it is written: compact, fields in the order they are held, the quote, the backslash
and the characters below the blank escaped, and doubles with their shortest digits.
-/
import Taskboard.Json.Basic
import Taskboard.Number.Shortest
import Taskboard.Text.Hex

namespace Taskboard.Json

/-! ## Scalars -/

/-- Doubles are positional from 10^-5 up to 10^16 and then have at least one decimal; outside they
have a signed exponent. -/
def numberLayout : Binary64.Layout := ⟨-5, 16, true⟩

/-- One character inside a string. -/
def escape (c : Char) : List Char :=
  if c = '"' then ['\\', '"']
  else if c = '\\' then ['\\', '\\']
  else if c = '\x08' then ['\\', 'b']
  else if c = '\x0c' then ['\\', 'f']
  else if c = '\n' then ['\\', 'n']
  else if c = '\r' then ['\\', 'r']
  else if c = '\t' then ['\\', 't']
  else if c.toNat < 0x20 then '\\' :: 'u' :: '0' :: '0' :: Text.hexOfByte (UInt8.ofNat c.toNat)
  else [c]

/-- A text in quotes. -/
def quote (s : String) : List Char :=
  '"' :: s.toList.flatMap escape ++ ['"']

/-- A whole number in decimal. -/
def writeInt (n : Int) : List Char :=
  (if n < 0 then ['-'] else []) ++ Nat.toDigits 10 n.natAbs

/-! ## Values -/

mutual

/-- The characters of a value. -/
def write : Json → List Char
  | .null => ['n', 'u', 'l', 'l']
  | .bool true => ['t', 'r', 'u', 'e']
  | .bool false => ['f', 'a', 'l', 's', 'e']
  | .int n => writeInt n
  | .float x => x.write numberLayout
  | .string s => quote s
  | .array items => '[' :: writeItems items
  | .object fields => '{' :: writeFields fields

/-- The items of an array and its closing bracket. -/
def writeItems : List Json → List Char
  | [] => [']']
  | item :: rest => write item ++ writeMoreItems rest

/-- The items after the first, each behind a comma. -/
def writeMoreItems : List Json → List Char
  | [] => [']']
  | item :: rest => ',' :: (write item ++ writeMoreItems rest)

/-- The fields of an object and its closing brace. -/
def writeFields : List (String × Json) → List Char
  | [] => ['}']
  | field :: rest => quote field.1 ++ ':' :: (write field.2 ++ writeMoreFields rest)

/-- The fields after the first, each behind a comma. -/
def writeMoreFields : List (String × Json) → List Char
  | [] => ['}']
  | field :: rest => ',' :: (quote field.1 ++ ':' :: (write field.2 ++ writeMoreFields rest))

end

/-- The text of a value. -/
def render (value : Json) : String :=
  String.ofList value.write

end Taskboard.Json
