/-
Reading JSON text. The grammar is that of RFC 8259 and nothing beyond it: no comments, no trailing
comma, no raw control character and no lone surrogate in a string, blanks only space, tab, line
feed and carriage return. Arrays and objects may be nested to a given depth. Of fields of one name
the last stands.
-/
import Taskboard.Json.Basic
import Taskboard.Text.Natural
import Taskboard.Text.Hex

namespace Taskboard.Json

/-- What is read from the front of a text, and the rest of it. -/
abbrev Reading (α : Type) := Option (α × List Char)

/-- The characters that may stand between the parts of a text. -/
def isGap (c : Char) : Bool :=
  c == ' ' || c == '\t' || c == '\n' || c == '\r'

/-- The text from its first part on. -/
def skipGap (cs : List Char) : List Char :=
  cs.dropWhile isGap

/-! ## Strings -/

/-- The number that four hexadecimal digits stand for. -/
def hex4? (a b c d : Char) : Option Nat := do
  return ((← Text.hexValue? a) * 16 + (← Text.hexValue? b)) * 256 +
    ((← Text.hexValue? c) * 16 + (← Text.hexValue? d))

/-- The character behind a backslash, where it is not a code. -/
def unescape? : Char → Option Char
  | '"' => some '"'
  | '\\' => some '\\'
  | '/' => some '/'
  | 'b' => some '\x08'
  | 'f' => some '\x0c'
  | 'n' => some '\n'
  | 'r' => some '\r'
  | 't' => some '\t'
  | _ => none

/-- Puts a character in front of what was read. -/
def prepend (c : Char) (rest : Reading (List Char)) : Reading (List Char) :=
  rest.map fun (cs, rest) => (c :: cs, rest)

/-- The inside of a string up to its closing quote. A code for a leading surrogate must be followed
by one for a trailing surrogate. -/
def readString : List Char → Reading (List Char)
  | '"' :: rest => some ([], rest)
  | '\\' :: 'u' :: a :: b :: c :: d :: '\\' :: 'u' :: e :: f :: g :: h :: rest =>
    match hex4? a b c d with
    | none => none
    | some n =>
      if 0xd800 ≤ n ∧ n < 0xdc00 then
        match hex4? e f g h with
        | none => none
        | some m =>
          if 0xdc00 ≤ m ∧ m < 0xe000 then
            prepend (Char.ofNat (0x10000 + (n - 0xd800) * 0x400 + (m - 0xdc00))) (readString rest)
          else none
      else if 0xdc00 ≤ n ∧ n < 0xe000 then none
      else prepend (Char.ofNat n) (readString ('\\' :: 'u' :: e :: f :: g :: h :: rest))
  | '\\' :: 'u' :: a :: b :: c :: d :: rest =>
    match hex4? a b c d with
    | none => none
    | some n => if 0xd800 ≤ n ∧ n < 0xe000 then none else prepend (Char.ofNat n) (readString rest)
  | '\\' :: c :: rest =>
    match unescape? c with
    | none => none
    | some c => prepend c (readString rest)
  | c :: rest => if c.toNat < 0x20 then none else prepend c (readString rest)
  | [] => none

/-! ## Numbers -/

/-- The digits at the front of a text, as numbers, and the rest. -/
def readDigits (cs : List Char) : List Nat × List Char :=
  ((cs.takeWhile Char.isDigit).map fun c => c.toNat - '0'.toNat, cs.dropWhile Char.isDigit)

/-- The whole part of a number: no leading zero but a single one. -/
def readWhole (cs : List Char) : Reading (List Nat) :=
  match readDigits cs with
  | ([], _) => none
  | (0 :: _ :: _, _) => none
  | read => some read

/-- A fraction, if a point comes next; none when no digit follows the point. -/
def readFraction : List Char → Reading (Option (List Nat))
  | '.' :: rest =>
    match readDigits rest with
    | ([], _) => none
    | (digits, rest) => some (some digits, rest)
  | rest => some (none, rest)

/-- The sign of an exponent, `true` for minus. -/
def readSign : List Char → Bool × List Char
  | '-' :: rest => (true, rest)
  | '+' :: rest => (false, rest)
  | rest => (false, rest)

/-- An exponent, if its mark comes next; none when no digit follows. -/
def readExponent : List Char → Reading (Option Int)
  | c :: rest =>
    if c = 'e' ∨ c = 'E' then
      let (minus, rest) := readSign rest
      match readDigits rest with
      | ([], _) => none
      | (digits, rest) =>
        let n : Int := Text.ofDigits digits
        some (some (if minus then -n else n), rest)
    else some (none, c :: rest)
  | [] => some (none, [])

/-- The value of a number: whole when it has neither fraction nor exponent, fits 64 bits and is not
a negative zero, and otherwise a double; none when that is not finite. -/
def numberOf? (negative : Bool) (whole : List Nat) (fraction : Option (List Nat))
    (exponent : Option Int) : Option Json :=
  let float := (Binary64.ofDecimal? negative whole (fraction.getD []) (exponent.getD 0)).map Json.float
  if fraction.isSome || exponent.isSome then float
  else
    let n := Text.ofDigits whole
    if negative then if 0 < n ∧ signedMin ≤ -(n : Int) then some (.int (-n)) else float
    else if n ≤ unsignedMax then some (.int n) else float

/-- A minus sign, if one comes next, `true` for it. -/
def readMinus : List Char → Bool × List Char
  | '-' :: rest => (true, rest)
  | rest => (false, rest)

/-- A number at the front of a text. -/
def readNumber (cs : List Char) : Reading Json :=
  let (negative, cs) := readMinus cs
  (readWhole cs).bind fun (whole, cs) =>
    (readFraction cs).bind fun (fraction, cs) =>
      (readExponent cs).bind fun (exponent, cs) =>
        (numberOf? negative whole fraction exponent).map fun value => (value, cs)

/-! ## Values -/

/-- A value that holds no other value. -/
def readScalar : List Char → Reading Json
  | 'n' :: 'u' :: 'l' :: 'l' :: rest => some (.null, rest)
  | 't' :: 'r' :: 'u' :: 'e' :: rest => some (.bool true, rest)
  | 'f' :: 'a' :: 'l' :: 's' :: 'e' :: rest => some (.bool false, rest)
  | '"' :: rest => (readString rest).map fun (cs, rest) => (.string (String.ofList cs), rest)
  | cs => readNumber cs

/-- The items of an array up to its closing bracket, at most `n` of them, at least one. -/
def readItems (readValue : List Char → Reading Json) : Nat → List Char → Reading (List Json)
  | 0, _ => none
  | n + 1, cs =>
    match readValue cs with
    | none => none
    | some (item, cs) =>
      match skipGap cs with
      | ']' :: rest => some ([item], rest)
      | ',' :: rest => (readItems readValue n rest).map fun (items, rest) => (item :: items, rest)
      | _ => none

/-- A field of an object: a name, a colon and a value. -/
def readField (readValue : List Char → Reading Json) (cs : List Char) : Reading (String × Json) :=
  match skipGap cs with
  | '"' :: rest =>
    match readString rest with
    | none => none
    | some (name, rest) =>
      match skipGap rest with
      | ':' :: rest => (readValue rest).map fun (value, rest) => ((String.ofList name, value), rest)
      | _ => none
  | _ => none

/-- The fields of an object up to its closing brace, at most `n` of them, at least one. -/
def readFields (readValue : List Char → Reading Json) :
    Nat → List Char → Reading (List (String × Json))
  | 0, _ => none
  | n + 1, cs =>
    match readField readValue cs with
    | none => none
    | some (field, cs) =>
      match skipGap cs with
      | '}' :: rest => some ([field], rest)
      | ',' :: rest => (readFields readValue n rest).map fun (fields, rest) => (field :: fields, rest)
      | _ => none

/-- What follows an opening bracket, with at most `limit` items. -/
def readArray (readValue : List Char → Reading Json) (limit : Nat) (cs : List Char) : Reading Json :=
  match skipGap cs with
  | ']' :: rest => some (.array [], rest)
  | cs => (readItems readValue limit cs).map fun (items, rest) => (.array items, rest)

/-- What follows an opening brace, with at most `limit` fields. -/
def readObject (readValue : List Char → Reading Json) (limit : Nat) (cs : List Char) : Reading Json :=
  match skipGap cs with
  | '}' :: rest => some (.object [], rest)
  | cs => (readFields readValue limit cs).map fun (fields, rest) =>
      (.object (Record.ofFields fields), rest)

/-- A value at the front of a text, with arrays and objects of at most `limit` parts each, nested at
most `depth` deep. -/
def readValue (limit : Nat) : Nat → List Char → Reading Json
  | 0, cs => readScalar (skipGap cs)
  | depth + 1, cs =>
    match skipGap cs with
    | '[' :: rest => readArray (readValue limit depth) limit rest
    | '{' :: rest => readObject (readValue limit depth) limit rest
    | cs => readScalar cs

/-- How deep stored and received texts may be nested. -/
def depthLimit : Nat := 127

/-- Reads a text that holds one value and nothing else, nested at most `depth` deep. The length of
the text bounds the parts of every array and object in it. -/
def parseWithin? (depth : Nat) (s : String) : Option Json :=
  match readValue s.length depth s.toList with
  | some (value, rest) => if (skipGap rest).isEmpty then some value else none
  | none => none

/-- Reads a text that holds one value and nothing else. -/
def parse? (s : String) : Option Json :=
  parseWithin? depthLimit s

end Taskboard.Json
