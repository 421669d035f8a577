/-
Hosts of URLs: names of domains, texts without forbidden characters, four-part and six-part addresses.
-/
import Taskboard.Http.Domain
import Taskboard.Http.Form
import Taskboard.Text.Natural

namespace Taskboard.Http.Host

/-! ## Four-part addresses -/

/-- The value of digits in a base, if all of them are digits in it. -/
def inBase? (base : Nat) (cs : List Char) : Option Nat :=
  cs.foldlM (fun value c => do
    let digit ← Text.hexValue? c
    if digit < base then some (base * value + digit) else none) 0

/-- A part of an address: decimal, octal behind `0`, or hexadecimal behind `0x`. -/
def part? : List Char → Option Nat
  | [] => none
  | '0' :: x :: rest =>
    if x = 'x' ∨ x = 'X' then inBase? 16 rest else inBase? 8 (x :: rest)
  | cs => inBase? 10 cs

/-- The parts of a host between dots, without an empty one at the end. -/
def parts (cs : List Char) : List (List Char) :=
  let parts := cs.splitOn '.'
  if 1 < parts.length ∧ parts.getLast? = some [] then parts.dropLast else parts

/-- Whether the last part of a host is a number, so that the host must be an address. -/
def endsInNumber (cs : List Char) : Bool :=
  match (parts cs).getLast? with
  | none => false
  | some last => (!last.isEmpty && last.all Char.isDigit) || (part? last).isSome

/-- Whether a host is an address of at most four numbers, the last filling what the others leave. -/
def isAddress4 (cs : List Char) : Bool :=
  match (parts cs).mapM part? with
  | none => false
  | some numbers =>
    numbers.length ≤ 4 && numbers.dropLast.all (· ≤ 255) &&
      (numbers.getLast?.all fun last => last < Nat.pow 256 (5 - numbers.length))

/-! ## Six-part addresses -/

/-- How many 16-bit groups some pieces fill: one each, of one to four digits, and two for an address
of four decimal numbers at the end, where one is allowed. -/
def groups? (atEnd : Bool) : List (List Char) → Option Nat
  | [] => some 0
  | [piece] =>
    if !piece.isEmpty && piece.length ≤ 4 && (inBase? 16 piece).isSome then some 1
    else
      let numbers := piece.splitOn '.'
      let isByte (n : List Char) : Bool :=
        !n.isEmpty && n.length ≤ 3 && n.all Char.isDigit && (n.length = 1 || n.head? != some '0') &&
          (inBase? 10 n).any (· ≤ 255)
      if atEnd && numbers.length = 4 && numbers.all isByte then some 2 else none
  | piece :: rest =>
    if !piece.isEmpty && piece.length ≤ 4 && (inBase? 16 piece).isSome then
      (groups? atEnd rest).map (· + 1)
    else none

/-- The pieces of a text between colons; an empty text has none. -/
def colonPieces (cs : List Char) : List (List Char) :=
  if cs.isEmpty then [] else cs.splitOn ':'

/-- The text in front of the first double colon and behind it. -/
def splitAtGap : List Char → Option (List Char × List Char)
  | ':' :: ':' :: rest => some ([], rest)
  | c :: rest => (splitAtGap rest).map fun (front, back) => (c :: front, back)
  | [] => none

/-- Whether a text is an address of eight groups, a double colon standing for one or more zeros. -/
def isAddress6 (cs : List Char) : Bool :=
  match splitAtGap cs with
  | none => groups? true (colonPieces cs) == some 8
  | some (front, back) =>
    match groups? false (colonPieces front), groups? true (colonPieces back) with
    | some m, some n => m + n ≤ 7
    | _, _ => false

/-! ## Hosts -/

/-- The characters that no host may hold, of whatever scheme. -/
def isForbidden (c : Char) : Bool :=
  c.toNat = 0 || "\t\n\r #/:<>?@[\\]^|".toList.contains c

/-- Whether a text, its escapes decoded, is the name of a domain. A name whose last part is a number
must be an address. -/
def isDomain (cs : List Char) : Bool :=
  match Domain.ofText? (Text.ofUtf8Lossy (Form.percentDecode (cs.flatMap Text.utf8OfChar))) with
  | none => false
  | some name => !name.isEmpty && (!endsInNumber name || isAddress4 name)

/-- Whether a text can be the host of a URL, of a well-known scheme or of another one. -/
def isValid (wellKnown : Bool) (cs : List Char) : Bool :=
  match cs with
  | '[' :: rest => rest.getLast? == some ']' && isAddress6 rest.dropLast
  | cs => if wellKnown then isDomain cs else !cs.any isForbidden

end Taskboard.Http.Host
