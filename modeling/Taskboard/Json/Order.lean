/-
How stored values compare: an equality under which numbers agree by value and flags are the numbers
0 and 1, and the order of sorted listings: null first, then flags and numbers by value, then texts
by code point, then arrays and objects by their JSON text.
-/
import Taskboard.Json.Printer

namespace Taskboard.Json

/-- The numeric value of a flag or number. -/
def quantity? : Json → Option Binary64
  | .bool b => some (Binary64.ofBool b)
  | value => value.number?

/-- Equality of stored values: flags and numbers by numeric value, all else as values. -/
def looselyEqual (a b : Json) : Bool :=
  match a.quantity?, b.quantity? with
  | some x, some y => x.sameValue y
  | _, _ => a.same b

/-- The place of a kind of value in the order. -/
def rank : Json → Nat
  | .null => 0
  | .bool _ | .int _ | .float _ => 1
  | .string _ => 2
  | .array _ | .object _ => 3

/-- The order of two values: by rank, and within a rank by numeric value, text or JSON text. -/
def order (a b : Json) : Ordering :=
  if a.rank = b.rank then
    match a, b with
    | .null, _ => .eq
    | .string x, .string y => compare x y
    | .array _, _ | .object _, _ => compare a.render b.render
    | _, _ =>
      match a.quantity?, b.quantity? with
      | some x, some y => x.order y
      | _, _ => .eq
  else compare a.rank b.rank

end Taskboard.Json
