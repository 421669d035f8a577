/-
The order of stored values is an order: it compares three things one after another, the rank of a
value, its quantity in units and its wording (`order_eq`). So it is a total preorder, with the
instance that library lemmas on comparisons ask for. Values that hold no others compare equal just when they are
loosely equal (`order_eq_eq_iff_looselyEqual`).
-/
import Mathlib.Order.Compare
import Taskboard.Json.Order

namespace Taskboard.Json

open Std

/-- The quantity of a flag or number in units; any other value has none and counts as zero. -/
def unitsOrZero (value : Json) : Int :=
  (value.quantity?.map Binary64.signedUnits).getD 0

/-- What texts, arrays and objects are ordered by: the text itself, or the JSON text. -/
def wording : Json → String
  | .string text => text
  | .array items => (Json.array items).render
  | .object fields => (Json.object fields).render
  | .null | .bool _ | .int _ | .float _ => ""

/-- Values are compared by rank, then by quantity, then by wording. -/
theorem order_eq (a b : Json) :
    a.order b = compareLex (compareOn rank) (compareLex (compareOn unitsOrZero) (compareOn wording)) a b := by
  by_cases h : a.rank = b.rank
  · cases a <;> cases b <;>
      simp_all [order, compareLex, compareOn, rank, unitsOrZero, quantity?, number?, wording, Binary64.order]
  · have apart : compare a.rank b.rank ≠ .eq := fun he => h (Nat.compare_eq_eq.1 he)
    unfold order
    rw [if_neg h]
    cases he : compare a.rank b.rank <;> simp_all [compareLex, compareOn]

instance : TransCmp order := by
  rw [show order = _ from funext₂ order_eq]
  infer_instance

theorem order_eq_eq_iff (a b : Json) : a.order b = .eq ↔
    a.rank = b.rank ∧ a.unitsOrZero = b.unitsOrZero ∧ a.wording = b.wording := by
  rw [order_eq]
  simp [compareLex, compareOn, Ordering.then_eq_eq]

/-- Whether a value is null, a flag, a number or a text. -/
def isScalar : Json → Bool
  | .array _ | .object _ => false
  | .null | .bool _ | .int _ | .float _ | .string _ => true

/-- Scalars compare equal just when they are loosely equal: a quantity tells flags and numbers apart, the rank them
from the others, and the wording one text from another. -/
theorem order_eq_eq_iff_looselyEqual {a b : Json} (ha : a.isScalar = true) (hb : b.isScalar = true) :
    a.order b = .eq ↔ a.looselyEqual b = true := by
  rw [order_eq_eq_iff]
  cases a <;> cases b <;>
    simp_all [isScalar, looselyEqual, same, Binary64.sameValue, rank, unitsOrZero, quantity?, number?, wording]

/-- The JSON text, by which arrays are ordered, tells the two zeros apart. -/
example : looselyEqual (.array [.float ⟨false, 0⟩]) (.array [.float ⟨true, 0⟩]) = true ∧
    order (.array [.float ⟨false, 0⟩]) (.array [.float ⟨true, 0⟩]) ≠ .eq := by
  decide +kernel

/-- Texts are ordered by code point. -/
theorem order_string (x y : String) : (Json.string x).order (.string y) = compare x y := by
  simp [order, rank]

end Taskboard.Json
