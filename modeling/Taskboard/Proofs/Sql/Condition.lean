/-
Conditions of statements, as a database takes them: comparisons between columns, parameters and
numbers, joined by AND and OR, with a truth that may be unknown. A conjunction is met when all its
parts are and a disjunction when one of them is, whatever is unknown beside them (`truth_joined_and`,
`truth_joined_or`).
-/
import Taskboard.Json.Order
import Mathlib.Data.List.Forall2

namespace Taskboard.Sql

/-! ## The logic of unknowns -/

/-- What a condition can come to. -/
inductive Truth where
  | no | unknown | yes
deriving DecidableEq

namespace Truth

/-- The truth of something known. -/
def ofBool : Bool → Truth
  | true => .yes
  | false => .no

/-- No beats unknown, and unknown beats yes. -/
def and : Truth → Truth → Truth
  | .no, _ => .no
  | .unknown, .no => .no
  | .unknown, _ => .unknown
  | .yes, other => other

/-- Yes beats unknown, and unknown beats no. -/
def or : Truth → Truth → Truth
  | .yes, _ => .yes
  | .unknown, .yes => .yes
  | .unknown, _ => .unknown
  | .no, other => other

/-- The unknown stays unknown. -/
def not : Truth → Truth
  | .no => .yes
  | .unknown => .unknown
  | .yes => .no

@[simp] theorem ofBool_eq_yes {b : Bool} : ofBool b = .yes ↔ b = true := by
  cases b <;> decide

@[simp] theorem and_eq_yes {p q : Truth} : p.and q = .yes ↔ p = .yes ∧ q = .yes := by
  cases p <;> cases q <;> decide

@[simp] theorem or_eq_yes {p q : Truth} : p.or q = .yes ↔ p = .yes ∨ q = .yes := by
  cases p <;> cases q <;> decide

@[simp] theorem not_eq_yes {p : Truth} : p.not = .yes ↔ p = .no := by
  cases p <;> decide

@[simp] theorem ofBool_eq_no {b : Bool} : ofBool b = .no ↔ b = false := by
  cases b <;> decide

end Truth

/-! ## Conditions -/

/-- What can be compared. -/
inductive Operand where
  | column (name : String)
  | parameter (number : Nat)
  | number (value : Nat)
deriving DecidableEq

/-- The value of an operand, none for NULL: a column that is missing or null has no value, and neither
has a parameter that is null or not given. Parameters are counted from one. -/
def Operand.value? (row : Record) (params : List Json) : Operand → Option Json
  | .column name => row.value? name
  | .parameter 0 => none
  | .parameter (index + 1) => params[index]?.filter fun value => !value.isNull
  | .number value => some (.ofNat value)

/-- A condition. -/
inductive Condition where
  | equals (left right : Operand)
  | differs (left right : Operand)
  | among (left : Operand) (items : List Operand)
  | missing (left : Operand)
  | present (left : Operand)
  | and (left right : Condition)
  | or (left right : Condition)
deriving DecidableEq

/-- Whether two operands are equal; unknown when one of them is NULL. -/
def compare (row : Record) (params : List Json) (left right : Operand) : Truth :=
  match left.value? row params, right.value? row params with
  | some v, some w => .ofBool (v.looselyEqual w)
  | _, _ => .unknown

/-- Whether an operand equals one of several, by one comparison after another. -/
def compareAny (row : Record) (params : List Json) (left : Operand) : List Operand → Truth
  | [] => .no
  | item :: rest => (compare row params left item).or (compareAny row params left rest)

namespace Condition

/-- The truth of a condition for a row and the values of the parameters. -/
def truth (row : Record) (params : List Json) : Condition → Truth
  | .equals left right => compare row params left right
  | .differs left right => (compare row params left right).not
  | .among left items => compareAny row params left items
  | .missing left => .ofBool (left.value? row params).isNone
  | .present left => .ofBool (left.value? row params).isSome
  | .and left right => (left.truth row params).and (right.truth row params)
  | .or left right => (left.truth row params).or (right.truth row params)

/-- One condition for a first and the others behind it. -/
def joined (join : Condition → Condition → Condition) (first : Condition) : List Condition → Condition
  | [] => first
  | next :: rest => join first (joined join next rest)

theorem truth_joined_and (row : Record) (params : List Json) (first : Condition)
    (rest : List Condition) : (joined .and first rest).truth row params = .yes ↔
      ∀ c ∈ first :: rest, c.truth row params = .yes := by
  induction rest generalizing first with
  | nil => simp [joined]
  | cons next rest ih => simp [joined, truth, ih next]

theorem truth_joined_or (row : Record) (params : List Json) (first : Condition)
    (rest : List Condition) : (joined .or first rest).truth row params = .yes ↔
      ∃ c ∈ first :: rest, c.truth row params = .yes := by
  induction rest generalizing first with
  | nil => simp [joined]
  | cons next rest ih => simp [joined, truth, ih next]

end Condition

/-! ## Comparing a column with a parameter -/

section Compare

variable {row : Record} {params : List Json} {index : Nat} {value : Json} {field : String}

/-- A value that is not null does not equal null. -/
theorem looselyEqual_null {v : Json} (h : v.isNull = false) : v.looselyEqual .null = false := by
  cases v with
  | null => cases h
  | _ => rfl

theorem compare_parameter (hvalue : params[index]? = some value) (hnull : value.isNull = false) :
    compare row params (.column field) (.parameter (index + 1)) =
      match row.value? field with
      | some v => .ofBool (v.looselyEqual value)
      | none => .unknown := by
  have hright : (Operand.parameter (index + 1)).value? row params = some value := by
    rw [Operand.value?, hvalue, Option.filter_some, hnull]
    rfl
  rw [compare, hright, Operand.value?]
  cases row.value? field <;> rfl

/-- Nothing is known of a comparison with a parameter that is null. -/
theorem compare_null (hvalue : params[index]? = some .null) :
    compare row params (.column field) (.parameter (index + 1)) = .unknown := by
  have hright : (Operand.parameter (index + 1)).value? row params = none := by
    rw [Operand.value?, hvalue]
    rfl
  rw [compare, hright]
  cases (Operand.column field).value? row params <;> rfl

/-- A column equals a parameter when its value does. A null parameter leaves the comparison unknown,
and no value equals null. -/
theorem compare_eq_yes (hvalue : params[index]? = some value) :
    compare row params (.column field) (.parameter (index + 1)) = .yes ↔
      (row.value? field).any (fun v => v.looselyEqual value) = true := by
  by_cases hnull : value.isNull = true
  · obtain rfl : value = .null := by
      cases value with
      | null => rfl
      | _ => cases hnull
    rw [compare_null hvalue]
    cases hv : row.value? field with
    | none => simp
    | some v =>
      have hpresent : v.isNull = false := by
        have hfilter := (Option.filter_eq_some_iff.1 hv).2
        simpa using hfilter
      simp [looselyEqual_null hpresent]
  · rw [compare_parameter hvalue (by simpa using hnull)]
    cases row.value? field with
    | none => simp
    | some v => simp

/-- A column differs from a parameter that is not null when its value does. -/
theorem compare_eq_no (hvalue : params[index]? = some value) (hnull : value.isNull = false) :
    compare row params (.column field) (.parameter (index + 1)) = .no ↔
      (row.value? field).any (fun v => !v.looselyEqual value) = true := by
  rw [compare_parameter hvalue hnull]
  cases row.value? field with
  | none => simp
  | some v => simp

/-- A column is among some operands when its value equals one of theirs. -/
theorem compareAny_eq_yes {items : List Operand} {values : List Json}
    (h : List.Forall₂ (fun item value => compare row params (.column field) item = .yes ↔
      (row.value? field).any (fun v => v.looselyEqual value) = true) items values) :
    compareAny row params (.column field) items = .yes ↔
      (row.value? field).any (fun v => values.any v.looselyEqual) = true := by
  induction h with
  | nil => cases row.value? field <;> simp [compareAny]
  | cons hitem _ ih =>
    rw [compareAny, Truth.or_eq_yes, hitem, ih]
    cases row.value? field <;> simp

end Compare

end Taskboard.Sql
