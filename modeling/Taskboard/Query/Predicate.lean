/-
Conditions on rows. A condition is a plain value: building one touches no store. A row meets it by
the rules of a database with unknowns folded into "no": a column that is missing or null equals
nothing, differs from nothing and is a member of nothing.
-/
import Taskboard.Json.Order

namespace Taskboard

/-- A condition on the columns of a row. -/
inductive Predicate where
  /-- Met by no row. -/
  | never
  | equals (field : String) (value : Json)
  | differs (field : String) (value : Json)
  | among (field : String) (values : List Json)
  | missing (field : String)
  | present (field : String)
  | all (parts : List Predicate)
  | any (parts : List Predicate)
deriving Inhabited

namespace Predicate

/-! ## Building -/

/-- The column has this value; null asks for a missing column. -/
def is (field : String) (value : Json) : Predicate :=
  if value.isNull then .missing field else .equals field value

/-- The column has another value than this; null asks for a present column. -/
def isNot (field : String) (value : Json) : Predicate :=
  if value.isNull then .present field else .differs field value

/-- The column has one of these values; without values no row will do. -/
def isOneOf (field : String) (values : List Json) : Predicate :=
  if values.isEmpty then .never else .among field values

mutual

/-- The parts that must all hold, with conjunctions inside conjunctions taken apart. -/
def conjuncts : Predicate → List Predicate
  | .all parts => conjunctsOfParts parts
  | .never => [.never]
  | .equals field value => [.equals field value]
  | .differs field value => [.differs field value]
  | .among field values => [.among field values]
  | .missing field => [.missing field]
  | .present field => [.present field]
  | .any parts => [.any parts]

/-- The conjuncts of several parts, one after another. -/
def conjunctsOfParts : List Predicate → List Predicate
  | [] => []
  | part :: rest => part.conjuncts ++ conjunctsOfParts rest

end

/-- The alternatives at the top of a condition. -/
def alternatives : Predicate → List Predicate
  | .any parts => parts
  | single => [single]

/-- Both conditions hold. -/
def and (p q : Predicate) : Predicate :=
  .all (p.conjuncts ++ q.conjuncts)

/-- One of two conditions holds. -/
def or (p q : Predicate) : Predicate :=
  .any (p.alternatives ++ q.alternatives)

/-! ## Meaning -/

mutual

/-- Whether a row meets the condition. -/
def holds (row : Record) : Predicate → Bool
  | .never => false
  | .equals field value => (row.value? field).any fun v => v.looselyEqual value
  | .differs field value => (row.value? field).any fun v => !v.looselyEqual value
  | .among field values => (row.value? field).any fun v => values.any v.looselyEqual
  | .missing field => (row.value? field).isNone
  | .present field => (row.value? field).isSome
  | .all parts => allHold row parts
  | .any parts => anyHolds row parts

/-- Whether a row meets every one of several conditions. -/
def allHold (row : Record) : List Predicate → Bool
  | [] => true
  | part :: rest => part.holds row && allHold row rest

/-- Whether a row meets one of several conditions. -/
def anyHolds (row : Record) : List Predicate → Bool
  | [] => false
  | part :: rest => part.holds row || anyHolds row rest

end

/-! ## What can be said without a row -/

mutual

/-- Whether the form of the condition alone shows that no row meets it. -/
def isImpossible : Predicate → Bool
  | .never => true
  | .among _ values => values.isEmpty
  | .all parts => anyImpossible parts
  | .any parts => allImpossible parts
  | .equals .. | .differs .. | .missing _ | .present _ => false

/-- Whether one of several conditions is always false. -/
def anyImpossible : List Predicate → Bool
  | [] => false
  | part :: rest => part.isImpossible || anyImpossible rest

/-- Whether all of several conditions are always false. -/
def allImpossible : List Predicate → Bool
  | [] => true
  | part :: rest => part.isImpossible && allImpossible rest

end

mutual

/-- The columns that the condition speaks of, from left to right. -/
def fields : Predicate → List String
  | .never => []
  | .equals field _ | .differs field _ | .among field _ | .missing field | .present field => [field]
  | .all parts => fieldsOfParts parts
  | .any parts => fieldsOfParts parts

/-- The columns that several conditions speak of. -/
def fieldsOfParts : List Predicate → List String
  | [] => []
  | part :: rest => part.fields ++ fieldsOfParts rest

end

mutual

/-- The values that the condition compares with, from left to right. -/
def values : Predicate → List Json
  | .never | .missing _ | .present _ => []
  | .equals _ value | .differs _ value => [value]
  | .among _ values => values
  | .all parts => valuesOfParts parts
  | .any parts => valuesOfParts parts

/-- The values that several conditions compare with. -/
def valuesOfParts : List Predicate → List Json
  | [] => []
  | part :: rest => part.values ++ valuesOfParts rest

end

/-! ## Equality -/

mutual

/-- Equality of form, with values compared as values. -/
def same : Predicate → Predicate → Bool
  | .never, .never => true
  | .equals f v, .equals g w => f == g && v.same w
  | .differs f v, .differs g w => f == g && v.same w
  | .among f vs, .among g ws => f == g && Json.sameItems vs ws
  | .missing f, .missing g => f == g
  | .present f, .present g => f == g
  | .all ps, .all qs => sameParts ps qs
  | .any ps, .any qs => sameParts ps qs
  | _, _ => false

/-- Equality of several conditions, place by place. -/
def sameParts : List Predicate → List Predicate → Bool
  | [], [] => true
  | p :: ps, q :: qs => p.same q && sameParts ps qs
  | _, _ => false

end

instance : BEq Predicate := ⟨same⟩

end Predicate

end Taskboard
