/-
JSON values and the records that rows are held as. Whole numbers and doubles are different values;
doubles are equal when their numeric values are, so the two zeros are one value. The fields of an
object are kept in the order of their names by code point, each name once.
-/
import Taskboard.Number.Binary64
import Taskboard.Number.Bounds

namespace Taskboard

/-- A JSON value. A whole number lies between -2^63 and 2^64 - 1 when it was read from text. -/
inductive Json where
  | null
  | bool (flag : Bool)
  | int (value : Int)
  | float (value : Binary64)
  | string (text : String)
  | array (items : List Json)
  | object (fields : List (String × Json))
deriving Inhabited

/-- The columns of a row by name. -/
abbrev Record := List (String × Json)

namespace Json

/-! ## Equality -/

mutual

/-- Equality of values: of the same kind, and doubles by numeric value. -/
def same : Json → Json → Bool
  | .null, .null => true
  | .bool a, .bool b => a == b
  | .int a, .int b => a == b
  | .float a, .float b => a.sameValue b
  | .string a, .string b => a == b
  | .array a, .array b => sameItems a b
  | .object a, .object b => sameFields a b
  | _, _ => false

/-- Equality of the items of two arrays, place by place. -/
def sameItems : List Json → List Json → Bool
  | [], [] => true
  | a :: as, b :: bs => same a b && sameItems as bs
  | _, _ => false

/-- Equality of the fields of two objects, place by place. -/
def sameFields : List (String × Json) → List (String × Json) → Bool
  | [], [] => true
  | a :: as, b :: bs => a.1 == b.1 && same a.2 b.2 && sameFields as bs
  | _, _ => false

end

instance : BEq Json := ⟨same⟩

/-! ## Parts -/

/-- Whether the value is null. -/
def isNull : Json → Bool
  | .null => true
  | _ => false

/-- The text of a string. -/
def text? : Json → Option String
  | .string s => some s
  | _ => none

/-- The columns of an object. -/
def record? : Json → Option Record
  | .object fields => some fields
  | _ => none

/-- A text or null. -/
def ofText? : Option String → Json
  | some s => .string s
  | none => .null

/-- A natural number. -/
def ofNat (n : Nat) : Json :=
  .int n

/-- The numeric value of a number, as a double. -/
def number? : Json → Option Binary64
  | .int n => some (Binary64.ofInt n)
  | .float x => some x
  | _ => none

end Json

/-! ## Records -/

namespace Record

/-- Puts a field in its place by name; a field of the same name is replaced. -/
def insert (name : String) (value : Json) : Record → Record
  | [] => [(name, value)]
  | field :: rest =>
    if name < field.1 then (name, value) :: field :: rest
    else if name = field.1 then (name, value) :: rest
    else field :: insert name value rest

/-- The record of some fields in any order; the last field of a name stands. -/
def ofFields (fields : List (String × Json)) : Record :=
  fields.foldl (fun record field => insert field.1 field.2 record) []

/-- The record that a value stands for. An array stands for the one whose fields hold its items, in the
order of the given names; it must have an item for each. -/
def ofJson? (names : List String) : Json → Option Record
  | .object fields => some fields
  | .array items => if items.length = names.length then some (ofFields (names.zip items)) else none
  | _ => none

/-- The value of a column that is present and not null. -/
def value? (record : Record) (name : String) : Option Json :=
  (record.lookup name).filter fun value => !value.isNull

/-- The value of a column, null when it is missing. -/
def valueOrNull (record : Record) (name : String) : Json :=
  (record.lookup name).getD .null

/-- A column that must hold a text. -/
def text? (record : Record) (name : String) : Option String :=
  (record.lookup name).bind Json.text?

/-- A column that must hold a word of a fixed set: the word itself, or an object whose only field has
the word for its name and holds null. -/
def word? (record : Record) (name : String) : Option String :=
  match record.lookup name with
  | some (.string word) => some word
  | some (.object [(word, .null)]) => some word
  | _ => none

/-- A column that may be missing or null, and otherwise is read by `read?`; none when that fails. -/
def optional? {α : Type} (read? : Json → Option α) (record : Record) (name : String) :
    Option (Option α) :=
  match record.value? name with
  | none => some none
  | some value => (read? value).map some

/-- A column that holds a text, or is missing or null. -/
def optionalText? (record : Record) (name : String) : Option (Option String) :=
  record.optional? Json.text? name

/-- A column that must hold a whole number of 64 bits with a sign. -/
def integer? (record : Record) (name : String) : Option Int :=
  match record.lookup name with
  | some (.int n) => if signedMin ≤ n ∧ n ≤ signedMax then some n else none
  | _ => none

/-- A column that must hold true or false. -/
def bool? (record : Record) (name : String) : Option Bool :=
  match record.lookup name with
  | some (.bool b) => some b
  | _ => none

/-- A column that must hold a flag: true, false, or a number, of which only zero is false. -/
def flag? (record : Record) (name : String) : Option Bool :=
  match record.lookup name with
  | some (.bool b) => some b
  | some (.int n) => some (n != 0)
  | some (.float x) => some (x.units != 0)
  | _ => none

end Record

end Taskboard
