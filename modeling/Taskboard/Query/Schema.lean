/-
Tables: a name, the columns that queries may speak of, and the column that identifies a row, which
is one of them.
-/

namespace Taskboard

/-- A query speaks of a column that its table does not declare. -/
structure UnknownField where
  table : String
  field : String
deriving DecidableEq

/-- What a client of the query layer is told. -/
def UnknownField.message (e : UnknownField) : String :=
  "unknown field `" ++ e.field ++ "` on `" ++ e.table ++ "`"

/-- The declaration of a table. -/
structure Schema where
  table : String
  idField : String
  fields : List String
  idField_mem : idField ∈ fields := by decide
deriving DecidableEq

namespace Schema

/-- Why a declaration is refused that does not list its identifying column. -/
def undeclaredIdField : String :=
  "identifying field must be one of the declared fields"

/-- Declares a table; none when the identifying column is not among the columns. -/
def declare? (table idField : String) (fields : List String) : Option Schema :=
  if h : idField ∈ fields then some ⟨table, idField, fields, h⟩ else none

/-- Whether the table declares a column of this name. -/
def declares (schema : Schema) (field : String) : Bool :=
  schema.fields.contains field

/-- The column of this name, or the error that names it. -/
def resolve (schema : Schema) (field : String) : Except UnknownField String :=
  if schema.declares field then .ok field else .error ⟨schema.table, field⟩

/-- Checks names from left to right and stops at the first that is not declared. -/
def resolveAll (schema : Schema) : List String → Except UnknownField Unit
  | [] => .ok ()
  | field :: rest =>
    match schema.resolve field with
    | .ok _ => schema.resolveAll rest
    | .error e => .error e

/-- The columns of a row that the table declares, in the order of the declaration. -/
def columns (schema : Schema) (row : List (String × α)) : List (String × α) :=
  schema.fields.filterMap fun field => (row.lookup field).map fun value => (field, value)

end Schema

end Taskboard
