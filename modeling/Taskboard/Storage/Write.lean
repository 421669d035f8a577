/-
Writes of one row. An insert names the columns that the row has, an update sets all of them but the
identifying one, in the order in which the table declares them.
-/
import Taskboard.Query.Statement
import Taskboard.Storage.Error

namespace Taskboard

open Sql

/-- The two kinds of writes. -/
inductive WriteKind where
  | insert
  | update
deriving DecidableEq

/-- A row to write into a table. An update replaces the row with the same identifying value. -/
structure Write where
  kind : WriteKind
  schema : Schema
  row : Record

namespace Write

/-- A write of any value: only an object can be a row. -/
def ofJson (kind : WriteKind) (schema : Schema) : Json → Except StorageError Write
  | .object row => .ok ⟨kind, schema, row⟩
  | value => .error (.decode (.notARecord schema.table value))

/-! ## Statements -/

/-- A name in a list of pieces. -/
def namePiece (column : String × Json) : List Piece :=
  [.name column.1]

/-- The assignments of columns to the placeholders behind the first `bound` parameters. -/
def assignments (bound : Nat) : List (String × Json) → List (List Piece)
  | [] => []
  | column :: rest =>
    (.name column.1 :: spaced [.equals] ++ placeholders bound 1) :: assignments (bound + 1) rest

/-- The statement that adds a row; a row without a column of the table has none. -/
def insertStatement (schema : Schema) (row : Record) : Except StorageError Statement :=
  match schema.columns row with
  | [] => .error (.decode (.noColumns schema.table))
  | columns => .ok {
      pieces :=
        [.word .insert, .word .space, .word .into, .word .space, .name schema.table, .word .space,
          .word .opening] ++ commaSeparated (columns.map namePiece) ++ .word .closing ::
          spaced [.values] ++ .word .opening ::
          commaSeparated ((placeholders 0 columns.length).map fun p => [p]) ++ [.word .closing]
      params := columns.map Prod.snd }

/-- The columns that an update of a row sets. -/
def updatedColumns (schema : Schema) (row : Record) : List (String × Json) :=
  (schema.columns row).filter fun column => column.1 != schema.idField

/-- The statement that overwrites a row; a row without an identifying value has none. -/
def updateStatement (schema : Schema) (row : Record) : Except StorageError Statement :=
  match row.value? schema.idField with
  | none => .error (.decode (.noIdentity schema.table schema.idField))
  | some id =>
    let columns := updatedColumns schema row
    .ok {
      pieces :=
        [.word .update, .word .space, .name schema.table] ++ spaced [.set] ++
          commaSeparated (assignments 0 columns) ++ spaced [.where] ++ .name schema.idField ::
          spaced [.equals] ++ placeholders columns.length 1
      params := columns.map Prod.snd ++ [id] }

/-- The statement of a write. -/
def statement (write : Write) : Except StorageError Statement :=
  match write.kind with
  | .insert => insertStatement write.schema write.row
  | .update => updateStatement write.schema write.row

end Write

end Taskboard
