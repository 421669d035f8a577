/-
Boards: the places that work is kept apart by.
-/
import Taskboard.Storage.Model

namespace Taskboard

/-- A board. -/
structure Board where
  id : String
  name : String
  slug : String
  description? : Option String
  createdAt : String
  updatedAt : String
deriving DecidableEq

namespace Board

/-- The table of boards. -/
def schema : Schema where
  table := "boards"
  idField := "id"
  fields := ["id", "name", "slug", "description", "created_at", "updated_at"]

/-- The columns of a board, by name. -/
def record (board : Board) : Record :=
  [("created_at", .string board.createdAt),
   ("description", .ofText? board.description?),
   ("id", .string board.id),
   ("name", .string board.name),
   ("slug", .string board.slug),
   ("updated_at", .string board.updatedAt)]

/-- Reads a board from its columns. -/
def ofRecord? (row : Record) : Option Board := do
  return {
    id := ← row.text? "id"
    name := ← row.text? "name"
    slug := ← row.text? "slug"
    description? := ← row.optionalText? "description"
    createdAt := ← row.text? "created_at"
    updatedAt := ← row.text? "updated_at" }

/-- Boards as rows. -/
def model : Model Board where
  schema := schema
  encode board := .object board.record
  decode? value := (Record.ofJson? schema.fields value).bind ofRecord?

end Board

end Taskboard
