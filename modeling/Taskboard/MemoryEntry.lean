/-
The memory of a board: entries that its agents leave for each other. Tags are stored as the JSON
text of a list; a text that is none is shown as no tags.
-/
import Taskboard.Storage.Model
import Taskboard.Json.Parser

namespace Taskboard

/-! ## Tags -/

/-- The texts of an array of texts. -/
def Json.texts? : Json → Option (List String)
  | .array items => items.mapM Json.text?
  | _ => none

/-- A list of texts as an array. -/
def Json.ofTexts (texts : List String) : Json :=
  .array (texts.map .string)

/-! ## Entries -/

/-- An entry in the memory of a board. -/
structure MemoryEntry where
  id : String
  boardId : String
  content : String
  /-- JSON text of an array of texts. -/
  tags? : Option String
  source? : Option String
  createdAt : String
deriving DecidableEq

namespace MemoryEntry

/-- The table of entries. -/
def schema : Schema where
  table := "board_memory"
  idField := "id"
  fields := ["id", "board_id", "content", "tags", "source", "created_at"]

/-- The columns of an entry, by name. -/
def record (entry : MemoryEntry) : Record :=
  [("board_id", .string entry.boardId),
   ("content", .string entry.content),
   ("created_at", .string entry.createdAt),
   ("id", .string entry.id),
   ("source", .ofText? entry.source?),
   ("tags", .ofText? entry.tags?)]

/-- Reads an entry from its columns. -/
def ofRecord? (row : Record) : Option MemoryEntry := do
  return {
    id := ← row.text? "id"
    boardId := ← row.text? "board_id"
    content := ← row.text? "content"
    tags? := ← row.optionalText? "tags"
    source? := ← row.optionalText? "source"
    createdAt := ← row.text? "created_at" }

/-- Entries as rows. -/
def model : Model MemoryEntry where
  schema := schema
  encode entry := .object entry.record
  decode? value := (Record.ofJson? schema.fields value).bind ofRecord?

end MemoryEntry

/-! ## Answers -/

/-- An entry as it is shown, with its tags as a list. -/
structure MemoryEntryView where
  id : String
  boardId : String
  content : String
  tags : List String
  source? : Option String
  createdAt : String
deriving DecidableEq

/-- What is shown of an entry. -/
def MemoryEntry.view (entry : MemoryEntry) : MemoryEntryView where
  id := entry.id
  boardId := entry.boardId
  content := entry.content
  tags := ((entry.tags?.bind Json.parse?).bind Json.texts?).getD []
  source? := entry.source?
  createdAt := entry.createdAt

/-- A shown entry as JSON. -/
def MemoryEntryView.json (entry : MemoryEntryView) : Json :=
  .object
    [("board_id", .string entry.boardId),
     ("content", .string entry.content),
     ("created_at", .string entry.createdAt),
     ("id", .string entry.id),
     ("source", .ofText? entry.source?),
     ("tags", .ofTexts entry.tags)]

/-! ## Requests -/

/-- An entry to add. -/
structure NewMemoryEntry where
  content : String
  tags? : Option (List String)
  source? : Option String
deriving DecidableEq

/-- Reads an entry to add. -/
def NewMemoryEntry.ofJson? (value : Json) : Option NewMemoryEntry := do
  let row ← Record.ofJson? ["content", "tags", "source"] value
  return {
    content := ← row.text? "content"
    tags? := ← row.optional? Json.texts? "tags"
    source? := ← row.optionalText? "source" }

/-- The part of a listing that is asked for. -/
structure Page where
  limit : Nat
  offset : Nat
deriving DecidableEq

end Taskboard
