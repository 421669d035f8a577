/-
The memory of a board: listing its entries and adding to it.
-/
import Taskboard.Endpoint.Boards
import Taskboard.Endpoint.Creation

namespace Taskboard.Endpoint

/-- The entries of a board, the newest first, within a page. -/
def memoryOfBoard (board : Board) (page : Page) : Serving (List MemoryEntryView) := do
  let plan ← MemoryEntry.schema.withValue "board_id" (.string board.id)
  let entries ← MemoryEntry.model.all
    (((plan.sortBy "created_at" .descending).take page.limit).drop page.offset)
  return entries.map MemoryEntry.view

/-- The entries of a board, for a caller who may touch it. -/
def listMemory (actor : Agent) (boardId : String) (page : Page) :
    Serving (List MemoryEntryView) := do
  let board ← boardFor actor boardId
  memoryOfBoard board page

/-- Adds an entry to the memory of a board, for a caller who may touch it. -/
def createMemory (actor : Agent) (boardId : String) (payload : NewMemoryEntry) (now : String) :
    Serving MemoryEntryView := do
  let board ← boardFor actor boardId
  let content ← requireText "content" payload.content
  let id ← freshId
  let entry : MemoryEntry := {
    id := id
    boardId := board.id
    content := content
    tags? := payload.tags?.map fun tags => (Json.ofTexts tags).render
    source? := payload.source?.bind Text.nonBlank?
    createdAt := now }
  MemoryEntry.model.insert entry
  return entry.view

end Taskboard.Endpoint
