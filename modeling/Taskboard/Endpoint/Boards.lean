/-
Boards as a caller sees them, and the way to a board or a task: first it is looked up, then the
caller is let at it or refused, and only then anything else happens.
-/
import Taskboard.Failure

namespace Taskboard.Endpoint

/-- The board with an identifier. -/
def findBoard (boardId : String) : Serving Board := do
  let board? ← Board.model.first (Board.schema.withId (.string boardId))
  found "board" board?

/-- The board with an identifier, for a caller who may touch it. -/
def boardFor (actor : Agent) (boardId : String) : Serving Board := do
  let board ← findBoard boardId
  actor.requireAccess board.resource
  return board

/-- The task with an identifier, provided it is on a board. -/
def findTask (board : Board) (taskId : String) : Serving Task := do
  let task? ← Task.model.first
    ((Task.schema.withId (.string taskId)).filter (.is "board_id" (.string board.id)))
  found "task" task?

/-- The task with an identifier on a board, for a caller who may touch it. -/
def taskFor (actor : Agent) (boardId taskId : String) : Serving Task := do
  let board ← findBoard boardId
  let task ← findTask board taskId
  actor.requireAccess task.resource
  return task

/-- The boards of a caller: its own if it is bound to one, and otherwise all of them by name. -/
def listBoards (actor : Agent) : Serving (List Board) :=
  match actor.boundBoard? with
  | some boardId => do return ← Board.model.all (Board.schema.withId (.string boardId))
  | none => do return ← Board.model.all (Board.schema.all.sortBy "name" .ascending)

/-- One board. -/
def getBoard (actor : Agent) (boardId : String) : Serving Board :=
  boardFor actor boardId

end Taskboard.Endpoint
