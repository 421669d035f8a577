/-
Routes: which paths are served, and what is done there by which method. A path must match segment
by segment; a parameter takes one segment as it is written, which may be empty unless it is the last.
-/
import Taskboard.Http.Headers

namespace Taskboard.Http

/-- What a request asks for. -/
inductive Action where
  | health
  | listBoards
  | getBoard (board : String)
  | listTasks (board : String)
  | updateTask (board task : String)
  | listTaskComments (board task : String)
  | createTaskComment (board task : String)
  | listMemory (board : String)
  | createMemory (board : String)
  | listApprovals (board : String)
  | createApproval (board : String)
  | updateOnboarding (board : String)
  | createAgent
  | heartbeat
deriving DecidableEq

/-- What a path leads to: for each method that is served there, what it asks for. -/
structure Place where
  get? : Option Action
  post? : Option Action
  patch? : Option Action
deriving DecidableEq

namespace Place

/-- The segments of a path behind its leading slash. -/
def segments (path : String) : List String :=
  match path.toList with
  | '/' :: rest => (rest.splitOn '/').map String.ofList
  | _ => []

/-- The place that segments lead to. -/
def ofSegments? : List String → Option Place
  | ["health"] => some ⟨some .health, none, none⟩
  | ["agent", "boards"] => some ⟨some .listBoards, none, none⟩
  | ["agent", "boards", board] => some ⟨some (.getBoard board), none, none⟩
  | ["agent", "boards", board, "tasks"] => some ⟨some (.listTasks board), none, none⟩
  | ["agent", "boards", board, "tasks", task] => some ⟨none, none, some (.updateTask board task)⟩
  | ["agent", "boards", board, "tasks", task, "comments"] =>
    some ⟨some (.listTaskComments board task), some (.createTaskComment board task), none⟩
  | ["agent", "boards", board, "memory"] =>
    some ⟨some (.listMemory board), some (.createMemory board), none⟩
  | ["agent", "boards", board, "approvals"] =>
    some ⟨some (.listApprovals board), some (.createApproval board), none⟩
  | ["agent", "boards", board, "onboarding"] => some ⟨none, some (.updateOnboarding board), none⟩
  | ["agent", "agents"] => some ⟨none, some .createAgent, none⟩
  | ["agent", "heartbeat"] => some ⟨none, some .heartbeat, none⟩
  | _ => none

/-- The place that a path leads to; a path that ends in a slash leads nowhere. -/
def ofPath? (path : String) : Option Place :=
  let segments := segments path
  if segments.getLast? = some "" then none else ofSegments? segments

/-- What a method asks for at a place. -/
def action? (place : Place) : Method → Option Action
  | .get => place.get?
  | .post => place.post?
  | .patch => place.patch?
  | _ => none

end Place

end Taskboard.Http
