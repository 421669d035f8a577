/-
Callers come first. Whatever path, query and body a request has, the database is asked for the agent with its token
before anything else happens; and as long as there is no token, no such agent, or no answer, the response is one and
the same (`answer_authenticates`).
-/
import Taskboard.Proofs.Http.Faults
import Taskboard.Proofs.Storage.Replies

namespace Taskboard.Http

open Taskboard.Flow Taskboard.Endpoint

/-! ## The lookup of a caller -/

/-- The trip that looks up the agent with a token: the one with its digest. -/
def tokenTrip (token : String) : Remote.Trip :=
  ⟨.all, [⟨"SELECT * FROM agents WHERE agent_token_hash = ?1 LIMIT ?2",
    [.text (Token.hash token), .number (Binary64.ofInt 1)]⟩]⟩

/-- The plan for an agent with a digest. -/
def digestPlan (digest : String) : Plan :=
  ⟨Agent.schema, [.equals "agent_token_hash" (.string digest)], [], none, none⟩

/-- The text of a lookup does not depend on the digest. -/
theorem text_digestPlan (digest : String) : ((digestPlan digest).take 1).selectStatement.text =
    "SELECT * FROM agents WHERE agent_token_hash = ?1 LIMIT ?2" := by
  show ((digestPlan "").take 1).selectStatement.text = _
  decide +kernel

theorem trip_tokenPlan (token : String) : (Ask.select ((tokenPlan token).take 1)).trip = tokenTrip token := by
  show (⟨.all, [⟨((digestPlan (Token.hash token)).take 1).selectStatement.text, _⟩]⟩ : Remote.Trip) = _
  rw [text_digestPlan]
  rfl

/-- A database after an agent was looked up by its token. -/
def lookedUp (remote : Remote) (token : String) : Remote :=
  { remote with replies := remote.replies.tail, trips := remote.trips ++ [tokenTrip token] }

variable {config : Config} {boundName : String} {request : Request} {action : Action} {remote : Remote}

/-- With a token the answer goes on from what the lookup gives. -/
theorem run_serve_of_token (hbinding : config.databaseBinding = boundName) {token : String}
    (htoken : request.headers.token? = some token) (hbound : remote.bindFault? = none) (source : Entropy) :
    (serve config boundName request action).run Remote.store remote source =
      (admitted config request action (callerOf (Remote.replied remote.replies.head?))).run Remote.store
        (lookedUp remote token) source := by
  have hlooked : remote.tripped .all [((tokenPlan token).take 1).selectStatement] = lookedUp remote token := by
    rw [lookedUp, ← trip_tokenPlan]
    rfl
  rw [serve_of_token hbinding htoken]
  simp only [run, Remote.select_of_bound hbound, hlooked]

/-- Where a database is bound, a request for anything but the health of the server is answered in this order. Without
a token it is told that the caller is not known, and the database is left as it is. With a token, the database is
first asked for the agent with the digest of the token, and for one at most. If there is no such agent, or the lookup
fails, nothing else is sent; the answer is that the caller is not known, or that something failed inside, whatever
the path, the query and the body are. -/
theorem answer_authenticates (hbinding : config.databaseBinding = boundName) (haction : request.action? = some action)
    (hagent : action ≠ .health) (remote : Remote) (source : Entropy) :
    (request.headers.token? = none →
      (answer config boundName request).run Remote.store remote source = (.ok unauthorized, remote, source)) ∧
    ∀ token, request.headers.token? = some token →
      (∀ text, remote.bindFault? = some text →
        (answer config boundName request).run Remote.store remote source =
          (.ok internalError, { remote with bindFault? := none }, source)) ∧
      (remote.bindFault? = none →
        (∃ later, ((answer config boundName request).run Remote.store remote source).2.1.trips =
          remote.trips ++ tokenTrip token :: later) ∧
        (remote.replies.head? = none ∨ remote.replies.head? = some (.rows []) →
          (answer config boundName request).run Remote.store remote source =
            (.ok unauthorized, lookedUp remote token, source)) ∧
        ∀ text, remote.replies.head? = some (.failure text) →
          (answer config boundName request).run Remote.store remote source =
            (.ok internalError, lookedUp remote token, source)) := by
  rw [answer_of_action haction hagent]
  refine ⟨fun htoken => ?_, fun token htoken => ⟨fun text hfault => ?_, fun hbound => ⟨?_, ?_, ?_⟩⟩⟩
  · unfold serve
    rw [if_pos hbinding, htoken]
    rfl
  · rw [serve_of_token hbinding htoken]
    simp only [run, Remote.select_of_fault hfault]
    rfl
  · have htrips := (run_makes (serve_prudent config boundName request action) hbound source).trips
    rw [serve_of_token hbinding htoken] at htrips ⊢
    rw [htrips]
    exact ⟨_, congrArg (fun trip => remote.trips ++ trip :: _) (trip_tokenPlan token)⟩
  · intro hnone
    rw [run_serve_of_token hbinding htoken hbound]
    rcases hnone with hhead | hhead <;> rw [hhead] <;> rfl
  · intro text hhead
    rw [run_serve_of_token hbinding htoken hbound, hhead]
    rfl

/-- A listing that is asked for with a limit that is no number. -/
def badListing (headers : Headers) : Request where
  method := .get
  url := "app://board/agent/boards/b1/tasks?limit=many"
  headers := headers
  body? := some "\x7b"
  now := ""

theorem answer_authenticates_badListing :
    (answer .standard "DB" (badListing [])).run Remote.store ⟨[], none, []⟩ Entropy.counting =
        (.ok unauthorized, ⟨[], none, []⟩, Entropy.counting) ∧
      (answer .standard "DB" (badListing [("X-Agent-Token", "secret")])).run Remote.store ⟨[.rows []], none, []⟩
        Entropy.counting = (.ok unauthorized, ⟨[], none, [tokenTrip "secret"]⟩, Entropy.counting) ∧
      (answer .standard "DB" (badListing [("Authorization", "Bearer secret")])).run Remote.store
        ⟨[.failure "constraint failed", .rows []], none, []⟩ Entropy.counting =
          (.ok internalError, ⟨[.rows []], none, [tokenTrip "secret"]⟩, Entropy.counting) := by
  have hbinding : Config.standard.databaseBinding = "DB" := rfl
  have haction : ∀ headers, (badListing headers).action? = some (.listTasks "b1") := fun _ => by
    show (badListing []).action? = some (.listTasks "b1")
    decide +kernel
  refine ⟨?_, ?_, ?_⟩
  · obtain ⟨hnobody, -⟩ := answer_authenticates hbinding (haction []) (by decide) ⟨[], none, []⟩ Entropy.counting
    exact hnobody (by decide +kernel)
  · obtain ⟨-, htoken⟩ := answer_authenticates hbinding (haction [("X-Agent-Token", "secret")]) (by decide)
      ⟨[.rows []], none, []⟩ Entropy.counting
    exact ((htoken "secret" (by decide +kernel)).2 rfl).2.1 (.inr rfl)
  · obtain ⟨-, htoken⟩ := answer_authenticates hbinding (haction [("Authorization", "Bearer secret")]) (by decide)
      ⟨[.failure "constraint failed", .rows []], none, []⟩ Entropy.counting
    exact ((htoken "secret" (by decide +kernel)).2 rfl).2.2 "constraint failed" rfl

end Taskboard.Http
