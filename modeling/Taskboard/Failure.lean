/-
Requests that fail, as causes, and what a client is told of them: a status and a text that gives
away neither why access was refused nor what went wrong inside.
-/
import Taskboard.Access

namespace Taskboard

/-! ## Causes -/

/-- What is wrong with a request. -/
inductive Complaint where
  | blank (field : String)
  | limitBelowOne
  | limitAbove (max : Nat)
  | notNatural (parameter : String)
  | notBoolean (parameter : String)
  | unknownTaskStatus (text : String)
  | unknownApprovalStatus (text : String)
  | noChanges
  | assigneeElsewhere
  | confidenceOutOfRange
  | onboardingNotObject
  | unreadableBody
  | other (text : String)
deriving DecidableEq

/-- The wording of a complaint. -/
def Complaint.message : Complaint → String
  | .blank field => field ++ " must not be blank"
  | .limitBelowOne => "limit must be at least 1"
  | .limitAbove max => "limit must not exceed " ++ toString max
  | .notNatural parameter => parameter ++ " must be a non-negative integer"
  | .notBoolean parameter => parameter ++ " must be true or false"
  | .unknownTaskStatus text => "unknown task status: " ++ text
  | .unknownApprovalStatus text => "unknown approval status: " ++ text
  | .noChanges => "no changes requested"
  | .assigneeElsewhere => "assignee must belong to the task's board"
  | .confidenceOutOfRange => "confidence must be between 0 and 100"
  | .onboardingNotObject => "onboarding update must be a JSON object"
  | .unreadableBody => "invalid JSON body: "
  | .other text => text

/-- What a request stands in conflict with. -/
inductive Clash where
  | nameTaken (name : String)
  | other (text : String)
deriving DecidableEq

/-- The wording of a conflict. -/
def Clash.message : Clash → String
  | .nameTaken name => "agent " ++ name ++ " already exists on this board"
  | .other text => text

/-- What can fail inside without a store. -/
inductive InternalCause where
  | noRandomBytes
  | other (text : String)
deriving DecidableEq

/-- The wording of an internal cause. -/
def InternalCause.message : InternalCause → String
  | .noRandomBytes => "failed to generate random bytes: random source unavailable"
  | .other text => text

/-- Why a request fails. -/
inductive Failure where
  | unauthorized
  | forbidden (cause : AccessError)
  | notFound (what : String)
  | badRequest (complaint : Complaint)
  | conflict (clash : Clash)
  | query (cause : QueryError)
  | internal (cause : InternalCause)

namespace Failure

/-- The wording for the program's log. -/
def message : Failure → String
  | .unauthorized => "unauthorized"
  | .forbidden _ => "forbidden"
  | .notFound what => what ++ " not found"
  | .badRequest complaint => complaint.message
  | .conflict clash => clash.message
  | .query cause => cause.message
  | .internal cause => cause.message

/-! ## What a client is told -/

/-- The status of the answer. -/
def status : Failure → Nat
  | .unauthorized => 401
  | .forbidden _ => 403
  | .notFound _ => 404
  | .badRequest _ => 400
  | .conflict _ => 409
  | .query _ | .internal _ => 500

/-- The text of the answer; failures inside all read the same. -/
def clientText : Failure → String
  | .query _ | .internal _ => "internal error"
  | failure => failure.message

/-- The body of the answer. -/
def body (failure : Failure) : Json :=
  .object [("error", .string failure.clientText)]

end Failure

/-- Reads the text of an answer that reports a failure. -/
def Failure.clientText? (value : Json) : Option String := do
  (← Record.ofJson? ["error"] value).text? "error"

/-! ## Flows of requests -/

/-- A flow that serves a request. -/
abbrev Serving := Flow Failure

instance : MonadLift (Flow QueryError) (Flow Failure) where
  monadLift flow := flow.mapError .query

instance : MonadLift (Flow StorageError) (Flow Failure) where
  monadLift flow := flow.mapError fun e => .query (.storage e)

instance : MonadLift (Except Failure) (Flow Failure) where
  monadLift := .done

instance : MonadLift (Except AccessError) (Flow Failure) where
  monadLift result := .done (result.mapError .forbidden)

instance : MonadLift (Except UnknownField) (Flow Failure) where
  monadLift result := .done (result.mapError fun e => .query (.unknownField e))

/-- The value that was found, or the failure that names what was not. -/
def found {α : Type} (what : String) : Option α → Except Failure α
  | some value => .ok value
  | none => .error (.notFound what)

end Taskboard
