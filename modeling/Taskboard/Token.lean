/-
Tokens: how a caller says who it is. A token comes in a header of its own or behind the word
"bearer"; agents are found by the digest of their token.
-/
import Taskboard.Failure
import Taskboard.Text.Sha256
import Taskboard.Text.Utf8
import Taskboard.Text.Hex

namespace Taskboard.Token

/-- The header that holds a token and nothing else. -/
def agentHeader : String := "x-agent-token"

/-- The header that holds a scheme and a token. -/
def authorizationHeader : String := "authorization"

/-- The token of an authorization: the trimmed text is the word "bearer" in any case, one space, and
the token, trimmed and not blank. -/
def ofAuthorization? (authorization : String) : Option String :=
  let cs := (Text.trim authorization).toList
  let scheme := cs.takeWhile (· ≠ ' ')
  match cs.dropWhile (· ≠ ' ') with
  | [] => none
  | _ :: rest =>
    if Text.sameWord (String.ofList scheme) "bearer" then Text.nonBlank? (String.ofList rest) else none

/-- The token of a request. The header of its own comes first, unless it is blank. -/
def select? (agent authorization : Option String) : Option String :=
  match agent.bind Text.nonBlank? with
  | some token => some token
  | none => authorization.bind ofAuthorization?

/-- The digest that is stored in place of a token: SHA-256 in lower-case hexadecimal. -/
def hash (token : String) : String :=
  Text.hex (Text.Sha256.digest (Text.utf8 token))

/-- The agent with a token. -/
def authenticate (token? : Option String) : Serving Agent := do
  match token? with
  | none => Flow.fail .unauthorized
  | some token =>
    let plan ← Agent.schema.withValues [("agent_token_hash", .string (hash token))]
    match ← Agent.model.first plan with
    | some agent => pure agent
    | none => Flow.fail .unauthorized

end Taskboard.Token
