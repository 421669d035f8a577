/-
Methods and headers of requests.
-/
import Taskboard.Text.Ascii
import Taskboard.Token

namespace Taskboard.Http

/-! ## Methods -/

/-- The methods that are told apart. -/
inductive Method where
  | head | get | post | put | patch | delete | options | connect | trace | report
deriving DecidableEq

/-- The method of a text in any case; an unknown one is a GET. -/
def Method.ofText (s : String) : Method :=
  match Text.upper s with
  | "HEAD" => .head
  | "POST" => .post
  | "PUT" => .put
  | "PATCH" => .patch
  | "DELETE" => .delete
  | "OPTIONS" => .options
  | "CONNECT" => .connect
  | "TRACE" => .trace
  | "REPORT" => .report
  | _ => .get

/-! ## Headers -/

/-- Names and values in the order they were sent. -/
abbrev Headers := List (String × String)

/-- The value of a name in any case; the values of a repeated name are joined with a comma and a
space. -/
def Headers.value? (headers : Headers) (name : String) : Option String :=
  match headers.filter fun header => Text.sameWord header.1 name with
  | [] => none
  | found => some (", ".intercalate (found.map Prod.snd))

/-- The token that comes with a request. -/
def Headers.token? (headers : Headers) : Option String :=
  Token.select? (headers.value? Token.agentHeader) (headers.value? Token.authorizationHeader)

end Taskboard.Http
