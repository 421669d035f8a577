/-
Parameters of a request: texts by name, the last of a name standing. Values are trimmed and blank
ones count as missing.
-/
import Taskboard.Config
import Taskboard.Failure

namespace Taskboard

/-- The parameters of a request in the order they were given. -/
abbrev Params := List (String × String)

namespace Params

/-- The last value of a name, as given. -/
def raw? (params : Params) (name : String) : Option String :=
  params.reverse.lookup name

/-- The last value of a name, trimmed; none when it is missing or blank. -/
def value? (params : Params) (name : String) : Option String :=
  (params.raw? name).bind Text.nonBlank?

/-- A number of at most 64 bits, if one is given. -/
def natural? (params : Params) (name : String) : Except Failure (Option Nat) :=
  match params.value? name with
  | none => .ok none
  | some text =>
    match Text.natural? text with
    | some n => .ok (some n)
    | none => .error (.badRequest (.notNatural name))

/-- True or false, in any case or as 1 or 0, if one is given. -/
def boolean? (params : Params) (name : String) : Except Failure (Option Bool) :=
  match params.value? name with
  | none => .ok none
  | some text =>
    match Text.lower text with
    | "true" | "1" => .ok (some true)
    | "false" | "0" => .ok (some false)
    | _ => .error (.badRequest (.notBoolean name))

/-- A limit between one and `max`; `default` when none is given, but never more than `max`. -/
def limitWithin (limit? : Option Nat) (default max : Nat) : Except Failure Nat :=
  match limit? with
  | none => .ok (min default max)
  | some limit =>
    if limit = 0 then .error (.badRequest .limitBelowOne)
    else if max < limit then .error (.badRequest (.limitAbove max))
    else .ok limit

/-- What narrows a listing of tasks. -/
def taskFilter (params : Params) : Except Failure TaskFilter := do
  let unassigned? ← params.boolean? "unassigned"
  let limit? ← params.natural? "limit"
  return {
    status? := params.value? "status"
    assignee? := params.value? "assigned_agent_id"
    unassigned? := unassigned?
    limit? := limit? }

/-- The part of a listing that is asked for. -/
def page (params : Params) (config : Config) : Except Failure Page := do
  let limit ← limitWithin (← params.natural? "limit") config.pageDefault config.pageMax
  let offset? ← params.natural? "offset"
  return { limit := limit, offset := offset?.getD 0 }

end Params

end Taskboard
