/-
What new rows have in common: random identifiers and texts that must not be blank.
-/
import Taskboard.Failure
import Taskboard.Text.Hex

namespace Taskboard.Endpoint

/-- Random bytes as hexadecimal text. -/
def freshHex (size : Nat) : Serving String :=
  .random size fun
    | some bytes => .done (.ok (Text.hex bytes))
    | none => .fail (.internal .noRandomBytes)

/-- A new identifier, of 16 random bytes. -/
def freshId : Serving String :=
  freshHex 16

/-- A new token, of 32 random bytes. -/
def freshToken : Serving String :=
  freshHex 32

/-- A text, trimmed; the failure names the field when nothing is left of it. -/
def requireText (field text : String) : Except Failure String :=
  match Text.nonBlank? text with
  | some text => .ok text
  | none => .error (.badRequest (.blank field))

end Taskboard.Endpoint
