/-
Settings, read from variables by name. A variable that is missing, blank or no positive number
counts for its default, and the default page is never longer than the longest.
-/
import Taskboard.Text.Blank
import Taskboard.Text.Natural

namespace Taskboard

/-- The settings of the program. -/
structure Config where
  logLevel : String
  databaseBinding : String
  /-- How many entries a listing shows when nothing is asked for. -/
  pageDefault : Nat
  /-- How many entries a caller may ask for. -/
  pageMax : Nat
deriving DecidableEq

namespace Config

/-- The settings without any variable. -/
def standard : Config :=
  ⟨"info", "DB", 50, 200⟩

/-- A text, trimmed; a default when it is missing or blank. -/
def textOr (default : String) (value? : Option String) : String :=
  (value?.bind Text.nonBlank?).getD default

/-- A positive number of at most 64 bits; a default for anything else. -/
def positiveOr (default : Nat) (value? : Option String) : Nat :=
  ((value?.bind fun text => Text.natural? (Text.trim text)).filter (0 < ·)).getD default

/-- The settings that variables give. -/
def ofVariables (lookup : String → Option String) : Config :=
  let pageMax := positiveOr standard.pageMax (lookup "MEMORY_PAGE_MAX")
  { logLevel := textOr standard.logLevel (lookup "LOG_LEVEL")
    databaseBinding := textOr standard.databaseBinding (lookup "DB_BINDING")
    pageDefault := min (positiveOr standard.pageDefault (lookup "MEMORY_PAGE_DEFAULT")) pageMax
    pageMax := pageMax }

end Config

end Taskboard
