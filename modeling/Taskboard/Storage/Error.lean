/-
What can go wrong between the program and its store, as causes; the wording of each cause is in
`message`.
-/
import Taskboard.Query.Schema
import Taskboard.Json.Printer

namespace Taskboard

/-- Why rows could not be turned into values, or values into rows. -/
inductive DecodeCause where
  /-- A stored row is not of the form its table promises. -/
  | malformedRow
  /-- A row to insert has no column of its table. -/
  | noColumns (table : String)
  /-- A row to update has no identifying value. -/
  | noIdentity (table field : String)
  /-- A row to write is not an object. -/
  | notARecord (table : String) (value : Json)
  /-- The stored message log of an onboarding session is not a JSON array. -/
  | malformedMessages (session : String)
  /-- As the store reports it. -/
  | reported (text : String)

/-- The wording of a cause. -/
def DecodeCause.message : DecodeCause → String
  | .malformedRow => ""
  | .noColumns table => "no " ++ table ++ " columns to insert"
  | .noIdentity table field => table ++ " row has no " ++ field ++ " to update by"
  | .notARecord table value => table ++ " row serialized to non-object " ++ value.render
  | .malformedMessages session => "onboarding session " ++ session ++ " messages: "
  | .reported text => text

/-- A round trip that failed. -/
inductive StorageError where
  | backend (text : String)
  | decode (cause : DecodeCause)
  /-- A uniqueness or other constraint of a table refused the write. -/
  | constraint (text : String)

/-- What the program's log and the callers of the query layer are told. -/
def StorageError.message : StorageError → String
  | .backend text => "storage backend error: " ++ text
  | .decode cause => "failed to decode row: " ++ cause.message
  | .constraint text => "constraint violated: " ++ text

/-- A query that failed: before a store was asked, or in the store. -/
inductive QueryError where
  | unknownField (cause : UnknownField)
  | storage (cause : StorageError)

/-- The wording of a failed query. -/
def QueryError.message : QueryError → String
  | .unknownField cause => cause.message
  | .storage cause => cause.message

end Taskboard
