/-
A SQL database reached by prepared statements. Each request is one trip: the parameters of its
statements are bound, the statements are sent, and the database replies with rows or reports an
error. A database here is the list of its replies to come; a trip past the last one is answered
without rows.
-/
import Taskboard.Storage.Flow

namespace Taskboard.Remote

/-! ## Binding -/

/-- A value as the database takes it. Numbers travel as doubles. -/
inductive Bound where
  | null
  | bool (flag : Bool)
  | number (value : Binary64)
  | text (text : String)

/-- Binds a value; arrays and objects travel as JSON text. -/
def bind : Json → Bound
  | .null => .null
  | .bool b => .bool b
  | .int n => .number (Binary64.ofInt n)
  | .float x => .number x
  | .string s => .text s
  | value => .text value.render

/-- A statement with its parameters bound. -/
structure Prepared where
  text : String
  params : List Bound

/-! ## State -/

/-- The ways to send statements: for all rows, for the first row, for no rows, and several at once. -/
inductive Method where
  | all
  | first
  | run
  | batch
deriving DecidableEq

/-- One trip of the log. -/
structure Trip where
  method : Method
  statements : List Prepared

/-- What a trip is answered. -/
inductive Reply where
  | rows (rows : List Json)
  | failure (text : String)

end Remote

/-- A database: its replies to come, an error that the next binding will report, and the trips made. -/
structure Remote where
  replies : List Remote.Reply
  bindFault? : Option String
  trips : List Remote.Trip

namespace Remote

/-! ## Trips -/

/-- Whether a list of characters occurs in another without a gap. -/
def occurs (part : List Char) : List Char → Bool
  | [] => part.isEmpty
  | c :: rest => part.isPrefixOf (c :: rest) || occurs part rest

/-- The cause of an error that the database reports as text: a refused constraint says so. -/
def errorOf (text : String) : StorageError :=
  if occurs "constraint failed".toList text.toList then .constraint text else .backend text

/-- Binds the parameters of a statement. -/
def prepare (statement : Statement) (remote : Remote) : Except StorageError Prepared × Remote :=
  match remote.bindFault? with
  | some text => (.error (errorOf text), { remote with bindFault? := none })
  | none => (.ok ⟨statement.text, statement.params.map bind⟩, remote)

/-- Sends statements and takes the next reply. -/
def trip (method : Method) (statements : List Prepared) (remote : Remote) :
    Except StorageError (List Json) × Remote :=
  let logged := { remote with
    replies := remote.replies.tail, trips := remote.trips ++ [⟨method, statements⟩] }
  match remote.replies.head? with
  | none => (.ok [], logged)
  | some (.rows rows) => (.ok rows, logged)
  | some (.failure text) => (.error (errorOf text), logged)

/-- Prepares a statement and sends it. -/
def send (method : Method) (statement : Statement) (remote : Remote) :
    Except StorageError (List Json) × Remote :=
  match remote.prepare statement with
  | (.ok prepared, remote) => remote.trip method [prepared]
  | (.error e, remote) => (.error e, remote)

/-- Prepares the statements of writes, in order, until one fails. -/
def prepareWrites (remote : Remote) : List Write → Except StorageError (List Prepared) × Remote
  | [] => (.ok [], remote)
  | write :: rest =>
    match write.statement with
    | .error e => (.error e, remote)
    | .ok statement =>
      match remote.prepare statement with
      | (.error e, remote) => (.error e, remote)
      | (.ok prepared, remote) =>
        match remote.prepareWrites rest with
        | (.error e, remote) => (.error e, remote)
        | (.ok others, remote) => (.ok (prepared :: others), remote)

/-- How a first row that holds no number is reported. -/
def malformedCount : StorageError :=
  .backend "Serde Error: "

/-- The number in the first row of a reply to a count; below zero counts as zero, no row as zero. -/
def countOf : List Json → Except StorageError Nat
  | [] => .ok 0
  | row :: _ =>
    match (Record.ofJson? ["count"] row).bind fun row => row.integer? "count" with
    | some n => .ok n.toNat
    | none => .error malformedCount

/-! ## Requests -/

/-- The rows of a plan. -/
def select (plan : Plan) (remote : Remote) : Except StorageError (List Json) × Remote :=
  remote.send .all plan.selectStatement

/-- The number of rows that meet the conditions of a plan. -/
def count (plan : Plan) (remote : Remote) : Except StorageError Nat × Remote :=
  match remote.send .first plan.countStatement with
  | (.ok rows, remote) => (countOf rows, remote)
  | (.error e, remote) => (.error e, remote)

/-- One write; its reply is not looked at. -/
def write (write : Write) (remote : Remote) : Except StorageError Unit × Remote :=
  match write.statement with
  | .error e => (.error e, remote)
  | .ok statement =>
    match remote.send .run statement with
    | (.ok _, remote) => (.ok (), remote)
    | (.error e, remote) => (.error e, remote)

/-- Several writes in one trip; no writes make no trip. -/
def batch (writes : List Write) (remote : Remote) : Except StorageError Unit × Remote :=
  if writes.isEmpty then (.ok (), remote)
  else
    match remote.prepareWrites writes with
    | (.error e, remote) => (.error e, remote)
    | (.ok statements, remote) =>
      match remote.trip .batch statements with
      | (.ok _, remote) => (.ok (), remote)
      | (.error e, remote) => (.error e, remote)

/-- A database as a store. -/
def store : Flow.Store Remote where
  select := select
  count := count
  write := write
  batch := batch

end Remote

end Taskboard
