/-
A store that holds its tables in memory. It answers plans by looking at every row, keeps a log of
the round trips with the text that a database would have been sent, and can be told to fail the next
trip. A write is logged before it is carried out, and of several writes all are logged before any is
carried out, so a failure leaves every table as it was.
-/
import Taskboard.Storage.Flow

namespace Taskboard

/-! ## State -/

/-- The kinds of round trips. -/
inductive CallKind where
  | select
  | count
  | insert
  | update
deriving DecidableEq

/-- One round trip of the log. -/
structure Call where
  kind : CallKind
  table : String
  text : String
deriving DecidableEq

/-- A failure that waits for a round trip: the next one, or the next one of a kind. -/
structure Fault where
  target? : Option CallKind
  error : StorageError

/-- Tables by name with their rows in the order of insertion, the log, and a failure that waits. -/
structure Tables where
  rows : String → List Record
  calls : List Call
  fault? : Option Fault

namespace Tables

/-- No rows, no round trips. -/
def empty : Tables :=
  ⟨fun _ => [], [], none⟩

/-- The tables with the rows of one of them changed. -/
def setRows (tables : Tables) (table : String) (rows : List Record) : Tables :=
  { tables with rows := fun name => if name = table then rows else tables.rows name }

/-- Makes the next round trip fail with a backend error. -/
def failNext (tables : Tables) (text : String) : Tables :=
  { tables with fault? := some ⟨none, .backend text⟩ }

/-- Makes the next round trip of a kind fail. -/
def failOn (tables : Tables) (kind : CallKind) (e : StorageError) : Tables :=
  { tables with fault? := some ⟨some kind, e⟩ }

/-! ## Plans -/

/-- Two rows by one sort term; a missing column counts as null. -/
def compareBy (term : SortTerm) (a b : Record) : Ordering :=
  let order := (Record.valueOrNull a term.field).order (Record.valueOrNull b term.field)
  match term.direction with
  | .ascending => order
  | .descending => order.swap

/-- Two rows by several sort terms, the first that tells them apart deciding. -/
def compareRows : List SortTerm → Record → Record → Ordering
  | [], _, _ => .eq
  | term :: rest, a, b => (compareBy term a b).then (compareRows rest a b)

/-- The rows that meet the conditions of a plan, in the order of insertion. -/
def rowsMeeting (tables : Tables) (plan : Plan) : List Record :=
  (tables.rows plan.schema.table).filter fun row => Predicate.allHold row plan.predicates

/-- Rows in the order of some sort terms; rows that no term tells apart keep their order. -/
def sorted (terms : List SortTerm) (rows : List Record) : List Record :=
  rows.mergeSort fun a b => (compareRows terms a b).isLE

/-- Rows within the bounds of a plan. -/
def bounded (plan : Plan) (rows : List Record) : List Record :=
  let rows := rows.drop (plan.offset?.getD 0)
  match plan.limit? with
  | some limit => rows.take limit
  | none => rows

/-- The rows of a plan. -/
def answer (tables : Tables) (plan : Plan) : List Record :=
  bounded plan (sorted plan.sortTerms (tables.rowsMeeting plan))

/-! ## Writes -/

/-- The rows with the first that has an identifying value replaced. -/
def replaceFirst (idField : String) (id : Json) (row : Record) : List Record → List Record
  | [] => []
  | stored :: rest =>
    if (stored.lookup idField).any fun value => value.same id then row :: rest
    else stored :: replaceFirst idField id row rest

/-- Carries out a write: an insert adds the row at the end, an update puts it in the place of the
first row with the same identifying value, if there is one. -/
def carryOut (tables : Tables) (write : Write) : Tables :=
  let rows := tables.rows write.schema.table
  match write.kind with
  | .insert => tables.setRows write.schema.table (rows ++ [write.row])
  | .update =>
    match write.row.lookup write.schema.idField with
    | some id =>
      tables.setRows write.schema.table (replaceFirst write.schema.idField id write.row rows)
    | none => tables

/-! ## Round trips -/

/-- Logs a round trip, which fails when a failure waits for it. -/
def log (tables : Tables) (call : Call) : Except StorageError Unit × Tables :=
  let logged := { tables with calls := tables.calls ++ [call] }
  match tables.fault? with
  | none => (.ok (), logged)
  | some fault =>
    if fault.target?.all (· == call.kind) then (.error fault.error, { logged with fault? := none })
    else (.ok (), logged)

/-- The kind of round trip of a write. -/
def kindOf : WriteKind → CallKind
  | .insert => .insert
  | .update => .update

/-- Logs a write; one without a statement fails before it is logged. -/
def logWrite (tables : Tables) (write : Write) : Except StorageError Unit × Tables :=
  match write.statement with
  | .error e => (.error e, tables)
  | .ok statement => tables.log ⟨kindOf write.kind, write.schema.table, statement.text⟩

/-- Logs writes until one fails. -/
def logWrites (tables : Tables) : List Write → Except StorageError Unit × Tables
  | [] => (.ok (), tables)
  | write :: rest =>
    match tables.logWrite write with
    | (.ok (), tables) => tables.logWrites rest
    | (.error e, tables) => (.error e, tables)

/-- Answers a plan. -/
def select (plan : Plan) (tables : Tables) : Except StorageError (List Json) × Tables :=
  match tables.log ⟨.select, plan.schema.table, plan.selectStatement.text⟩ with
  | (.ok (), tables) => (.ok ((tables.answer plan).map Json.object), tables)
  | (.error e, tables) => (.error e, tables)

/-- Counts the rows that meet the conditions of a plan. -/
def count (plan : Plan) (tables : Tables) : Except StorageError Nat × Tables :=
  match tables.log ⟨.count, plan.schema.table, plan.countStatement.text⟩ with
  | (.ok (), tables) => (.ok (tables.rowsMeeting plan).length, tables)
  | (.error e, tables) => (.error e, tables)

/-- Logs and carries out one write. -/
def write (write : Write) (tables : Tables) : Except StorageError Unit × Tables :=
  match tables.logWrite write with
  | (.ok (), tables) => (.ok (), tables.carryOut write)
  | (.error e, tables) => (.error e, tables)

/-- Logs several writes and then carries them out. -/
def batch (writes : List Write) (tables : Tables) : Except StorageError Unit × Tables :=
  match tables.logWrites writes with
  | (.ok (), tables) => (.ok (), writes.foldl carryOut tables)
  | (.error e, tables) => (.error e, tables)

/-- Tables as a store. -/
def store : Flow.Store Tables where
  select := select
  count := count
  write := write
  batch := batch

/-- Puts rows into a table without a round trip. -/
def seed (tables : Tables) (table : String) (rows : List Record) : Tables :=
  tables.setRows table (tables.rows table ++ rows)

end Tables

end Taskboard
