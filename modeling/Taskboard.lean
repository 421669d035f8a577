import Taskboard.Console
import Taskboard.Http.Server
import Taskboard.Proofs.Endpoint.Atomicity
import Taskboard.Proofs.Endpoint.Callers
import Taskboard.Proofs.Endpoint.Confinement
import Taskboard.Proofs.Endpoint.Effects
import Taskboard.Proofs.Endpoint.Isolation
import Taskboard.Proofs.Endpoint.Lookup
import Taskboard.Proofs.Endpoint.Noninterference
import Taskboard.Proofs.Endpoint.Request
import Taskboard.Proofs.Flow.InStep
import Taskboard.Proofs.Flow.Run
import Taskboard.Proofs.Sql.Reading
import Taskboard.Proofs.Storage.Changes
import Taskboard.Proofs.Storage.Entities
import Taskboard.Proofs.Storage.Queries
import Taskboard.Proofs.Storage.Rows
import Taskboard.Storage.Remote
import Taskboard.Storage.Tables
import Taskboard.Proofs.Sql.Statements
import Taskboard.Proofs.Sql.Placeholders
import Taskboard.Proofs.Flow.Errors
import Taskboard.Proofs.Endpoint.Refusal
import Taskboard.Proofs.Text.Trim
import Taskboard.Proofs.Text.Case
import Taskboard.Proofs.Storage.Growth
import Taskboard.Proofs.Storage.Constraints
import Taskboard.Proofs.Endpoint.Grounds
import Taskboard.Proofs.Endpoint.Runs
import Taskboard.Proofs.Endpoint.Integrity
import Taskboard.Proofs.Endpoint.Assignment
import Taskboard.Proofs.Query.Chains
import Taskboard.Proofs.Query.Forms
import Taskboard.Proofs.Query.Reads
import Taskboard.Proofs.Query.Shortcut
import Taskboard.Proofs.Query.Conjunction
import Taskboard.Proofs.Query.FirstRow
import Taskboard.Proofs.Query.Identity
import Taskboard.Proofs.Endpoint.Naming
import Taskboard.Proofs.Endpoint.Decisions
import Taskboard.Proofs.Endpoint.Edits
import Taskboard.Proofs.Json.Reread
import Taskboard.Proofs.Endpoint.Answers
import Taskboard.Proofs.Number.Decimals
import Taskboard.Proofs.Number.Shortest
import Taskboard.Proofs.Number.Whole
import Taskboard.Proofs.Json.Readable
import Taskboard.Proofs.Endpoint.Listings
import Taskboard.Proofs.Storage.Savings
import Taskboard.Proofs.Endpoint.Conversation
import Taskboard.Proofs.Endpoint.Credentials
import Taskboard.Proofs.Flow.History
import Taskboard.Proofs.Storage.Replies
import Taskboard.Proofs.Storage.Muting
import Taskboard.Proofs.Storage.Digests
import Taskboard.Proofs.Flow.Matching
import Taskboard.Proofs.Endpoint.Faults
import Taskboard.Proofs.Endpoint.Replay
import Taskboard.Proofs.Endpoint.Secrecy
import Taskboard.Proofs.Http.Faults
import Taskboard.Proofs.Http.Authentication
import Taskboard.Proofs.Http.Discretion
import Taskboard.Proofs.Storage.Arrangement
import Taskboard.Proofs.Endpoint.Pages
import Taskboard.Proofs.Endpoint.TaskListing
import Taskboard.Proofs.Endpoint.TaskChanges
import Taskboard.Proofs.Storage.Trips
import Taskboard.Proofs.Storage.Batches
import Taskboard.Proofs.Sql.Grammar
import Taskboard.Proofs.Flow.Asking
import Taskboard.Proofs.Storage.Carriage
import Taskboard.Proofs.Endpoint.Bounds
import Taskboard.Proofs.Endpoint.Numbers
import Taskboard.Proofs.Query.Recall
import Taskboard.Proofs.Http.Tokens
