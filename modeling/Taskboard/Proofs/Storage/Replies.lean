/-
Runs on a database, from what it replies. As long as parameters can be bound, every request of a prudent flow makes
one trip and is answered from the reply to it (`run_makes`). So a database whose replies say what another store
answered makes a flow end as it ended there, after the same requests (`run_replayed`).
-/
import Taskboard.Proofs.Flow.History
import Taskboard.Proofs.Query.Reads
import Taskboard.Proofs.Storage.Savings

namespace Taskboard

/-! ## Trips -/

namespace Remote

/-- What a trip is answered; past the last reply there are no rows. -/
def replied : Option Reply → Except StorageError (List Json)
  | none => .ok []
  | some (.rows rows) => .ok rows
  | some (.failure text) => .error (errorOf text)

/-- A statement with its parameters bound. -/
def bound (statement : Statement) : Prepared :=
  ⟨statement.text, statement.params.map bind⟩

/-- The database after a trip. -/
def tripped (remote : Remote) (method : Method) (statements : List Statement) : Remote :=
  { remote with replies := remote.replies.tail, trips := remote.trips ++ [⟨method, statements.map bound⟩] }

theorem trip_eq (remote : Remote) (method : Method) (statements : List Statement) :
    remote.trip method (statements.map bound) =
      (replied remote.replies.head?, remote.tripped method statements) := by
  unfold trip
  rcases remote.replies.head? with _ | _ | _ <;> rfl

section Bound

variable {remote : Remote} (h : remote.bindFault? = none)
include h

theorem prepare_of_bound (statement : Statement) : remote.prepare statement = (.ok (bound statement), remote) := by
  unfold prepare
  rw [h]
  rfl

theorem send_of_bound (method : Method) (statement : Statement) :
    remote.send method statement = (replied remote.replies.head?, remote.tripped method [statement]) := by
  unfold send
  rw [prepare_of_bound h]
  exact trip_eq remote method [statement]

theorem prepareWrites_of_bound {writes : List Write} {statements : List Statement}
    (hstatements : writes.map Write.statement = statements.map .ok) :
    remote.prepareWrites writes = (.ok (statements.map bound), remote) := by
  induction writes generalizing statements with
  | nil =>
    obtain rfl := List.map_eq_nil_iff.1 hstatements.symm
    rfl
  | cons w writes ih =>
    obtain ⟨statement, statements, rfl, hstatement, hrest⟩ := List.map_eq_cons_iff.1 hstatements.symm
    rw [prepareWrites, ← hstatement]
    simp only [prepare_of_bound h, ih hrest.symm]
    rfl

theorem select_of_bound (plan : Plan) : store.select plan remote =
    (replied remote.replies.head?, remote.tripped .all [plan.selectStatement]) :=
  send_of_bound h .all plan.selectStatement

theorem write_of_bound {w : Write} {statement : Statement} (hstatement : w.statement = .ok statement) :
    store.write w remote =
      ((replied remote.replies.head?).map fun _ => (), remote.tripped .run [statement]) := by
  show write w remote = _
  unfold write
  rw [hstatement]
  simp only [send_of_bound h]
  cases replied remote.replies.head? <;> rfl

theorem batch_of_bound {writes : List Write} (hne : writes ≠ []) {statements : List Statement}
    (hstatements : writes.map Write.statement = statements.map .ok) :
    store.batch writes remote =
      ((replied remote.replies.head?).map fun _ => (), remote.tripped .batch statements) := by
  show batch writes remote = _
  unfold batch
  rw [if_neg (by simpa using hne), prepareWrites_of_bound h hstatements]
  simp only [trip_eq]
  cases replied remote.replies.head? <;> rfl

end Bound

/-- A parameter that cannot be bound keeps a query from being sent. -/
theorem select_of_fault {remote : Remote} {text : String} (h : remote.bindFault? = some text) (plan : Plan) :
    store.select plan remote = (.error (errorOf text), { remote with bindFault? := none }) := by
  show remote.send .all plan.selectStatement = _
  unfold send prepare
  rw [h]

end Remote

open Remote

/-! ## Exchanges and replies -/

/-- Writes that have statements have them in order. -/
theorem Write.exists_statements {writes : List Write} (h : ∀ w ∈ writes, w.Sendable) :
    ∃ statements : List Statement, writes.map Write.statement = statements.map .ok := by
  induction writes with
  | nil => exact ⟨[], rfl⟩
  | cons w writes ih =>
    obtain ⟨statement, hstatement⟩ := h w (List.mem_cons_self ..)
    obtain ⟨statements, hstatements⟩ := ih fun other hother => h other (List.mem_cons_of_mem _ hother)
    exact ⟨statement :: statements, by rw [List.map_cons, List.map_cons, hstatement, hstatements]⟩

namespace Exchange

/-- A request is answered as a database answers it from a reply. -/
def AnsweredBy (reply? : Option Reply) : Exchange → Prop
  | .select _ answer => answer = replied reply?
  | .count _ answer => answer = (replied reply?).bind countOf
  | .write _ answer | .batch _ answer => answer = (replied reply?).map fun _ => ()

/-- A reply that says what a request was answered: rows, or that a write went well. -/
def reply? : Exchange → Option Reply
  | .select _ (.ok rows) => some (.rows rows)
  | .write _ (.ok ()) | .batch _ (.ok ()) => some (.rows [])
  | _ => none

theorem answeredBy_of_reply? {x : Exchange} {reply : Reply} (h : x.reply? = some reply) :
    x.AnsweredBy (some reply) := by
  rcases x with ⟨_, _ | _⟩ | _ | ⟨_, _ | _⟩ | ⟨_, _ | _⟩ <;> cases h <;> rfl

/-- A request that is answered from a failure has failed. -/
theorem fault_of_failure {x : Exchange} {text : String} (h : x.AnsweredBy (some (.failure text))) :
    x.Fault (errorOf text) := by
  rcases x with ⟨plan, answer⟩ | ⟨plan, answer⟩ | ⟨w, answer⟩ | ⟨ws, answer⟩ <;>
    obtain rfl : answer = .error (errorOf text) := h <;> constructor

end Exchange

namespace Ask

/-- How a database is sent the statements of a request. -/
def method : Ask → Method
  | .select _ => .all
  | .count _ => .first
  | .write _ => .run
  | .batch _ => .batch

/-- The statements of a request. -/
def statements : Ask → List Statement
  | .select plan => [plan.selectStatement]
  | .count plan => [plan.countStatement]
  | .write w => w.statement.toOption.toList
  | .batch ws => ws.filterMap fun w => w.statement.toOption

/-- The trip of a request. -/
def trip (ask : Ask) : Trip :=
  ⟨ask.method, ask.statements.map bound⟩

/-- The texts that a request sends. -/
def texts (ask : Ask) : List String :=
  ask.statements.map Statement.text

theorem statements_write {w : Write} {statement : Statement} (h : w.statement = .ok statement) :
    (Ask.write w).statements = [statement] := by
  show w.statement.toOption.toList = [statement]
  rw [h]
  rfl

theorem statements_batch {ws : List Write} {sent : List Statement} (h : ws.map Write.statement = sent.map .ok) :
    (Ask.batch ws).statements = sent := by
  show ws.filterMap (Except.toOption ∘ Write.statement) = sent
  rw [← List.filterMap_map, h, List.filterMap_map]
  exact List.filterMap_some

end Ask

namespace Remote

variable {remote after : Remote} {x : Exchange} {history more : List Exchange}

/-- The replies to come answer requests as they were answered. -/
def Answers (remote : Remote) (history : List Exchange) : Prop :=
  ∀ (i : Nat) (x : Exchange), history[i]? = some x → x.AnsweredBy remote.replies[i]?

theorem answers_cons (method : Method) (statements : List Statement) : remote.Answers (x :: history) ↔
    x.AnsweredBy remote.replies.head? ∧ (remote.tripped method statements).Answers history := by
  have hreplies : ∀ i, (remote.tripped method statements).replies[i]? = remote.replies[i + 1]? :=
    fun i => List.getElem?_tail
  rw [List.head?_eq_getElem?]
  constructor
  · intro h
    refine ⟨h 0 x rfl, fun i y hy => ?_⟩
    rw [hreplies]
    exact h (i + 1) y hy
  · rintro ⟨hfirst, hrest⟩ (_ | i) y hy
    · cases hy
      exact hfirst
    · rw [← hreplies]
      exact hrest i y hy

theorem Answers.left (h : remote.Answers (history ++ more)) : remote.Answers history := fun i x hx => by
  obtain ⟨hi, -⟩ := List.getElem?_eq_some_iff.1 hx
  exact h i x (by rwa [List.getElem?_append_left hi])

/-- Replies that say what requests were answered answer them. -/
theorem answers_of_replies (h : ∀ x ∈ history, x.reply?.isSome)
    (hreplies : remote.replies = history.filterMap Exchange.reply?) : remote.Answers history := by
  induction history generalizing remote with
  | nil => exact fun i x hx => nomatch hx
  | cons x history ih =>
    obtain ⟨hx, hrest⟩ := List.forall_mem_cons.1 h
    obtain ⟨reply, hreply⟩ := Option.isSome_iff_exists.1 hx
    rw [List.filterMap_cons_some hreply] at hreplies
    refine (answers_cons .all []).2 ⟨?_, ih hrest ?_⟩
    · rw [hreplies]
      exact Exchange.answeredBy_of_reply? hreply
    · exact congrArg List.tail hreplies

/-- Requests that a database is asked, each answered from the reply to it, and what they leave of the database. -/
inductive Makes : Remote → List Exchange → Remote → Prop
  | nil {remote : Remote} : Makes remote [] remote
  | cons {remote after : Remote} {x : Exchange} {history : List Exchange} (hx : x.AnsweredBy remote.replies.head?)
      (h : Makes (remote.tripped x.ask.method x.ask.statements) history after) : Makes remote (x :: history) after

namespace Makes

theorem trips (h : Makes remote history after) : after.trips = remote.trips ++ history.map (·.ask.trip) := by
  induction h with
  | nil => exact (List.append_nil _).symm
  | cons hx h ih =>
    rw [ih]
    exact List.append_assoc ..

/-- The database is sent the texts of the requests. -/
theorem texts (h : Makes remote history after) :
    Backend.texts .remote after = Backend.texts .remote remote ++ history.flatMap (·.ask.texts) := by
  have htrip : ∀ ask : Ask, ask.trip.statements.map Prepared.text = ask.texts := fun ask => List.map_map
  show after.trips.flatMap _ = remote.trips.flatMap _ ++ _
  rw [h.trips, List.flatMap_append, List.flatMap_map]
  simp only [htrip]

theorem bindFault (h : Makes remote history after) : after.bindFault? = remote.bindFault? := by
  induction h with
  | nil => rfl
  | cons hx h ih => exact ih

theorem answers (h : Makes remote history after) : remote.Answers history := by
  induction h with
  | nil => exact fun i x hx => nomatch hx
  | cons hx h ih => exact (answers_cons _ _).2 ⟨hx, ih⟩

/-- Replies that are left answer what comes behind. -/
theorem answers_rest (h : Makes remote history after) (hall : remote.Answers (history ++ more)) :
    after.Answers more := by
  induction h with
  | nil => exact hall
  | cons hx h ih => exact ih ((answers_cons _ _).1 hall).2

end Makes

end Remote

/-- Where no failure waits, writes are logged with the texts of their statements. -/
theorem Tables.texts_batch {tables : Tables} (hquiet : tables.fault? = none) {writes : List Write}
    {statements : List Statement} (h : writes.map Write.statement = statements.map .ok) :
    Backend.texts .tables (tables.batch writes).2 = Backend.texts .tables tables ++ statements.map Statement.text := by
  have hlength : writes.length = statements.length := by
    rw [← List.length_map Write.statement, h, List.length_map]
  have htexts : (List.zipWith Write.call writes statements).map Call.text = statements.map Statement.text := by
    rw [← List.map_uncurry_zip_eq_zipWith, List.map_map]
    show (writes.zip statements).map (Statement.text ∘ Prod.snd) = _
    rw [← List.map_map, List.map_snd_zip hlength.ge]
  show (tables.batch writes).2.calls.map Call.text = tables.calls.map Call.text ++ _
  unfold batch
  rw [logWrites_of_quiet hquiet h]
  show (writes.foldl carryOut (tables.noting _)).calls.map Call.text = _
  rw [calls_carryOuts, noting, List.map_append, htexts]

namespace Flow

variable {ε α σ : Type} {ended : Ask → StorageError → Except ε α} {flow : Flow ε α}

/-- On a database where parameters can be bound, every request of a prudent flow makes one trip. -/
theorem run_makes (h : flow.Prudent ended) {remote : Remote} (hbound : remote.bindFault? = none) (source : Entropy) :
    remote.Makes (flow.history Remote.store remote source) (flow.run Remote.store remote source).2.1 := by
  induction h generalizing remote source with
  | done result => exact .nil
  | random _ ih => exact ih _ hbound _
  | select _ _ _ ih =>
    simp only [history, run, select_of_bound hbound]
    refine .cons rfl (ih _ ?_ _)
    exact hbound
  | write hw _ _ ih =>
    obtain ⟨statement, hstatement⟩ := hw
    simp only [history, run, write_of_bound hbound hstatement]
    refine .cons rfl ?_
    simp only [Exchange.ask, Ask.statements_write hstatement]
    refine ih _ ?_ _
    exact hbound
  | batch hne hws _ _ ih =>
    obtain ⟨statements, hstatements⟩ := Write.exists_statements hws
    simp only [history, run, batch_of_bound hbound hne hstatements]
    refine .cons rfl ?_
    simp only [Exchange.ask, Ask.statements_batch hstatements]
    refine ih _ ?_ _
    exact hbound

/-- Tables where no failure waits log the texts of the requests. -/
theorem texts_run_tables (h : flow.Prudent ended) {tables : Tables} (hquiet : tables.fault? = none) (source : Entropy) :
    Backend.texts .tables (flow.run Tables.store tables source).2.1 =
      Backend.texts .tables tables ++ (flow.history Tables.store tables source).flatMap (·.ask.texts) := by
  induction h generalizing tables source with
  | done result => exact (List.append_nil _).symm
  | random _ ih => exact ih _ hquiet _
  | @select plan _ _ _ _ ih =>
    have hlog := Backend.texts_select .tables plan tables
    simp only [history, run, List.flatMap_cons]
    refine (ih _ (Tables.select_quiet hquiet plan) source).trans ?_
    rw [← List.append_assoc]
    exact congrArg (· ++ _) hlog
  | @write w _ hw _ _ ih =>
    obtain ⟨statement, hstatement⟩ := hw
    have hlog := Tables.texts_batch hquiet (show [w].map _ = [statement].map _ from congrArg (fun x => [x]) hstatement)
    simp only [history, run, List.flatMap_cons, Exchange.ask, Ask.texts, Ask.statements_write hstatement]
    refine (ih _ (Tables.write_quiet hquiet w) source).trans ?_
    rw [← List.append_assoc]
    refine congrArg (· ++ _) ?_
    rw [← hlog, ← Tables.write_eq_batch]
  | @batch ws _ hne hws _ _ ih =>
    obtain ⟨statements, hstatements⟩ := Write.exists_statements hws
    have hlog := Tables.texts_batch hquiet hstatements
    simp only [history, run, List.flatMap_cons, Exchange.ask, Ask.texts, Ask.statements_batch hstatements]
    refine (ih _ (Tables.batch_quiet hquiet ws) source).trans ?_
    rw [← List.append_assoc]
    exact congrArg (· ++ _) hlog

/-- A database whose replies answer the requests of a run as a store did makes the flow ask the same and end alike. -/
theorem run_replayed (h : flow.Prudent ended) {store : Store σ} {state : σ} {source : Entropy} {remote : Remote}
    (hbound : remote.bindFault? = none) (hanswers : remote.Answers (flow.history store state source)) :
    flow.history Remote.store remote source = flow.history store state source ∧
      (flow.run Remote.store remote source).1 = (flow.run store state source).1 ∧
      (flow.run Remote.store remote source).2.2 = (flow.run store state source).2.2 := by
  induction h generalizing state remote source with
  | done result => exact ⟨rfl, rfl, rfl⟩
  | random _ ih => exact ih _ hbound hanswers
  | @select plan _ _ _ _ ih =>
    obtain ⟨hx, hleft⟩ := (answers_cons .all [plan.selectStatement]).1 hanswers
    have hrest := ih _ (show (remote.tripped .all [plan.selectStatement]).bindFault? = none from hbound) hleft
    simp only [history, run, select_of_bound hbound]
    rw [← show _ = replied _ from hx]
    exact ⟨congrArg _ hrest.1, hrest.2⟩
  | write hw _ _ ih =>
    obtain ⟨statement, hstatement⟩ := hw
    obtain ⟨hx, hleft⟩ := (answers_cons .run [statement]).1 hanswers
    have hrest := ih _ (show (remote.tripped .run [statement]).bindFault? = none from hbound) hleft
    simp only [history, run, write_of_bound hbound hstatement]
    rw [← show _ = (replied _).map _ from hx]
    exact ⟨congrArg _ hrest.1, hrest.2⟩
  | batch hne hws _ _ ih =>
    obtain ⟨statements, hstatements⟩ := Write.exists_statements hws
    obtain ⟨hx, hleft⟩ := (answers_cons .batch statements).1 hanswers
    have hrest := ih _ (show (remote.tripped .batch statements).bindFault? = none from hbound) hleft
    simp only [history, run, batch_of_bound hbound hne hstatements]
    rw [← show _ = (replied _).map _ from hx]
    exact ⟨congrArg _ hrest.1, hrest.2⟩

end Flow

end Taskboard
