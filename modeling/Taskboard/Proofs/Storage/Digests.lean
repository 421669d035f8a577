/-
Digests out of sight. A row of an agent is masked when null stands for the digest of its token, and tables are when
all rows of agents are. Whatever does not speak of digests finds the same on masked tables: conditions hold alike
(`holds_masked`), queries give the same rows, masked (`answer_masked`), agents are read alike but for their digests
(`decodeAll_masked`), and writes log the same texts and leave the same tables, masked (`batch_masked`). So states that
are equal but for digests (`AlikeButDigests`) stay so, whatever is asked of both of them.
-/
import Taskboard.Proofs.Storage.Records
import Taskboard.Proofs.Storage.Savings

namespace Taskboard

/-- The column of the digest of an agent's token. -/
def Agent.digestColumn : String := "agent_token_hash"

/-- A column that holds no digest. -/
def Visible (table name : String) : Prop :=
  table = "agents" → name ≠ Agent.digestColumn

namespace Record

/-- A row of a table without its digest. -/
def masked (table : String) (row : Record) : Record :=
  row.map fun column => (column.1, if table = "agents" ∧ column.1 = Agent.digestColumn then .null else column.2)

/-- The digest that a row of a table has, if it has one, is a text or null. -/
def Digested (table : String) (row : Record) : Prop :=
  table = "agents" → (row.optionalText? Agent.digestColumn).isSome

variable {table name : String} (row : Record)

theorem lookup_masked : (row.masked table).lookup name =
    (row.lookup name).map fun value => if table = "agents" ∧ name = Agent.digestColumn then .null else value := by
  induction row with
  | nil => rfl
  | cons column row ih =>
    obtain ⟨key, value⟩ := column
    rw [lookup_cons]
    unfold masked at ih ⊢
    rw [List.map_cons, lookup_cons, ih]
    split
    · rename_i hkey
      rw [hkey]
      rfl
    · rfl

theorem lookup_masked_of_visible (h : Visible table name) : (row.masked table).lookup name = row.lookup name := by
  rw [lookup_masked]
  have hother : ¬ (table = "agents" ∧ name = Agent.digestColumn) := fun ⟨htable, hname⟩ => h htable hname
  simp only [if_neg hother, Option.map_id']

theorem value?_masked (h : Visible table name) : (row.masked table).value? name = row.value? name := by
  rw [value?, value?, lookup_masked_of_visible row h]

/-- Tables of other kinds hold no digests. -/
theorem masked_of_other (h : table ≠ "agents") : row.masked table = row := by
  unfold masked
  have hother : ∀ name, ¬ (table = "agents" ∧ name = Agent.digestColumn) := fun name hname => h hname.1
  simp only [if_neg (hother _), List.map_id']

end Record

/-! ## Conditions and sort terms -/

namespace Predicate

variable {table : String} (row : Record)

mutual

/-- A condition that does not speak of the digest holds of a masked row as it holds of the row. -/
theorem holds_masked (p : Predicate) (h : ∀ name ∈ p.fields, Visible table name) :
    p.holds (row.masked table) = p.holds row := by
  cases p with
  | never => rfl
  | all parts => exact allHold_masked parts h
  | any parts => exact anyHolds_masked parts h
  | equals field | differs field | among field | missing field | present field =>
    simp only [holds, Record.value?_masked row (h field (List.mem_singleton.2 rfl))]

theorem allHold_masked (parts : List Predicate) (h : ∀ name ∈ fieldsOfParts parts, Visible table name) :
    allHold (row.masked table) parts = allHold row parts := by
  cases parts with
  | nil => rfl
  | cons part rest =>
    rw [fieldsOfParts, List.forall_mem_append] at h
    rw [allHold, allHold, holds_masked part h.1, allHold_masked rest h.2]

theorem anyHolds_masked (parts : List Predicate) (h : ∀ name ∈ fieldsOfParts parts, Visible table name) :
    anyHolds (row.masked table) parts = anyHolds row parts := by
  cases parts with
  | nil => rfl
  | cons part rest =>
    rw [fieldsOfParts, List.forall_mem_append] at h
    rw [anyHolds, anyHolds, holds_masked part h.1, anyHolds_masked rest h.2]

end

end Predicate

/-- A plan that does not speak of digests. -/
def Plan.Discreet (plan : Plan) : Prop :=
  ∀ name ∈ plan.fields, Visible plan.schema.table name

namespace Tables

/-- Tables without digests. -/
def masked (tables : Tables) : Tables :=
  { tables with rows := fun table => (tables.rows table).map (Record.masked table) }

/-- Every digest is a text or null. -/
def Digested (tables : Tables) : Prop :=
  ∀ table, ∀ row ∈ tables.rows table, row.Digested table

theorem compareRows_masked {table : String} {terms : List SortTerm}
    (h : ∀ term ∈ terms, Visible table term.field) (a b : Record) :
    compareRows terms (a.masked table) (b.masked table) = compareRows terms a b := by
  induction terms with
  | nil => rfl
  | cons term terms ih =>
    obtain ⟨hterm, hrest⟩ := List.forall_mem_cons.1 h
    simp only [compareRows, compareBy, Record.valueOrNull, Record.lookup_masked_of_visible _ hterm, ih hrest]

variable (s : Tables)

/-- A plan that does not speak of digests is answered by the same rows, masked. -/
theorem answer_masked {plan : Plan} (h : plan.Discreet) :
    s.masked.answer plan = (s.answer plan).map (Record.masked plan.schema.table) := by
  obtain ⟨hparts, hterms⟩ := List.forall_mem_append.1 h
  have hmeeting : s.masked.rowsMeeting plan = (s.rowsMeeting plan).map (Record.masked plan.schema.table) := by
    show ((s.rows plan.schema.table).map _).filter _ = _
    rw [List.filter_map]
    refine congrArg _ (List.filter_congr fun row _ => ?_)
    exact Predicate.allHold_masked row plan.predicates hparts
  have hsorted : sorted plan.sortTerms (s.masked.rowsMeeting plan) =
      (sorted plan.sortTerms (s.rowsMeeting plan)).map (Record.masked plan.schema.table) := by
    rw [hmeeting]
    refine (List.map_mergeSort fun a _ b _ => ?_).symm
    rw [compareRows_masked fun term hterm => hterms _ (List.mem_map_of_mem hterm)]
  unfold answer
  rw [hsorted]
  unfold bounded
  split <;> simp only [List.map_drop, List.map_take]

end Tables

/-! ## Writes -/

namespace Write

/-- A write without its digest. -/
def masked (w : Write) : Write :=
  { w with row := w.row.masked w.schema.table }

/-- A write whose digest, if it has one, is a text or null, and does not identify the row. -/
structure Discreet (w : Write) : Prop where
  id : Visible w.schema.table w.schema.idField
  digested : w.row.Digested w.schema.table

theorem columns_masked (schema : Schema) (row : Record) : schema.columns (row.masked schema.table) =
    (schema.columns row).map fun column =>
      (column.1, if schema.table = "agents" ∧ column.1 = Agent.digestColumn then .null else column.2) := by
  unfold Schema.columns
  rw [List.map_filterMap]
  refine List.filterMap_congr fun field _ => ?_
  rw [Record.lookup_masked]
  cases row.lookup field <;> rfl

/-- Values do not show in assignments. -/
theorem assignments_map (f : String × Json → Json) (columns : List (String × Json)) (bound : Nat) :
    assignments bound (columns.map fun column => (column.1, f column)) = assignments bound columns := by
  induction columns generalizing bound with
  | nil => rfl
  | cons column columns ih =>
    rw [List.map_cons, assignments, assignments, ih]

/-- The text of a write does not show its digest. -/
theorem text_masked {w : Write} (h : w.Discreet) :
    w.masked.statement.map Statement.text = w.statement.map Statement.text := by
  obtain ⟨kind, schema, row⟩ := w
  cases kind with
  | insert =>
    show (insertStatement schema (row.masked schema.table)).map _ = (insertStatement schema row).map _
    unfold insertStatement
    rw [columns_masked]
    cases schema.columns row with
    | nil => rfl
    | cons column columns =>
      simp only [List.map_cons, List.map_map, List.length_cons, List.length_map]
      rfl
  | update =>
    show (updateStatement schema (row.masked schema.table)).map _ = (updateStatement schema row).map _
    unfold updateStatement
    rw [Record.value?_masked row h.id]
    have hcolumns : updatedColumns schema (row.masked schema.table) = (updatedColumns schema row).map fun column =>
        (column.1, if schema.table = "agents" ∧ column.1 = Agent.digestColumn then .null else column.2) := by
      unfold updatedColumns
      rw [columns_masked, List.filter_map]
      rfl
    rw [hcolumns]
    cases row.value? schema.idField with
    | none => rfl
    | some id =>
      simp only [assignments_map, List.length_map]
      rfl

end Write

namespace Tables

variable (s : Tables)

theorem log_masked (call : Call) : s.masked.log call = ((s.log call).1, (s.log call).2.masked) := by
  obtain ⟨rows, calls, _ | fault⟩ := s
  · rfl
  · unfold log masked
    dsimp only
    split <;> rfl

theorem logWrite_masked {w : Write} (h : w.Discreet) :
    s.masked.logWrite w.masked = ((s.logWrite w).1, (s.logWrite w).2.masked) := by
  have htext := Write.text_masked h
  unfold logWrite
  rcases hmasked : w.masked.statement with e | statement <;> rcases hstatement : w.statement with e' | statement' <;>
    rw [hmasked, hstatement] at htext
  · cases htext
    rfl
  · cases htext
  · cases htext
  · have hsame : statement.text = statement'.text := Except.ok.inj htext
    dsimp only
    rw [hsame]
    exact s.log_masked _

theorem replaceFirst_masked {table idField : String} (h : Visible table idField) (id : Json) (row : Record)
    (rows : List Record) : (replaceFirst idField id row rows).map (Record.masked table) =
      replaceFirst idField id (row.masked table) (rows.map (Record.masked table)) := by
  induction rows with
  | nil => rfl
  | cons stored rows ih =>
    rw [List.map_cons]
    unfold replaceFirst
    rw [Record.lookup_masked_of_visible stored h]
    split
    · rfl
    · rw [List.map_cons, ih]

theorem masked_setRows (table : String) (rows : List Record) :
    (s.setRows table rows).masked = s.masked.setRows table (rows.map (Record.masked table)) := by
  unfold masked setRows
  refine congrArg (fun rows => (⟨rows, s.calls, s.fault?⟩ : Tables)) (funext fun name => ?_)
  dsimp only
  split
  · rename_i hname
    rw [hname]
  · rfl

theorem masked_carryOut {w : Write} (h : w.Discreet) : (s.carryOut w).masked = s.masked.carryOut w.masked := by
  obtain ⟨kind, schema, row⟩ := w
  cases kind with
  | insert => exact (s.masked_setRows _ _).trans (congrArg (s.masked.setRows _) List.map_append)
  | update =>
    unfold carryOut
    dsimp only [Write.masked]
    rw [Record.lookup_masked_of_visible row h.id]
    cases row.lookup schema.idField with
    | none => rfl
    | some id => exact (s.masked_setRows _ _).trans (congrArg (s.masked.setRows _) (replaceFirst_masked h.id id row _))

theorem masked_carryOuts {writes : List Write} (h : ∀ w ∈ writes, w.Discreet) :
    (writes.foldl carryOut s).masked = (writes.map Write.masked).foldl carryOut s.masked := by
  induction writes generalizing s with
  | nil => rfl
  | cons w writes ih =>
    obtain ⟨hw, hrest⟩ := List.forall_mem_cons.1 h
    rw [List.foldl_cons, List.map_cons, List.foldl_cons, ← s.masked_carryOut hw]
    exact ih _ hrest

/-! ## Round trips -/

theorem logWrites_masked {writes : List Write} (h : ∀ w ∈ writes, w.Discreet) :
    s.masked.logWrites (writes.map Write.masked) = ((s.logWrites writes).1, (s.logWrites writes).2.masked) := by
  induction writes generalizing s with
  | nil => rfl
  | cons w writes ih =>
    obtain ⟨hw, hrest⟩ := List.forall_mem_cons.1 h
    rw [List.map_cons, logWrites, logWrites, s.logWrite_masked hw]
    rcases s.logWrite w with ⟨e | _, logged⟩
    · rfl
    · exact ih logged hrest

theorem batch_masked {writes : List Write} (h : ∀ w ∈ writes, w.Discreet) :
    s.masked.batch (writes.map Write.masked) = ((s.batch writes).1, (s.batch writes).2.masked) := by
  unfold batch
  rw [s.logWrites_masked h]
  rcases s.logWrites writes with ⟨e | _, logged⟩
  · rfl
  · exact congrArg (Prod.mk _) (logged.masked_carryOuts h).symm

variable {s}

theorem Digested.congr {t : Tables} (h : s.Digested) (hrows : t.rows = s.rows) : t.Digested :=
  fun table row hrow => h table row (hrows ▸ hrow)

theorem Digested.batch {writes : List Write} (h : s.Digested) (hwrites : ∀ w ∈ writes, w.Discreet) :
    (s.batch writes).2.Digested := by
  rcases rows_batch writes s with hrows | hrows
  · exact h.congr hrows
  · intro table row hrow
    rw [hrows] at hrow
    rcases mem_of_mem_carryOuts hrow with hstored | ⟨w, hw, rfl, rfl⟩
    · exact h _ row hstored
    · exact (hwrites w hw).digested

end Tables

/-! ## Agents -/

/-- An agent without its digest. -/
def Agent.masked (agent : Agent) : Agent :=
  { agent with tokenHash? := none }

theorem Agent.masked_of_digest (agent : Agent) (digest? : Option String) :
    Agent.masked { agent with tokenHash? := digest? } = agent.masked :=
  rfl

theorem Agent.eq_of_masked {agent other : Agent} (h : agent.masked = other.masked) :
    ∃ digest?, other = { agent with tokenHash? := digest? } := by
  obtain ⟨id, boardId?, name, status, isBoardLead, digest?, lastSeenAt?, createdAt, updatedAt⟩ := agent
  obtain ⟨id', boardId?', name', status', isBoardLead', digest?', lastSeenAt?', createdAt', updatedAt'⟩ := other
  cases h
  exact ⟨digest?', rfl⟩

/-- A masked row stands for the agent that the row stands for, but for the digest. -/
theorem Agent.decode?_masked {row : Record} (h : row.Digested "agents") :
    Agent.model.decode? (.object (row.masked "agents")) = (Agent.model.decode? (.object row)).map Agent.masked := by
  obtain ⟨digest?, hdigest⟩ := Option.isSome_iff_exists.1 (h rfl)
  have hlookup : ∀ name ≠ digestColumn, (row.masked "agents").lookup name = row.lookup name :=
    fun name hname => row.lookup_masked_of_visible fun _ => hname
  have hnull : (row.masked "agents").optionalText? digestColumn = some none := by
    have hvalue : (row.masked "agents").value? digestColumn = none := by
      rw [Record.value?, Record.lookup_masked]
      cases row.lookup digestColumn <;> rfl
    rw [Record.optionalText?, Record.optional?, hvalue]
  have htext : ∀ name ≠ digestColumn, (row.masked "agents").text? name = row.text? name := fun name hname => by
    rw [Record.text?, Record.text?, hlookup name hname]
  have hoptional : ∀ name ≠ digestColumn, (row.masked "agents").optionalText? name = row.optionalText? name :=
    fun name hname => by
      rw [Record.optionalText?, Record.optional?, Record.value?, hlookup name hname]
      rfl
  have hflag : (row.masked "agents").flag? "is_board_lead" = row.flag? "is_board_lead" := by
    rw [Record.flag?, Record.flag?, hlookup _ (by decide)]
  show ofRecord? (row.masked "agents") = (ofRecord? row).map masked
  unfold ofRecord?
  rw [htext "id" (by decide), htext "name" (by decide), htext "status" (by decide), htext "created_at" (by decide),
    htext "updated_at" (by decide), hoptional "board_id" (by decide), hoptional "last_seen_at" (by decide), hflag,
    show (row.masked "agents").optionalText? "agent_token_hash" = some none from hnull,
    show row.optionalText? "agent_token_hash" = some digest? from hdigest]
  simp only [Option.bind_eq_bind, Option.pure_def, Option.map_bind, Option.bind_some, Function.comp_def]
  rfl

/-- Masked rows stand for the agents that the rows stand for, but for the digests. -/
theorem Agent.decodeAll_masked {rows : List Record} (h : ∀ row ∈ rows, row.Digested "agents") :
    Agent.model.decodeAll ((rows.map (Record.masked "agents")).map .object) =
      (Agent.model.decodeAll (rows.map .object)).map (List.map Agent.masked) := by
  have hall : ((rows.map (Record.masked "agents")).map Json.object).mapM Agent.model.decode? =
      ((rows.map Json.object).mapM Agent.model.decode?).map (List.map Agent.masked) := by
    induction rows with
    | nil => rfl
    | cons row rows ih =>
      obtain ⟨hrow, hrest⟩ := List.forall_mem_cons.1 h
      simp only [List.map_cons, List.mapM_cons, decode?_masked hrow, ih hrest]
      cases Agent.model.decode? (.object row) with
      | none => rfl
      | some agent => cases (rows.map Json.object).mapM Agent.model.decode? <;> rfl
  unfold Model.decodeAll
  rw [hall]
  cases (rows.map Json.object).mapM Agent.model.decode? <;> rfl

/-- What is saved of an entity is not identified by its digest, which is a text or null. -/
theorem Saving.discreet (saving : Saving) : saving.write.Discreet where
  id _ := by
    show saving.entity.model.schema.idField ≠ _
    rw [saving.entity.idField_eq]
    decide
  digested := by
    obtain ⟨kind, entity, value⟩ := saving
    intro htable
    obtain rfl : entity = .agent := Entity.table_injective htable
    exact Option.isSome_of_eq_some (Record.optionalText?_of_lookup rfl)

/-! ## Equal but for digests -/

/-- Rows of a table that are equal but for digests, each of which is a text or null. -/
structure Record.AllAlike (table : String) (rows rows' : List Record) : Prop where
  digested : (∀ row ∈ rows, row.Digested table) ∧ ∀ row ∈ rows', row.Digested table
  masked : rows.map (Record.masked table) = rows'.map (Record.masked table)

theorem Record.AllAlike.eq {table : String} {rows rows' : List Record} (h : AllAlike table rows rows')
    (hother : table ≠ "agents") : rows = rows' := by
  have hid : ∀ rows : List Record, rows.map (Record.masked table) = rows := fun rows => by
    rw [List.map_congr_left fun row _ => row.masked_of_other hother, List.map_id']
  rw [← hid rows, h.masked, hid]

namespace Tables

/-- Two states that are equal but for digests, each of which is a text or null. -/
structure AlikeButDigests (s t : Tables) : Prop where
  digested : s.Digested ∧ t.Digested
  masked : s.masked = t.masked

namespace AlikeButDigests

variable {s t : Tables} (h : AlikeButDigests s t)
include h

/-- A round trip fails in both states or is logged in both. -/
theorem log (call : Call) : (s.log call).1 = (t.log call).1 ∧ AlikeButDigests (s.log call).2 (t.log call).2 := by
  have hlog := congrArg (fun tables => tables.log call) h.masked
  simp only [log_masked, Prod.mk.injEq] at hlog
  exact ⟨hlog.1, ⟨h.digested.1.congr (log_rows s call), h.digested.2.congr (log_rows t call)⟩, hlog.2⟩

/-- A plan that does not speak of digests is answered alike. -/
theorem answer {plan : Plan} (hplan : plan.Discreet) :
    Record.AllAlike plan.schema.table (s.answer plan) (t.answer plan) := by
  refine ⟨⟨fun row hrow => ?_, fun row hrow => ?_⟩, ?_⟩
  · exact h.digested.1 _ row (mem_of_mem_answer hrow).1
  · exact h.digested.2 _ row (mem_of_mem_answer hrow).1
  · rw [← answer_masked s hplan, ← answer_masked t hplan, h.masked]

/-- Writes that are equal but for digests leave states that are. -/
theorem batch {writes writes' : List Write} (hwrites : ∀ w ∈ writes, w.Discreet) (hwrites' : ∀ w ∈ writes', w.Discreet)
    (hmasked : writes.map Write.masked = writes'.map Write.masked) :
    (s.batch writes).1 = (t.batch writes').1 ∧ AlikeButDigests (s.batch writes).2 (t.batch writes').2 := by
  have hbatch : s.masked.batch (writes.map Write.masked) = t.masked.batch (writes'.map Write.masked) := by
    rw [h.masked, hmasked]
  rw [batch_masked s hwrites, batch_masked t hwrites', Prod.mk.injEq] at hbatch
  exact ⟨hbatch.1, ⟨h.digested.1.batch hwrites, h.digested.2.batch hwrites'⟩, hbatch.2⟩

end AlikeButDigests

end Tables

end Taskboard
