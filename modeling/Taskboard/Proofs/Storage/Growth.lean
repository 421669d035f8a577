/-
Tables that only grow. A row is replaced only by one that keeps what lasts of it, its identifier, its
board, its keys and its wording (`Renewal`), and a row is added only with a new identifier (`Arrival`). Then
every row of before is kept (`Extends`) and identifiers stay unique (`Grows.intact`), and so do keys when those
of the added rows are new (`Grows.uniqueKeys`).
-/
import Taskboard.Proofs.Storage.Changes
import Taskboard.Proofs.Text.Trim

namespace Taskboard

/-! ## What lasts of a row -/

namespace Entity

/-- The keys of a kind, each a list of columns: no two rows agree on a key. -/
def uniqueKeys : Entity → List (List String)
  | .board => [["slug"]]
  | .agent => [["board_id", "name"], ["agent_token_hash"]]
  | .task | .comment | .approval | .memory | .session => []

/-- The column of a kind in which a caller says what the row is about. -/
def wording? : Entity → Option String
  | .comment => some "message"
  | .agent => some "name"
  | .approval => some "action_type"
  | .memory => some "content"
  | .board | .task | .session => none

/-- The columns that stay as they are as long as a row is there. -/
def lasting (entity : Entity) : List String :=
  "id" :: "board_id" :: (entity.uniqueKeys.flatten ++ entity.wording?.toList)

/-- A row in the place of another has the same lasting columns. -/
def Keeps (entity : Entity) (old row : Record) : Prop :=
  ∀ column ∈ entity.lasting, row.value? column = old.value? column

/-- A row whose wording is trimmed and not empty. -/
def Worded (entity : Entity) (row : Record) : Prop :=
  ∃ column text, entity.wording? = some column ∧ row.text? column = some text ∧ Text.Trimmed text

end Entity

/-- The texts of some columns; none when one of them holds no text. -/
def Record.key? (columns : List String) (row : Record) : Option (List String) :=
  columns.mapM row.text?

theorem Record.key?_single_iff {row : Record} {column text : String} :
    row.key? [column] = some [text] ↔ row.text? column = some text := by
  simp [key?, Option.bind_eq_some_iff]

theorem Record.key?_pair_iff {row : Record} {first second text other : String} :
    row.key? [first, second] = some [text, other] ↔ row.text? first = some text ∧ row.text? second = some other := by
  simp [key?, Option.bind_eq_some_iff]

namespace Entity

variable {entity : Entity} {old mid row : Record}

namespace Keeps

theorem refl (entity : Entity) (row : Record) : entity.Keeps row row :=
  fun _ _ => rfl

theorem trans (h : entity.Keeps old mid) (h' : entity.Keeps mid row) : entity.Keeps old row :=
  fun column hcolumn => (h' column hcolumn).trans (h column hcolumn)

variable (h : entity.Keeps old row)
include h

theorem text? {column : String} (hcolumn : column ∈ entity.lasting) : row.text? column = old.text? column :=
  Record.text?_congr (h column hcolumn)

theorem id : row.text? "id" = old.text? "id" :=
  h.text? (List.mem_cons_self ..)

theorem board : row.text? "board_id" = old.text? "board_id" :=
  h.text? (List.mem_cons_of_mem _ (List.mem_cons_self ..))

theorem key? {key : List String} (hkey : key ∈ entity.uniqueKeys) : row.key? key = old.key? key := by
  have hcolumns : ∀ column ∈ key, row.text? column = old.text? column := by
    intro column hcolumn
    refine h.text? (List.mem_cons_of_mem _ (List.mem_cons_of_mem _ (List.mem_append_left _ ?_)))
    exact List.mem_flatten.2 ⟨key, hkey, hcolumn⟩
  clear hkey
  unfold Record.key?
  induction key with
  | nil => rfl
  | cons column rest ih =>
    rw [List.forall_mem_cons] at hcolumns
    rw [List.mapM_cons, List.mapM_cons, hcolumns.1, ih hcolumns.2]

theorem worded (hworded : entity.Worded old) : entity.Worded row := by
  obtain ⟨column, text, hwording, htext, htrimmed⟩ := hworded
  have hcolumn : column ∈ entity.lasting := by
    refine List.mem_cons_of_mem _ (List.mem_cons_of_mem _ (List.mem_append_right _ ?_))
    exact Option.mem_toList.2 hwording
  exact ⟨column, text, hwording, (h.text? hcolumn).trans htext, htrimmed⟩

end Keeps

end Entity

/-! ## Rows that are written in the place of others -/

theorem Task.keeps {row : Record} {task changed : Task} (h : Task.ofRecord? row = some task)
    (hid : changed.id = task.id) (hboard : changed.boardId? = task.boardId?) :
    Entity.task.Keeps row changed.record := by
  have hlasting : ∀ column ∈ ["id", "board_id"], changed.record.value? column = row.value? column := by
    simp only [List.forall_mem_cons, List.not_mem_nil, false_implies, implies_true, and_true]
    constructor
    · rw [task.value?_of_ofRecord? h "id" (by decide)]
      exact congrArg (fun id => some (Json.string id)) hid
    · rw [task.value?_of_ofRecord? h "board_id" (by decide), Record.value?_of_lookup rfl, hboard]
      exact (Record.value?_of_lookup rfl).symm
  exact hlasting

theorem OnboardingSession.keeps {row : Record} {session changed : OnboardingSession}
    (h : OnboardingSession.ofRecord? row = some session) (hid : changed.id = session.id)
    (hboard : changed.boardId = session.boardId) : Entity.session.Keeps row changed.record := by
  have hlasting : ∀ column ∈ ["id", "board_id"], changed.record.value? column = row.value? column := by
    simp only [List.forall_mem_cons, List.not_mem_nil, false_implies, implies_true, and_true]
    constructor
    · rw [session.value?_of_ofRecord? h "id" (by decide)]
      exact congrArg (fun id => some (Json.string id)) hid
    · rw [session.value?_of_ofRecord? h "board_id" (by decide)]
      exact congrArg (fun id => some (Json.string id)) hboard
  exact hlasting

/-- An agent keeps what lasts of it when all that changes is its status, its flag or a time. -/
theorem Agent.keeps {row : Record} {agent changed : Agent} (h : Agent.ofRecord? row = some agent)
    (hid : changed.id = agent.id) (hboard : changed.boardId? = agent.boardId?) (hname : changed.name = agent.name)
    (htoken : changed.tokenHash? = agent.tokenHash?) : Entity.agent.Keeps row changed.record := by
  have hlasting : ∀ column ∈ ["id", "board_id", "name", "agent_token_hash"],
      changed.record.value? column = row.value? column := by
    simp only [List.forall_mem_cons, List.not_mem_nil, false_implies, implies_true, and_true]
    refine ⟨?_, ?_, ?_, ?_⟩
    · rw [agent.value?_of_ofRecord? h "id" (by decide)]
      exact congrArg (fun id => some (Json.string id)) hid
    · rw [agent.value?_of_ofRecord? h "board_id" (by decide), Record.value?_of_lookup rfl, hboard]
      exact (Record.value?_of_lookup rfl).symm
    · rw [agent.value?_of_ofRecord? h "name" (by decide)]
      exact congrArg (fun name => some (Json.string name)) hname
    · rw [agent.value?_of_ofRecord? h "agent_token_hash" (by decide), Record.value?_of_lookup rfl, htoken]
      exact (Record.value?_of_lookup rfl).symm
  have hsubset : ∀ column ∈ Entity.agent.lasting, column ∈ ["id", "board_id", "name", "agent_token_hash"] := by
    decide
  exact fun column hcolumn => hlasting column (hsubset column hcolumn)

namespace Tables

variable {s t u : Tables} {entity other : Entity} {id : String} {old row : Record}

/-! ## Growth -/

/-- Every row of before is there, or one that keeps what lasts of it. -/
def Extends (s t : Tables) : Prop :=
  ∀ entity : Entity, ∀ row ∈ s.rows entity.table, ∃ row' ∈ t.rows entity.table, entity.Keeps row row'

namespace Extends

theorem refl (s : Tables) : Extends s s :=
  fun entity row hrow => ⟨row, hrow, .refl entity row⟩

theorem trans (h : Extends s t) (h' : Extends t u) : Extends s u := by
  intro entity row hrow
  obtain ⟨mid, hmid, hkeeps⟩ := h entity row hrow
  obtain ⟨row', hrow', hkeeps'⟩ := h' entity mid hmid
  exact ⟨row', hrow', hkeeps.trans hkeeps'⟩

theorem congr (h : Extends s t) (hrows : u.rows = t.rows) : Extends s u :=
  fun entity row hrow => hrows ▸ h entity row hrow

theorem places {board? : Option String} (h : Extends s t) (hplace : s.Places entity.table id board?) :
    t.Places entity.table id board? := by
  obtain ⟨row, hrow, hid, hboard⟩ := hplace
  obtain ⟨row', hrow', hkeeps⟩ := h entity row hrow
  exact ⟨row', hrow', hkeeps.id.trans hid, hkeeps.board.trans hboard⟩

theorem has (h : Extends s t) (hhas : s.Has entity.table id) : t.Has entity.table id := by
  obtain ⟨board?, hplace⟩ := has_iff_places.1 hhas
  exact (h.places hplace).has

end Extends

/-- No two rows of a kind agree on one of its keys. -/
def UniqueKeys (tables : Tables) : Prop :=
  ∀ entity : Entity, ∀ key ∈ entity.uniqueKeys,
    ((tables.rows entity.table).filterMap (Record.key? key)).Nodup

theorem UniqueKeys.congr (h : s.UniqueKeys) (hrows : t.rows = s.rows) : t.UniqueKeys :=
  fun entity => hrows ▸ h entity

/-- A row with keys that no stored row has. -/
def KeysNew (tables : Tables) (entity : Entity) (row : Record) : Prop :=
  ∀ key ∈ entity.uniqueKeys, ∀ texts, row.key? key = some texts →
    ∀ stored ∈ tables.rows entity.table, stored.key? key ≠ some texts

theorem keysNew_of_keyless (hkeyless : entity.uniqueKeys = []) : s.KeysNew entity row := by
  intro key hkey
  rw [hkeyless] at hkey
  cases hkey

/-- The rows that writes add have new keys. -/
def AddsNewKeys (tables : Tables) (writes : List Write) : Prop :=
  ∀ entity row, ⟨.insert, entity.model.schema, row⟩ ∈ writes → tables.KeysNew entity row

/-- A write that puts a row in the place of one of which it keeps what lasts. -/
inductive Renewal (s : Tables) : Write → Prop
  | update (entity : Entity) {id : String} {old row : Record} (hold : old ∈ s.rows entity.table)
    (hid : old.text? "id" = some id) (hkeeps : entity.Keeps old row) :
    Renewal s ⟨.update, entity.model.schema, row⟩

/-- A write that adds a row with a new identifier and with trimmed wording. -/
inductive Arrival (s : Tables) : Write → Prop
  | insert (entity : Entity) {id : String} {row : Record} (hid : row.text? "id" = some id) (hnew : s.IsNew id)
    (hworded : entity.Worded row) : Arrival s ⟨.insert, entity.model.schema, row⟩

/-- Writes of a request: at most one that renews a row, and behind it at most one that adds a row. -/
inductive Grows (s : Tables) : List Write → Prop
  | nothing : Grows s []
  | renew {w : Write} (h : Renewal s w) : Grows s [w]
  | add {w : Write} (h : Arrival s w) : Grows s [w]
  | renewAndAdd {w v : Write} (h : Renewal s w) (h' : Arrival s v) : Grows s [w, v]

/-! ## Rows behind writes -/

theorem mem_of_mem_replaceFirst {idField : String} {value : Json} {rows : List Record} {stored : Record}
    (h : stored ∈ replaceFirst idField value row rows) : stored ∈ rows ∨ stored = row := by
  induction rows with
  | nil => cases h
  | cons first rest ih =>
    unfold replaceFirst at h
    split at h
    · rcases List.mem_cons.1 h with rfl | hrest
      · exact .inr rfl
      · exact .inl (List.mem_cons_of_mem _ hrest)
    · rcases List.mem_cons.1 h with rfl | hrest
      · exact .inl (List.mem_cons_self ..)
      · exact (ih hrest).imp (List.mem_cons_of_mem _) id

/-- A row behind a write was there before, or is the row of the write. -/
theorem mem_of_mem_carryOut {w : Write} {table : String} {stored : Record}
    (h : stored ∈ (s.carryOut w).rows table) :
    stored ∈ s.rows table ∨ (table = w.schema.table ∧ stored = w.row) := by
  by_cases htable : table = w.schema.table
  · subst htable
    obtain ⟨kind, schema, row⟩ := w
    cases kind with
    | insert =>
      rw [rows_carryOut_insert, List.mem_append, List.mem_singleton] at h
      exact h.imp id fun hrow => ⟨rfl, hrow⟩
    | update =>
      unfold carryOut at h
      dsimp only at h
      split at h
      · simp only [setRows, if_true] at h
        exact (mem_of_mem_replaceFirst h).imp id fun hrow => ⟨rfl, hrow⟩
      · exact .inl h
  · rw [rows_carryOut_of_ne htable] at h
    exact .inl h

theorem mem_of_mem_carryOuts {writes : List Write} {table : String} {stored : Record}
    (h : stored ∈ (writes.foldl carryOut s).rows table) :
    stored ∈ s.rows table ∨ ∃ w ∈ writes, table = w.schema.table ∧ stored = w.row := by
  induction writes generalizing s with
  | nil => exact .inl h
  | cons w rest ih =>
    rcases ih h with hmid | ⟨v, hv, htable, hrow⟩
    · rcases mem_of_mem_carryOut hmid with hstored | ⟨htable, hrow⟩
      · exact .inl hstored
      · exact .inr ⟨w, List.mem_cons_self .., htable, hrow⟩
    · exact .inr ⟨v, List.mem_cons_of_mem _ hv, htable, hrow⟩

/-! ## Renewals -/

namespace Renewal

variable {w : Write} (hunique : s.UniqueIds) (h : Renewal s w)
include hunique h

/-- What is read off the lasting columns is the same in every table, row by row. -/
theorem filterMap_eq {β : Type} {read : Record → Option β}
    (hread : ∀ {old row}, other.Keeps old row → read row = read old) :
    ((s.carryOut w).rows other.table).filterMap read = (s.rows other.table).filterMap read := by
  obtain ⟨entity, hold, hid, hkeeps⟩ := h
  by_cases hother : other = entity
  · subst hother
    rw [rows_updated hunique (hkeeps.id.trans hid), List.filterMap_map]
    refine List.filterMap_congr fun stored hstored => ?_
    rw [Function.comp_apply]
    unfold Record.replacedBy
    split
    · -- The row that is replaced is the one that the new row keeps the columns of.
      rename_i hsame
      rw [eq_of_nodup_filterMap (hunique other) hold hstored hid hsame]
      exact hread hkeeps
    · rfl
  · rw [rows_of_other hother]

theorem uniqueIds : (s.carryOut w).UniqueIds := fun entity => by
  rw [filterMap_eq hunique h fun hkeeps => hkeeps.id]
  exact hunique entity

theorem uniqueKeys (hkeys : s.UniqueKeys) : (s.carryOut w).UniqueKeys := fun entity key hkey => by
  rw [filterMap_eq hunique h fun hkeeps => hkeeps.key? hkey]
  exact hkeys entity key hkey

/-- What is read off the lasting columns of a row is read off a row of before. -/
theorem exists_before {β : Type} {read : Record → Option β} (hread : ∀ {old row}, other.Keeps old row → read row = read old)
    {stored : Record} (hstored : stored ∈ (s.carryOut w).rows other.table) {x : β} (hx : read stored = some x) :
    ∃ before ∈ s.rows other.table, read before = some x := by
  have hmem := List.mem_filterMap.2 ⟨stored, hstored, hx⟩
  rw [filterMap_eq hunique h hread] at hmem
  exact List.mem_filterMap.1 hmem

theorem isNew (hnew : s.IsNew id) : (s.carryOut w).IsNew id := by
  rintro entity ⟨stored, hstored, hid⟩
  exact hnew entity (exists_before hunique h (fun hkeeps => hkeeps.id) hstored hid)

theorem keysNew (hkeys : s.KeysNew entity row) : (s.carryOut w).KeysNew entity row := by
  intro key hkey texts htexts stored hstored hsame
  obtain ⟨before, hbefore, hsame⟩ := exists_before hunique h (fun hkeeps => hkeeps.key? hkey) hstored hsame
  exact hkeys key hkey texts htexts before hbefore hsame

theorem isExtended : Extends s (s.carryOut w) := by
  obtain ⟨entity, hold, hid, hkeeps⟩ := h
  intro other stored hstored
  by_cases hother : other = entity
  · subst hother
    rw [rows_updated hunique (hkeeps.id.trans hid)]
    refine ⟨_, List.mem_map_of_mem hstored, ?_⟩
    unfold Record.replacedBy
    split
    · rename_i hsame
      rw [eq_of_nodup_filterMap (hunique other) hold hstored hid hsame]
      exact hkeeps
    · exact .refl other stored
  · rw [rows_of_other hother]
    exact ⟨stored, hstored, .refl other stored⟩

/-- What is new to the tables is new to the renewed tables as well, for they have the same identifiers. -/
theorem arrival {v : Write} (hadd : Arrival s v) : Arrival (s.carryOut w) v := by
  obtain ⟨entity, hid, hnew, hworded⟩ := hadd
  exact .insert entity hid (h.isNew hunique hnew) hworded

end Renewal

/-! ## Arrivals -/

namespace Arrival

variable {w : Write} (h : Arrival s w)
include h

theorem isExtended : Extends s (s.carryOut w) := by
  obtain ⟨entity, -, -, -⟩ := h
  intro other stored hstored
  refine ⟨stored, ?_, .refl other stored⟩
  by_cases hother : other = entity
  · subst hother
    rw [rows_added]
    exact List.mem_append_left _ hstored
  · rw [rows_of_other hother]
    exact hstored

theorem uniqueIds (hunique : s.UniqueIds) : (s.carryOut w).UniqueIds := by
  obtain ⟨entity, hid, hnew, -⟩ := h
  intro other
  by_cases hother : other = entity
  · subst hother
    rw [rows_added]
    refine nodup_filterMap_concat (hunique other) fun key hkey stored hstored hsame => ?_
    exact hnew other ⟨stored, hstored, hsame.trans (hkey.symm.trans hid)⟩
  · rw [rows_of_other hother]
    exact hunique other

theorem uniqueKeys (hkeys : s.UniqueKeys) (hnew : s.AddsNewKeys [w]) : (s.carryOut w).UniqueKeys := by
  obtain ⟨entity, -, -, -⟩ := h
  intro other key hkey
  by_cases hother : other = entity
  · subst hother
    rw [rows_added]
    exact nodup_filterMap_concat (hkeys other key hkey) (hnew other _ (List.mem_singleton_self _) key hkey)
  · rw [rows_of_other hother]
    exact hkeys other key hkey

end Arrival

/-! ## Requests -/

namespace Grows

variable {writes : List Write} (h : Grows s writes)
include h

/-- Growth keeps every row and keeps identifiers unique. -/
theorem intact (hunique : s.UniqueIds) :
    Extends s (writes.foldl carryOut s) ∧ (writes.foldl carryOut s).UniqueIds := by
  cases h with
  | nothing => exact ⟨.refl s, hunique⟩
  | renew h => exact ⟨h.isExtended hunique, h.uniqueIds hunique⟩
  | add h => exact ⟨h.isExtended, h.uniqueIds hunique⟩
  | renewAndAdd h h' =>
    have hadd := h.arrival hunique h'
    exact ⟨(h.isExtended hunique).trans hadd.isExtended, hadd.uniqueIds (h.uniqueIds hunique)⟩

/-- Keys stay unique when those of the added rows are new. -/
theorem uniqueKeys (hunique : s.UniqueIds) (hkeys : s.UniqueKeys) (hnew : s.AddsNewKeys writes) :
    (writes.foldl carryOut s).UniqueKeys := by
  cases h with
  | nothing => exact hkeys
  | renew h => exact h.uniqueKeys hunique hkeys
  | add h => exact h.uniqueKeys hkeys hnew
  | @renewAndAdd w v h h' =>
    -- The renewed tables have the keys that the tables had.
    have hnew' : (s.carryOut w).AddsNewKeys [v] := fun entity row hrow =>
      h.keysNew hunique (hnew entity row (List.mem_cons_of_mem w hrow))
    exact (h.arrival hunique h').uniqueKeys (h.uniqueKeys hunique hkeys) hnew'

theorem renewal_or_arrival : ∀ w ∈ writes, Renewal s w ∨ Arrival s w := by
  cases h with
  | nothing => simp
  | renew h => simp [h]
  | add h => simp [h]
  | renewAndAdd h h' => simp [h, h']

/-- A row with an identifier that was not there before has trimmed wording. -/
theorem worded (hrow : row ∈ (writes.foldl carryOut s).rows entity.table) (hid : row.text? "id" = some id)
    (hnot : ¬ s.Has entity.table id) : entity.Worded row := by
  rcases mem_of_mem_carryOuts hrow with hstored | ⟨w, hw, htable, rfl⟩
  · exact absurd ⟨row, hstored, hid⟩ hnot
  · rcases renewal_or_arrival h w hw with ⟨other, hold, hid', hkeeps⟩ | ⟨other, hid', -, hworded⟩
    · obtain rfl := Entity.table_injective htable
      refine absurd ⟨_, hold, ?_⟩ hnot
      rw [← hid]
      exact hkeeps.id.symm
    · obtain rfl := Entity.table_injective htable
      exact hworded

end Grows

end Tables

end Taskboard
