/-
Agents that are created side by side. The names of the agents of a board are kept unique twice: a creation
looks whether its name is taken before it adds its agent, and a store with a unique index refuses an agent
whose board and name a stored agent has. In whatever order creations look and add, the index refuses those
whose look came too early, and what they answer is the same conflict as if they had come later
(`uniqueNames_after`).
-/
import Taskboard.Proofs.Flow.FirstTurn
import Taskboard.Proofs.Endpoint.Callers
import Taskboard.Proofs.Endpoint.Grounds
import Taskboard.Proofs.Storage.Growth

namespace Taskboard

open Taskboard.Flow Tables

/-! ## A store with an index on names -/

/-- The columns of the unique index on agents; a row without a board or a name is not in the index. -/
def Agent.nameKey : List String := ["board_id", "name"]

/-- Some stored agent has the board and the name of a row. -/
def Tables.NameTaken (tables : Tables) (row : Record) : Prop :=
  (row.key? Agent.nameKey).isSome ∧ ∃ stored ∈ tables.rows "agents", stored.key? Agent.nameKey = row.key? Agent.nameKey

instance (tables : Tables) (row : Record) : Decidable (tables.NameTaken row) :=
  inferInstanceAs (Decidable (_ ∧ _))

/-- No two agents of a board have one name. -/
def Tables.UniqueNames (tables : Tables) : Prop :=
  ((tables.rows "agents").filterMap (Record.key? Agent.nameKey)).Nodup

/-- A store of tables that refuses an agent just when the index has its board and name, and does not fail
otherwise when it is asked for rows or to add an agent. -/
structure Flow.Store.IndexesNames (store : Flow.Store Tables) : Prop where
  select (plan : Plan) (tables : Tables) : ∃ after, after.rows = tables.rows ∧
    store.select plan tables = (.ok ((tables.answer plan).map .object), after)
  refuses {row : Record} {tables : Tables} (h : tables.NameTaken row) : ∃ refusal after, after.rows = tables.rows ∧
    store.write ⟨.insert, Agent.schema, row⟩ tables = (.error (.constraint refusal), after)
  adds {row : Record} {tables : Tables} (h : ¬ tables.NameTaken row) :
    ∃ after, after.rows = (tables.carryOut ⟨.insert, Agent.schema, row⟩).rows ∧
      store.write ⟨.insert, Agent.schema, row⟩ tables = (.ok (), after)

/-- What the index says when it refuses an agent. -/
def indexRefusal : String := "UNIQUE constraint failed: agents.board_id, agents.name"

/-- Carries out a write that the index does not refuse. -/
def Tables.accept (tables : Tables) (w : Write) : Except StorageError Tables :=
  if w.kind = .insert ∧ w.schema.table = "agents" ∧ tables.NameTaken w.row then
    .error (.constraint indexRefusal)
  else .ok (tables.carryOut w)

/-- Tables in memory with the index: a write that it refuses leaves them as they are. -/
def Tables.indexed : Flow.Store Tables where
  select plan tables := (.ok ((tables.answer plan).map .object), tables)
  count plan tables := (.ok (tables.rowsMeeting plan).length, tables)
  write w tables :=
    match tables.accept w with
    | .ok after => (.ok (), after)
    | .error e => (.error e, tables)
  batch ws tables :=
    match ws.foldlM accept tables with
    | .ok after => (.ok (), after)
    | .error e => (.error e, tables)

theorem Tables.indexesNames_indexed : indexed.IndexesNames where
  select plan tables := ⟨tables, rfl, rfl⟩
  refuses {row tables} h := by
    have haccept : tables.accept ⟨.insert, Agent.schema, row⟩ = .error (.constraint indexRefusal) :=
      if_pos ⟨rfl, rfl, h⟩
    refine ⟨indexRefusal, tables, rfl, ?_⟩
    unfold indexed
    simp only [haccept]
  adds {row tables} h := by
    have haccept : tables.accept ⟨.insert, Agent.schema, row⟩ = .ok (tables.carryOut ⟨.insert, Agent.schema, row⟩) :=
      if_neg fun hw => h hw.2.2
    refine ⟨tables.carryOut ⟨.insert, Agent.schema, row⟩, rfl, ?_⟩
    unfold indexed
    simp only [haccept]

/-- Where a store answers the plan, a query finds out whether some row meets it, unless rows cannot be read. -/
theorem Model.run_hasAny_of_answer {α : Type} (model : Model α) {plan : Plan} {store : Flow.Store Tables}
    {state after : Tables} (hselect : store.select (plan.take 1) state =
      (.ok ((state.answer (plan.take 1)).map .object), after))
    (hvalid : (plan.take 1).validate = .ok ()) (hvacuous : (plan.take 1).isVacuous = false)
    (hoffset : plan.offset? = none) (source : Entropy) :
    ∃ answer, (model.hasAny plan).run store state source = (answer, after, source) ∧
      match answer with
      | .ok taken => taken = true ↔ ∃ row ∈ state.rows plan.schema.table, plan.Meets row
      | .error _ => ¬ model.Readable state plan.schema.table := by
  have hall : (model.all (plan.take 1)).run store state source =
      ((model.decodeAll ((state.answer (plan.take 1)).map .object)).mapError .storage, after, source) := by
    unfold Model.all Plan.ask
    rw [hvalid, hvacuous]
    simp only [Bool.false_eq_true, if_false, Flow.run, hselect, Except.bind]
  unfold Model.hasAny Model.first
  rw [run_return, run_return, hall]
  refine ⟨_, rfl, ?_⟩
  cases hdecode : model.decodeAll ((state.answer (plan.take 1)).map .object) with
  | error e =>
    intro hreadable
    obtain ⟨values, hvalues⟩ := @Model.decodeAll_of_readable _ model state (plan.take 1) hreadable
    rw [hdecode] at hvalues
    cases hvalues
  | ok values =>
    have hfound := Model.firstFound_of_decodeAll hoffset hdecode
    show values.head?.isSome = true ↔ _
    generalize values.head? = x? at hfound ⊢
    rcases x? with _ | x
    · simpa [Model.FirstFound] using hfound
    · obtain ⟨row, hrow, hmeets, -⟩ := hfound
      simpa using ⟨row, hrow, hmeets⟩

theorem Tables.UniqueNames.insert {tables after : Tables} (h : tables.UniqueNames) {row : Record}
    (hfree : ¬ tables.NameTaken row) (hrows : after.rows = (tables.carryOut ⟨.insert, Agent.schema, row⟩).rows) :
    after.UniqueNames := by
  have hagents : after.rows "agents" = tables.rows "agents" ++ [row] := by
    rw [hrows]
    exact rows_carryOut_insert
  unfold UniqueNames
  rw [hagents]
  refine nodup_filterMap_concat h fun key hkey stored hstored hsame => ?_
  exact hfree ⟨hkey ▸ rfl, stored, hstored, hsame.trans hkey.symm⟩

/-! ## A source that does not fail -/

/-- Every call of the source answers. -/
structure Entropy.Steady (source : Entropy) : Prop where
  calls : ∀ place size, (source.calls place size).isSome
  quiet : source.interrupted = false

theorem Entropy.Steady.draw {source : Entropy} (h : source.Steady) (size : Nat) :
    ∃ bytes rest, rest.Steady ∧ source.draw size = (some bytes, rest) := by
  obtain ⟨bytes, hbytes⟩ := Option.isSome_iff_exists.1 (h.calls 0 size)
  refine ⟨bytes, { source with calls := fun place => source.calls (place + 1) },
    ⟨fun place => h.calls (place + 1), h.quiet⟩, ?_⟩
  unfold Entropy.draw
  rw [h.quiet, hbytes]
  rfl

namespace Endpoint

/-! ## Creations -/

/-- An agent to create: the board, the payload and the time. -/
structure Creation where
  boardId : String
  payload : NewAgent
  now : String

namespace Creation

/-- The call that creates the agent. -/
def flow (creation : Creation) : Serving IssuedAgent :=
  createAgentOn creation.boardId creation.payload creation.now

/-- The agent of a creation, of which name, token and identifier are known. -/
def agent (creation : Creation) (name token id : String) : Agent :=
  freshAgent id creation.boardId name token creation.now

/-- What is told when the agent cannot be added. -/
def told (name : String) : StorageError → Failure
  | .constraint _ => .conflict (.nameTaken name)
  | e => .query (.storage e)

/-- What is left of a creation that has found its name free. -/
def addition (creation : Creation) (name token id : String) : Serving IssuedAgent :=
  commit ⟨.insert, Agent.schema, (creation.agent name token id).record⟩ (told name)
    ⟨(creation.agent name token id).view, token⟩

/-- The errors that a creation may end with: a blank name, or a name that is taken. Where stored agents
cannot be read, nothing is said of the second. -/
@[irreducible]
def Refusal (creation : Creation) (start : Tables) (e : Failure) : Prop :=
  match Text.nonBlank? creation.payload.name with
  | none => e = .badRequest (.blank "name")
  | some name => Agent.model.Readable start "agents" → e = .conflict (.nameTaken name)

/-- A refusal depends on the tables only where stored agents cannot be read. -/
theorem Refusal.earlier {creation : Creation} {before after : Tables} {e : Failure} (h : creation.Refusal after e)
    (hreadable : Agent.model.Readable before "agents" → Agent.model.Readable after "agents") :
    creation.Refusal before e := by
  unfold Refusal at h ⊢
  cases hname : Text.nonBlank? creation.payload.name with
  | none =>
    rw [hname] at h
    exact h
  | some name =>
    rw [hname] at h
    exact fun hbefore => h (hreadable hbefore)

/-- What a creation that succeeds replies, and the row that it has added. -/
def Made (creation : Creation) (issued : IssuedAgent) (row : Record) : Prop :=
  ∃ name token id, Text.nonBlank? creation.payload.name = some name ∧
    issued = ⟨(creation.agent name token id).view, token⟩ ∧ row = (creation.agent name token id).record

/-- How far a creation is after a number of turns. -/
inductive Stands (creation : Creation) (start : Tables) : Nat → Serving IssuedAgent → Prop
  | called : Stands creation start 0 creation.flow
  | refused {turns : Nat} {e : Failure} (h : creation.Refusal start e) :
    Stands creation start (turns + 1) (.done (.error e))
  | checked {name : String} (hname : Text.nonBlank? creation.payload.name = some name) (token id : String) :
    Stands creation start 1 (creation.addition name token id)
  | created {turns : Nat} (issued : IssuedAgent) : Stands creation start (turns + 2) (.done (.ok issued))

variable {creation : Creation} {start : Tables} {store : Flow.Store Tables} {state : Tables} {source : Entropy}

/-! ## The turn that looks -/

theorem run_freshHex (store : Flow.Store Tables) (hsource : source.Steady) (size : Nat) (state : Tables) :
    ∃ text rest, rest.Steady ∧ (freshHex size).run store state source = (.ok text, state, rest) := by
  obtain ⟨bytes, rest, hrest, hdraw⟩ := hsource.draw size
  refine ⟨Text.hex bytes, rest, hrest, ?_⟩
  simp only [freshHex, Flow.run, hdraw]

theorem freshHex_readsOnly (size : Nat) : (freshHex size).ReadsOnly := by
  refine .random fun bytes? => ?_
  cases bytes? <;> exact .done _

/-- What a creation goes on with when it knows whether its name is taken. -/
def looked (creation : Creation) (name : String) (taken : Bool) : Serving IssuedAgent :=
  if taken then .fail (.conflict (.nameTaken name))
  else do
    let token ← freshToken
    let id ← freshId
    insertAgent (creation.agent name token id)
    return { agent := (creation.agent name token id).view, token := token }

/-- The first turn of a creation whose name is blank refuses it. -/
theorem advance_flow_of_blank (hname : Text.nonBlank? creation.payload.name = none) :
    creation.flow.advance store state source = (.done (.error (.badRequest (.blank "name"))), state, source) := by
  unfold flow createAgentOn requireText
  rw [hname]
  rfl

/-- The first turn of any other creation asks for the agents of its board with its name. -/
theorem advance_flow_of_nonBlank {name : String} (hname : Text.nonBlank? creation.payload.name = some name)
    {plan : Plan} (hplan : agentsNamed creation.boardId name = .ok plan) :
    creation.flow.advance store state source =
      ((Agent.model.hasAny plan).mapError .query >>= creation.looked name).pause store state source := by
  unfold flow createAgentOn requireText
  rw [hname]
  cases hplan
  rfl

/-- The draws of a creation that has found its name free. -/
theorem pause_looked (store : Flow.Store Tables) (state : Tables) (hsource : source.Steady) (name : String) : ∃ token id left, left.Steady ∧
    (creation.looked name false).pause store state source = (creation.addition name token id, state, left) := by
  obtain ⟨token, left, hleft, htoken⟩ := run_freshHex store hsource 32 state
  obtain ⟨id, left', hleft', hid⟩ := run_freshHex store hleft 16 state
  refine ⟨token, id, left', hleft', ?_⟩
  have haddition : (do
      insertAgent (creation.agent name token id)
      return { agent := (creation.agent name token id).view, token := token }) = creation.addition name token id :=
    commit_eq _ (told name) _
  show ((freshHex 32) >>= _).pause store state source = _
  rw [(freshHex_readsOnly 32).pause_bind, htoken]
  show ((freshHex 16) >>= _).pause store state left = _
  rw [(freshHex_readsOnly 16).pause_bind, hid, ← haddition]
  rfl

/-- The first turn of a creation refuses it, or leaves the agent to be added. -/
theorem advance_flow (hstore : store.IndexesNames) (hsource : source.Steady) (state : Tables) :
    ∃ rest after left, after.rows = state.rows ∧ left.Steady ∧
      creation.flow.advance store state source = (rest, after, left) ∧
      ((∃ e, creation.Refusal state e ∧ rest = .done (.error e)) ∨
        ∃ name token id, Text.nonBlank? creation.payload.name = some name ∧
          rest = creation.addition name token id) := by
  cases hname : Text.nonBlank? creation.payload.name with
  | none =>
    refine ⟨_, state, source, rfl, hsource, advance_flow_of_blank hname, .inl ⟨_, ?_, rfl⟩⟩
    unfold Refusal
    rw [hname]
  | some name =>
    obtain ⟨plan, hplan, htable, hvalid, hvacuous, hoffset⟩ : ∃ plan, agentsNamed creation.boardId name = .ok plan ∧
        plan.schema.table = "agents" ∧ (plan.take 1).validate = .ok () ∧ (plan.take 1).isVacuous = false ∧
        plan.offset? = none := ⟨_, rfl, rfl, rfl, rfl, rfl⟩
    obtain ⟨after, hrows, hselect⟩ := hstore.select (plan.take 1) state
    obtain ⟨answer, hrun, hanswer⟩ := Agent.model.run_hasAny_of_answer hselect hvalid hvacuous hoffset source
    rw [advance_flow_of_nonBlank hname hplan, ((Agent.model.hasAny_readsOnly plan).mapError _).pause_bind, run_mapError, hrun]
    -- The look at the name fails, finds it free, or finds it taken.
    rcases answer with e | _ | _
    · refine ⟨_, after, source, hrows, hsource, rfl, .inl ⟨_, ?_, rfl⟩⟩
      unfold Refusal
      rw [hname]
      exact fun hreadable => absurd hreadable (htable ▸ hanswer)
    · obtain ⟨token, id, left, hleft, hpause⟩ := creation.pause_looked store after hsource name
      exact ⟨_, after, left, hrows, hleft, hpause, .inr ⟨name, token, id, rfl, rfl⟩⟩
    · refine ⟨_, after, source, hrows, hsource, rfl, .inl ⟨.conflict (.nameTaken name), ?_, rfl⟩⟩
      unfold Refusal
      rw [hname]
      exact fun _ => rfl

/-! ## The turn that adds -/

/-- The second turn of a creation adds its agent, unless the name was taken meanwhile. -/
theorem advance_addition (hstore : store.IndexesNames) (name token id : String) (state : Tables)
    (source : Entropy) :
    (state.NameTaken (creation.agent name token id).record ∧ ∃ after, after.rows = state.rows ∧
      (creation.addition name token id).advance store state source =
        (.done (.error (.conflict (.nameTaken name))), after, source)) ∨
    (¬ state.NameTaken (creation.agent name token id).record ∧ ∃ after,
      after.rows = (state.carryOut ⟨.insert, Agent.schema, (creation.agent name token id).record⟩).rows ∧
      (creation.addition name token id).advance store state source =
        (.done (.ok ⟨(creation.agent name token id).view, token⟩), after, source)) := by
  unfold addition
  rw [advance_commit]
  by_cases htaken : state.NameTaken (creation.agent name token id).record
  · obtain ⟨refusal, after, hrows, hwrite⟩ := hstore.refuses htaken
    refine .inl ⟨htaken, after, hrows, ?_⟩
    rw [hwrite]
    rfl
  · obtain ⟨after, hrows, hwrite⟩ := hstore.adds htaken
    refine .inr ⟨htaken, after, hrows, ?_⟩
    rw [hwrite]
    rfl

/-- A creation that has ended before its first turn is refused. -/
theorem refusal_of_flow_eq (hstore : store.IndexesNames) (hsource : source.Steady) (state : Tables)
    {result : Except Failure IssuedAgent} (hflow : creation.flow = .done result) :
    ∃ e, creation.Refusal state e ∧ result = .error e := by
  obtain ⟨rest, after, left, -, -, hadvance, hrest⟩ := creation.advance_flow hstore hsource state
  rw [hflow] at hadvance
  cases hadvance
  rcases hrest with ⟨e, hrefusal, hrest⟩ | ⟨name, token, id, -, hrest⟩ <;> cases hrest
  exact ⟨e, hrefusal, rfl⟩

end Creation

/-! ## Creations side by side -/

/-- Creations that have not begun, on the tables they start from. -/
def creationRace {ι : Type} (creations : ι → Creation) (start : Tables) (source : Entropy) :
    Race ι Failure IssuedAgent Tables :=
  ⟨fun i => (creations i).flow, start, source⟩

section Races

variable {ι : Type} {creations : ι → Creation} {start : Tables} {race race' : Race ι Failure IssuedAgent Tables}

/-- The agents that creations have added: one for each that has succeeded, behind those of the start. -/
structure Accounts (creations : ι → Creation) (start : Tables) (race : Race ι Failure IssuedAgent Tables)
    (created : List (ι × Record)) : Prop where
  once : (created.map Prod.fst).Nodup
  rows : race.state.rows "agents" = start.rows "agents" ++ created.map Prod.snd
  succeeds : ∀ i, i ∈ created.map Prod.fst ↔ race.Succeeds i
  made : ∀ i row, (i, row) ∈ created → ∃ issued, race.left i = .done (.ok issued) ∧ (creations i).Made issued row

variable {created : List (ι × Record)}

/-- The accounts stay as they are when no row changes and no other call has succeeded. -/
theorem Accounts.congr (h : Accounts creations start race created) (hrows : race'.state.rows = race.state.rows)
    (hleft : ∀ i issued, race'.left i = .done (.ok issued) ↔ race.left i = .done (.ok issued)) :
    Accounts creations start race' created where
  once := h.once
  rows := hrows ▸ h.rows
  succeeds i := by simpa only [Race.Succeeds, hleft] using h.succeeds i
  made i row hrow := by simpa only [hleft] using h.made i row hrow

theorem Accounts.readable (h : Accounts creations start race created) (hstart : Agent.model.Readable start "agents") :
    Agent.model.Readable race.state "agents" := by
  intro row hrow
  rw [h.rows, List.mem_append] at hrow
  rcases hrow with hrow | hrow
  · exact hstart row hrow
  · obtain ⟨⟨i, row⟩, hcreated, rfl⟩ := List.mem_map.1 hrow
    obtain ⟨issued, -, name, token, id, -, -, rfl⟩ := h.made i row hcreated
    exact ⟨_, ((creations i).agent name token id).ofRecord?_record⟩

variable [DecidableEq ι] {store : Flow.Store Tables} {turns : List ι} {i : ι}

/-- A turn of one creation takes it one step further and leaves the others where they are. -/
theorem stands_turn (h : ∀ j, (creations j).Stands start (turns.count j) (race.left j))
    (hturn : (creations i).Stands start (turns.count i + 1) ((race.turn store i).left i)) (j : ι) :
    (creations j).Stands start ((turns ++ [i]).count j) ((race.turn store i).left j) := by
  rw [List.count_append]
  by_cases hj : j = i
  · rw [hj, List.count_singleton_self]
    exact hturn
  · rw [List.count_singleton, if_neg (by simpa using Ne.symm hj), Race.left_turn_of_ne hj]
    exact h j

/-- The agent of a creation whose name is free is one more, on the account of that creation. -/
theorem Accounts.insert (h : Accounts creations start race created) {row : Record} {issued : IssuedAgent}
    (hfresh : ¬ race.Succeeds i) (hmade : (creations i).Made issued row)
    (hrows : race'.state.rows "agents" = race.state.rows "agents" ++ [row])
    (hleft : race'.left = Function.update race.left i (.done (.ok issued))) :
    Accounts creations start race' (created ++ [(i, row)]) where
  once := by
    rw [List.map_append, List.nodup_append']
    refine ⟨h.once, List.nodup_singleton i, fun j hj hi => ?_⟩
    rw [List.mem_singleton.1 hi] at hj
    exact hfresh ((h.succeeds i).1 hj)
  rows := by rw [hrows, h.rows, List.map_append, List.append_assoc]; rfl
  succeeds j := by
    rw [List.map_append, List.mem_append, h.succeeds]
    unfold Race.Succeeds
    rw [hleft]
    by_cases hj : j = i
    · subst hj
      simp
    · simp [hj]
  made j row' hmem := by
    rw [hleft]
    rcases List.mem_append.1 hmem with hmem | hmem
    · obtain ⟨issued', hissued, hmade'⟩ := h.made j row' hmem
      have hj : j ≠ i := by
        rintro rfl
        exact hfresh ⟨issued', hissued⟩
      exact ⟨issued', (Function.update_of_ne hj ..).trans hissued, hmade'⟩
    · obtain ⟨rfl, rfl⟩ := Prod.mk.inj (List.mem_singleton.1 hmem)
      exact ⟨issued, Function.update_self .., hmade⟩

/-- What holds of creations side by side after some turns. -/
structure Progress (creations : ι → Creation) (start : Tables) (turns : List ι)
    (race : Race ι Failure IssuedAgent Tables) : Prop where
  steady : race.source.Steady
  stands : ∀ i, (creations i).Stands start (turns.count i) (race.left i)
  unique : race.state.UniqueNames
  others : ∀ table ≠ "agents", race.state.rows table = start.rows table
  accounts : ∃ created, Accounts creations start race created

/-- A turn in which no call succeeds and no row changes. -/
theorem Progress.turn_of_rows (h : Progress creations start turns race) (hsteady : (race.turn store i).source.Steady)
    (hstands : (creations i).Stands start (turns.count i + 1) ((race.turn store i).left i))
    (hrows : (race.turn store i).state.rows = race.state.rows) (hbefore : ¬ race.Succeeds i)
    (hafter : ¬ (race.turn store i).Succeeds i) : Progress creations start (turns ++ [i]) (race.turn store i) where
  steady := hsteady
  stands := stands_turn h.stands hstands
  unique := by
    unfold Tables.UniqueNames
    rw [hrows]
    exact h.unique
  others table htable := hrows ▸ h.others table htable
  accounts := by
    obtain ⟨created, haccounts⟩ := h.accounts
    refine ⟨created, haccounts.congr hrows fun j issued => ?_⟩
    by_cases hj : j = i
    · subst hj
      exact iff_of_false (fun hok => hafter ⟨issued, hok⟩) fun hok => hbefore ⟨issued, hok⟩
    · rw [Race.left_turn_of_ne hj]

theorem Progress.turn_of_called (hstore : store.IndexesNames) (h : Progress creations start turns race)
    (hcount : turns.count i = 0) (hleft : race.left i = (creations i).flow) :
    Progress creations start (turns ++ [i]) (race.turn store i) := by
  obtain ⟨rest, after, left, hrows, hsteady, hadvance, hrest⟩ :=
    (creations i).advance_flow hstore h.steady race.state
  rw [← hleft] at hadvance
  have hleft' : (race.turn store i).left i = rest := Race.left_turn_self.trans (congrArg Prod.fst hadvance)
  have hstate : (race.turn store i).state = after := congrArg (·.2.1) hadvance
  have hsource : (race.turn store i).source = left := congrArg (·.2.2) hadvance
  refine h.turn_of_rows (hsource ▸ hsteady) ?_ (hstate ▸ hrows) ?_ ?_
  · rw [hleft', hcount]
    rcases hrest with ⟨e, hrefusal, rfl⟩ | ⟨name, token, id, hname, rfl⟩
    · refine .refused ?_
      obtain ⟨created, haccounts⟩ := h.accounts
      exact hrefusal.earlier haccounts.readable
    · exact .checked hname token id
  · rintro ⟨issued, hok⟩
    obtain ⟨e, -, he⟩ := Creation.refusal_of_flow_eq hstore h.steady race.state (hleft.symm.trans hok)
    cases he
  · rintro ⟨issued, hok⟩
    rw [hleft'] at hok
    rcases hrest with ⟨e, -, rfl⟩ | ⟨name, token, id, -, rfl⟩ <;> cases hok

theorem Progress.turn_of_checked (hstore : store.IndexesNames) (h : Progress creations start turns race)
    (hcount : turns.count i = 1) {name token id : String}
    (hname : Text.nonBlank? (creations i).payload.name = some name)
    (hleft : race.left i = (creations i).addition name token id) :
    Progress creations start (turns ++ [i]) (race.turn store i) := by
  have hbefore : ¬ race.Succeeds i := by
    rintro ⟨issued, hok⟩
    rw [hleft] at hok
    cases hok
  -- The store refuses a name that has been taken since the first turn, and adds any other.
  rcases (creations i).advance_addition hstore name token id race.state race.source with
    ⟨-, after, hrows, hadvance⟩ | ⟨hfree, after, hrows, hadvance⟩
  all_goals
    rw [← hleft] at hadvance
    have hleft' := Race.left_turn_self.trans (congrArg Prod.fst hadvance)
    have hstate : (race.turn store i).state = after := congrArg (·.2.1) hadvance
    have hsource : (race.turn store i).source = race.source := congrArg (·.2.2) hadvance
  · refine h.turn_of_rows (hsource ▸ h.steady) ?_ (hstate ▸ hrows) hbefore ?_
    · rw [hleft', hcount]
      refine .refused ?_
      unfold Creation.Refusal
      rw [hname]
      exact fun _ => rfl
    · rintro ⟨issued, hok⟩
      rw [hleft'] at hok
      cases hok
  · obtain ⟨created, haccounts⟩ := h.accounts
    refine ⟨hsource ▸ h.steady, stands_turn h.stands ?_, hstate ▸ h.unique.insert hfree hrows, fun table htable => ?_,
      _, haccounts.insert hbefore ⟨name, token, id, hname, rfl, rfl⟩ ?_ ?_⟩
    · rw [hleft', hcount]
      exact .created _
    · rw [hstate, hrows, rows_carryOut_of_ne htable]
      exact h.others table htable
    · rw [hstate, hrows]
      exact rows_carryOut_insert
    · exact congrArg (Function.update race.left i) (congrArg Prod.fst hadvance)

/-- What holds of creations side by side is preserved by every turn. -/
theorem Progress.turn (hstore : store.IndexesNames) (h : Progress creations start turns race) (i : ι) :
    Progress creations start (turns ++ [i]) (race.turn store i) := by
  have hi := h.stands i
  have hdone : ∀ result, race.left i = .done result → (creations i).Stands start (turns.count i + 1) (.done result) →
      Progress creations start (turns ++ [i]) (race.turn store i) := by
    intro result hleft hstands
    have hturn : race.turn store i = race := Race.turn_of_done hleft
    have hall : ∀ j, (creations j).Stands start ((turns ++ [i]).count j) ((race.turn store i).left j) :=
      stands_turn h.stands (by rwa [hturn, hleft])
    rw [hturn] at hall ⊢
    exact ⟨h.steady, hall, h.unique, h.others, h.accounts⟩
  generalize hcount : turns.count i = n at hi hdone
  generalize hleft : race.left i = rest at hi
  cases hi with
  | called => exact h.turn_of_called hstore hcount hleft
  | refused hrefusal => exact hdone _ hleft (.refused hrefusal)
  | checked hname token id => exact h.turn_of_checked hstore hcount hname hleft
  | created issued => exact hdone _ hleft (.created issued)

theorem Progress.initial (hstore : store.IndexesNames) (hunique : start.UniqueNames) {source : Entropy}
    (hsource : source.Steady) : Progress creations start [] (creationRace creations start source) where
  steady := hsource
  stands i := .called
  unique := hunique
  others _ _ := rfl
  accounts := by
    refine ⟨[], List.nodup_nil, (List.append_nil _).symm, fun i => ?_, fun i row hrow => by cases hrow⟩
    refine iff_of_false List.not_mem_nil ?_
    rintro ⟨issued, hok⟩
    obtain ⟨e, -, he⟩ := Creation.refusal_of_flow_eq hstore hsource start hok
    cases he

/-- Of the creations of one board and one name at most one succeeds. -/
theorem Progress.succeeds_once (h : Progress creations start turns race) {i j : ι}
    (hboard : (creations i).boardId = (creations j).boardId)
    (hname : Text.trim (creations i).payload.name = Text.trim (creations j).payload.name)
    (hi : race.Succeeds i) (hj : race.Succeeds j) : i = j := by
  obtain ⟨created, haccounts⟩ := h.accounts
  have hunique := h.unique
  unfold Tables.UniqueNames at hunique
  rw [haccounts.rows, List.filterMap_append, List.filterMap_map] at hunique
  have hkey : ∀ k, race.Succeeds k → ∃ row, (k, row) ∈ created ∧
      row.key? Agent.nameKey = some [(creations k).boardId, Text.trim (creations k).payload.name] := by
    intro k hk
    obtain ⟨⟨k, row⟩, hcreated, rfl⟩ := List.mem_map.1 ((haccounts.succeeds k).2 hk)
    obtain ⟨issued, -, name, token, id, hname, -, rfl⟩ := haccounts.made k row hcreated
    refine ⟨_, hcreated, Record.key?_pair_iff.2 ⟨rfl, ?_⟩⟩
    rw [← Text.eq_trim_of_nonBlank? hname]
    rfl
  obtain ⟨row, hrow, hrowKey⟩ := hkey i hi
  obtain ⟨row', hrow', hrowKey'⟩ := hkey j hj
  rw [← hboard, ← hname] at hrowKey'
  exact congrArg Prod.fst (eq_of_nodup_filterMap (List.nodup_append'.1 hunique).2.1 hrow' hrow hrowKey' hrowKey)

theorem Progress.ended (h : Progress creations start turns race) (hcount : 2 ≤ turns.count i) :
    ∃ result, race.left i = .done result := by
  have hi := h.stands i
  generalize turns.count i = n at hi hcount
  generalize race.left i = rest at hi ⊢
  cases hi with
  | called | checked => omega
  | refused | created => exact ⟨_, rfl⟩

theorem Progress.refusal (hstore : store.IndexesNames) (h : Progress creations start turns race) {e : Failure}
    (hleft : race.left i = .done (.error e)) : (creations i).Refusal start e := by
  have hi := h.stands i
  generalize turns.count i = n at hi
  generalize race.left i = rest at hi hleft
  cases hi with
  | called =>
    obtain ⟨_, hrefusal, he⟩ := Creation.refusal_of_flow_eq hstore h.steady start hleft
    cases he
    exact hrefusal
  | refused hrefusal =>
    cases hleft
    exact hrefusal
  | checked | created => cases hleft

/-- In whatever order creations of agents look and add, on a store that refuses a name that its board has:
names stay unique; of the creations of one board and one trimmed name at most one succeeds; a creation that
has had two turns has ended; one that fails although its name is not blank is in conflict, as long as stored
agents can be read; and behind the agents of the start there is one for each creation that has succeeded,
while no other table changes. -/
theorem uniqueNames_after (hstore : store.IndexesNames) (creations : ι → Creation) (hunique : start.UniqueNames)
    {source : Entropy} (hsource : source.Steady) (turns : List ι) :
    let reached := (creationRace creations start source).after store turns
    reached.state.UniqueNames ∧
      (∀ i j, (creations i).boardId = (creations j).boardId →
        Text.trim (creations i).payload.name = Text.trim (creations j).payload.name →
        reached.Succeeds i → reached.Succeeds j → i = j) ∧
      (∀ i, 2 ≤ turns.count i → ∃ result, reached.left i = .done result) ∧
      (∀ i name e, Text.nonBlank? (creations i).payload.name = some name → Agent.model.Readable start "agents" →
        reached.left i = .done (.error e) → e = .conflict (.nameTaken name)) ∧
      (∀ table ≠ "agents", reached.state.rows table = start.rows table) ∧
      ∃ created, Accounts creations start reached created := by
  have h : Progress creations start turns ((creationRace creations start source).after store turns) :=
    Race.after_induction (Progress.initial hstore hunique hsource) (fun _ _ i h => h.turn hstore i) turns
  refine ⟨h.unique, fun i j => h.succeeds_once, fun i => h.ended, fun i name e hname hreadable hleft => ?_, h.others,
    h.accounts⟩
  have hrefusal := h.refusal hstore hleft
  unfold Creation.Refusal at hrefusal
  rw [hname] at hrefusal
  exact hrefusal hreadable

end Races

/-- Two creations on the board of a lead, of one name but for the blanks around it. -/
def rovers (second : Bool) : Creation where
  boardId := "b1"
  payload := ⟨if second then " Rover" else "Rover ", none⟩
  now := "2024-01-02"

/-- Both look before either adds: the one that adds first succeeds, and the index makes the other a conflict. -/
theorem uniqueNames_after_rovers :
    let reached := (creationRace rovers (office []) .counting).after indexed [false, true, false, true]
    reached.Succeeds false ∧ reached.left true = .done (.error (.conflict (.nameTaken "Rover"))) ∧
      reached.state.UniqueNames := by
  have hsucceeds : ((creationRace rovers (office []) .counting).after indexed [false, true, false, true]).Succeeds
      false := by decide +kernel
  have hafter := uniqueNames_after Tables.indexesNames_indexed rovers
    (show (office []).UniqueNames from List.nodup_singleton ["b1", "Ada"])
    (show Entropy.counting.Steady from ⟨fun _ _ => rfl, rfl⟩) [false, true, false, true]
  have hended : 2 ≤ [false, true, false, true].count true := by decide
  have hname : Text.nonBlank? (rovers true).payload.name = some "Rover" := by decide +kernel
  have hsame : Text.trim (rovers false).payload.name = Text.trim (rovers true).payload.name := by decide +kernel
  have hreadable := readable_office [] .agent
  generalize (creationRace rovers (office []) .counting).after indexed [false, true, false, true] = reached at *
  obtain ⟨hunique, honce, hdone, hconflict, -, -⟩ := hafter
  refine ⟨hsucceeds, ?_, hunique⟩
  obtain ⟨result, hresult⟩ := hdone true hended
  cases result with
  | ok issued => exact absurd (honce false true rfl hsame hsucceeds ⟨issued, hresult⟩) Bool.false_ne_true
  | error e =>
    obtain rfl := hconflict true "Rover" e hname hreadable hresult
    exact hresult

end Endpoint

end Taskboard
