/-
Tokens that are issued. Who creates an agent is given a token for it; whatever requests come after, the token stands
for that agent, in a header of its own as well as behind the word "bearer" (`issued_authenticates`). The row of the
agent is only ever replaced by what the agent itself makes of it with a sign of life, which keeps who it is.
-/
import Mathlib.Logic.Relation
import Taskboard.Proofs.Endpoint.Assignment
import Taskboard.Proofs.Http.Tokens

namespace Taskboard

open Taskboard.Flow Tables

/-! ## Tokens as texts -/

namespace Text

theorem isBlank_hexDigit : ∀ n < 16, isBlank (hexDigit n) = false := by
  decide

/-- Bytes as hexadecimal text have no blank character in it. -/
theorem solid_hex {bytes : List UInt8} (h : bytes ≠ []) : Solid (hex bytes) where
  nonempty hempty := by
    obtain ⟨b, rest, rfl⟩ := List.exists_cons_of_ne_nil h
    have hnil := congrArg String.toList hempty
    simp [hex, hexOfByte] at hnil
  unblank c hc := by
    rw [hex, String.toList_ofList, List.mem_flatMap] at hc
    obtain ⟨b, -, hc⟩ := hc
    have hlt := b.toNat_lt
    rcases List.mem_pair.1 hc with rfl | rfl <;> exact isBlank_hexDigit _ (by omega)

end Text

/-- Headers say a token: in the header of its own, or, where that is missing or blank, behind the word "Bearer". -/
def Http.Headers.Say (headers : Http.Headers) (token : String) : Prop :=
  headers.value? Token.agentHeader = some token ∨
    (∀ value, headers.value? Token.agentHeader = some value → Text.trim value = "") ∧
      headers.value? Token.authorizationHeader = some ("Bearer " ++ token)

theorem Http.Headers.Say.token?_eq {headers : Http.Headers} {token : String} (h : headers.Say token)
    (hsolid : Text.Solid token) : headers.token? = some token := by
  have htrimmed := hsolid.trimmed
  unfold token?
  rcases h with hagent | ⟨hblank, hauthorization⟩
  · have hnot : ¬ Text.Blank token := fun hblank =>
      htrimmed.nonempty (htrimmed.fixed ▸ Text.trim_eq_empty_iff.2 hblank)
    rw [hagent, Token.select?_of_not_blank hnot, htrimmed.fixed]
  · have hspace : "Bearer " = "Bearer" ++ " " := rfl
    rw [Token.select?_of_blank fun value hvalue => Text.trim_eq_empty_iff.1 (hblank value hvalue), hauthorization,
      Option.bind_some, hspace, Token.ofAuthorization?_bearer (by decide) (by decide) (by simp) htrimmed]

/-! ## Random bytes -/

/-- Every call of a source that does not fail answers as many bytes as it is asked for. -/
def Entropy.Full (source : Entropy) : Prop :=
  ∀ place size bytes, source.calls place size = some bytes → bytes.length = size

theorem Entropy.Full.draw {source : Entropy} (h : source.Full) (size : Nat) :
    (∀ bytes, (source.draw size).1 = some bytes → bytes.length = size) ∧ (source.draw size).2.Full := by
  unfold Entropy.draw
  split
  · exact ⟨nofun, h⟩
  · exact ⟨h 0 size, fun place => h (place + 1)⟩

/-- What a run draws from a full source is as long as it asks for. -/
theorem Flow.length_of_draws {ε α σ : Type} (store : Store σ) (flow : Flow ε α) (state : σ) {source : Entropy}
    (h : source.Full) : ∀ draw ∈ flow.draws store state source, draw.2.length = draw.1 := by
  induction flow generalizing state source with
  | done result => exact nofun
  | select plan k ih => exact ih _ _ h
  | count plan k ih => exact ih _ _ h
  | write w k ih => exact ih _ _ h
  | batch ws k ih => exact ih _ _ h
  | random size k ih =>
    obtain ⟨hanswer, hrest⟩ := h.draw size
    unfold draws
    rcases hdraw : source.draw size with ⟨answer?, rest⟩
    rw [hdraw] at hanswer hrest
    refine List.forall_mem_append.2 ⟨fun draw hmem => ?_, ih _ _ hrest⟩
    obtain ⟨bytes, hbytes, rfl⟩ := List.mem_map.1 hmem
    exact hanswer bytes (Option.mem_toList.1 hbytes)

namespace Endpoint

variable {drawn : Nat → List UInt8 → Prop} {actor : Agent} {s t before after start now : Tables}

/-! ## Who a token stands for -/

/-- A token, and who it was issued for: an agent of a board by its identifier and its name. -/
structure Credential where
  token : String
  id : String
  name : String
  boardId : String

/-- An agent is who a token was issued for, and no lead. -/
structure Credential.Of (credential : Credential) (agent : Agent) : Prop where
  id : agent.id = credential.id
  name : agent.name = credential.name
  boardId : agent.boardId? = some credential.boardId
  notLead : agent.isBoardLead = false
  token : agent.tokenHash? = some (Token.hash credential.token)

/-- No other agent has the digest of a token. -/
def Sole (s : Tables) (credential : Credential) : Prop :=
  ∀ row ∈ s.rows "agents", row.text? "agent_token_hash" = some (Token.hash credential.token) →
    row.text? "id" = some credential.id

/-- Agents have different identifiers, and one of them is who a token was issued for. -/
structure Holds (s : Tables) (credential : Credential) : Prop where
  unique : ((s.rows "agents").filterMap (·.text? "id")).Nodup
  holder : ∃ agent : Agent, agent.record ∈ s.rows "agents" ∧ credential.Of agent

variable {credential : Credential}

theorem Holds.congr (h : Holds s credential) (hrows : t.rows "agents" = s.rows "agents") : Holds t credential := by
  refine ⟨?_, ?_⟩ <;> rw [hrows]
  · exact h.unique
  · exact h.holder

/-- Where no other agent has the digest, the holder of the token is the only one that has it. -/
theorem Holds.only (h : Holds s credential) (hsole : Sole s credential) : ∃ agent : Agent,
    (s.rows "agents").filter (hasToken credential.token) = [agent.record] ∧ credential.Of agent := by
  obtain ⟨agent, hagent, hof⟩ := h.holder
  obtain ⟨front, back, hrows⟩ := List.append_of_mem hagent
  have hkey : agent.record.text? "id" = some credential.id := congrArg some hof.id
  have hothers := text?_ne_of_nodup hkey (hrows ▸ h.unique)
  have hnone : ∀ row ∈ front ++ back, ¬ hasToken credential.token row = true := fun row hrow htoken => by
    refine hothers row hrow (hsole row ?_ (beq_iff_eq.1 htoken))
    rw [hrows]
    simp only [List.mem_append, List.mem_cons] at hrow ⊢
    tauto
  have hself : hasToken credential.token agent.record = true :=
    beq_iff_eq.2 ((Record.text?_of_lookup rfl).trans hof.token)
  have hfront : front.filter (hasToken credential.token) = [] :=
    List.filter_eq_nil_iff.2 fun row hrow => hnone row (List.mem_append_left _ hrow)
  have hback : back.filter (hasToken credential.token) = [] :=
    List.filter_eq_nil_iff.2 fun row hrow => hnone row (List.mem_append_right _ hrow)
  refine ⟨agent, ?_, hof⟩
  rw [hrows, List.filter_append, List.filter_cons_of_pos hself, hfront, hback]
  rfl

/-! ## What requests do to agents -/

theorem rows_carryOuts_of_ne {table : String} {writes : List Write} (h : ∀ w ∈ writes, table ≠ w.schema.table) :
    (writes.foldl carryOut s).rows table = s.rows table := by
  induction writes generalizing s with
  | nil => rfl
  | cons w rest ih =>
    obtain ⟨hw, hrest⟩ := List.forall_mem_cons.1 h
    rw [List.foldl_cons, ih hrest, rows_carryOut_of_ne hw]

/-- A request adds an agent with a new identifier, overwrites the row of its caller with a sign of life, or leaves the
agents as they are. -/
theorem agents_of_grounds {request : Request} {reply : request.Reply} {writes : List Write}
    (h : request.Grounds drawn actor s reply writes) :
    (writes.foldl carryOut s).rows "agents" = s.rows "agents" ∨
      (∃ agent : Agent, Generated drawn agent.id ∧ writes = [⟨.insert, Agent.schema, agent.record⟩]) ∨
      ∃ status? now, writes = [⟨.update, Agent.schema, (Agent.seen actor status? now).record⟩] := by
  rcases agentWrites_of_grounds h with hothers | ⟨boardId, name, id, now, bytes, -, -, hgenerated, rfl⟩ |
    ⟨status?, now, rfl⟩
  · refine .inl (rows_carryOuts_of_ne fun w hw htable => hothers w hw ?_)
    rw [← htable]
    decide
  · exact .inr (.inl ⟨_, hgenerated, rfl⟩)
  · exact .inr (.inr ⟨status?, now, rfl⟩)

namespace Holds

variable (h : Holds s credential)
include h

/-- An agent with a new identifier is added. -/
theorem added {agent : Agent} (hnew : ¬ s.Has "agents" agent.id) :
    Holds (s.carryOut ⟨.insert, Agent.schema, agent.record⟩) credential := by
  have hrows : (s.carryOut ⟨.insert, Agent.schema, agent.record⟩).rows "agents" = s.rows "agents" ++ [agent.record] :=
    rows_carryOut_insert
  refine ⟨?_, ?_⟩ <;> rw [hrows]
  · refine nodup_filterMap_concat h.unique fun id hid row hrow hkey => ?_
    exact hnew ⟨row, hrow, hkey.trans hid.symm⟩
  · obtain ⟨holder, hmem, hof⟩ := h.holder
    exact ⟨holder, List.mem_append_left _ hmem, hof⟩

/-- A caller gives a sign of life. If it is the holder of the token, it still is. -/
theorem seen (hactor : Agent.model.StoredIn s actor) (status? : Option String) (now : String) :
    Holds (s.carryOut ⟨.update, Agent.schema, (Agent.seen actor status? now).record⟩) credential := by
  have hid : (Agent.seen actor status? now).record.text? Agent.schema.idField = some actor.id := rfl
  have hrows : (s.carryOut ⟨.update, Agent.schema, (Agent.seen actor status? now).record⟩).rows "agents" =
      (s.rows "agents").map (Record.replacedBy actor.id (Agent.seen actor status? now).record) :=
    (rows_carryOut_update hid).trans (replaceFirst_eq_map h.unique)
  refine ⟨?_, ?_⟩ <;> rw [hrows]
  · rw [List.filterMap_map]
    exact (List.filterMap_congr fun row _ => Record.id_replacedBy hid row).symm ▸ h.unique
  · obtain ⟨holder, hmem, hof⟩ := h.holder
    by_cases hsame : holder.id = actor.id
    · -- The caller is the holder, for both are read from the row with the identifier.
      obtain ⟨row, hrow, hdecode⟩ := hactor
      have hkey : row.text? "id" = some holder.id := hsame ▸ (Agent.text?_of_ofRecord? hdecode).1
      obtain rfl : row = holder.record := eq_of_nodup_filterMap h.unique hmem hrow rfl hkey
      obtain rfl : actor = holder := Option.some.inj (hdecode.symm.trans holder.ofRecord?_record)
      exact ⟨Agent.seen actor status? now, List.mem_map.2 ⟨_, hmem, if_pos rfl⟩,
        hof.id, hof.name, hof.boardId, hof.notLead, hof.token⟩
    · exact ⟨holder, List.mem_map.2 ⟨_, hmem, if_neg fun hkey => hsame (Option.some.inj hkey)⟩, hof⟩

end Holds

/-! ## Requests one after another -/

/-- A request of a caller that was authenticated on the tables as they are: any failure may wait, and the identifiers
that are generated are new. -/
inductive Called (before : Tables) : Tables → Prop
  | call {actor : Agent} (hcaller : Resolves before actor) (request : Request) (fault? : Option Fault)
    (source : Entropy)
    (hfresh : ∀ id ∈ request.identifiers actor { before with fault? := fault? } source, before.IsNew id) :
    Called before (request.run actor { before with fault? := fault? } source).2.1

theorem Called.handled (h : Called before after) : Handled (fun _ _ _ => True) before after := by
  obtain ⟨hcaller, request, fault?, source, hfresh⟩ := h
  exact .serve hcaller request trivial fault? source hfresh

theorem Called.holds (h : Called before after) (hholds : Holds before credential) : Holds after credential := by
  rcases h.handled.cases with hrows | ⟨drawn, actor, request, reply, writes, hnew, hactor, -, hgrounds, hrows⟩
  · exact hholds.congr (congrFun hrows "agents")
  · rcases agents_of_grounds hgrounds with hsame | ⟨agent, hgenerated, rfl⟩ | ⟨status?, now, rfl⟩
    · exact hholds.congr ((congrFun hrows "agents").trans hsame)
    · exact (hholds.added (hnew agent.id hgenerated .agent)).congr (congrFun hrows "agents")
    · exact (hholds.seen hactor status? now).congr (congrFun hrows "agents")

/-- Requests one after another, none of which gives another agent the digest of a token. -/
def CalledAlone (credential : Credential) (before after : Tables) : Prop :=
  Called before after ∧ Sole after credential

theorem holds_of_run (hstart : Holds start credential)
    (hrun : Relation.ReflTransGen (CalledAlone credential) start now) : Holds now credential := by
  induction hrun with
  | refl => exact hstart
  | tail _ hstep ih => exact hstep.1.holds ih

/-! ## Issued tokens -/

/-- A token that is issued is a text without blanks, and who it is issued for is added to the agents. -/
theorem createAgent_issues {source rest : Entropy} (hfull : source.Full) {boardId : String}
    (hboard : actor.boardId? = some boardId) {payload : NewAgent} {time : String} {issued : IssuedAgent}
    (hfresh : ∀ id ∈ (createAgent actor payload time).identifiers store start source, start.IsNew id)
    (hissued : (createAgent actor payload time).run store start source = (.ok issued, after, rest)) :
    Text.Solid issued.token ∧ start.IsNew issued.agent.id ∧ ∃ agent : Agent,
      Credential.Of ⟨issued.token, issued.agent.id, issued.agent.name, boardId⟩ agent ∧
        after.rows "agents" = start.rows "agents" ++ [agent.record] := by
  obtain ⟨writes, ⟨-, board, name, token, id, hlead, -, -, ⟨bytes, hdrawn, rfl⟩, hgenerated, rfl, rfl⟩, hrows⟩ :=
    (@createAgent_grounds ((createAgent actor payload time).Drawn store start source) actor start payload
      time).committed rfl (fun _ h => h) hissued
  -- The board is that of the lead, whatever the payload names.
  obtain rfl : board = boardId := by
    unfold Agent.leadBoard Agent.boundBoard? at hlead
    rw [hboard] at hlead
    split at hlead
    · split at hlead
      · rename_i hbound
        cases hlead
        exact (Option.some.inj (Option.filter_eq_some_iff.1 hbound).1).symm
      · cases hlead
    · cases hlead
  have hlength : bytes.length = 32 := length_of_draws store _ _ hfull _ hdrawn
  refine ⟨Text.solid_hex fun hnil => by simp [hnil] at hlength, hfresh id hgenerated.mem_identifiers,
    freshAgent id board name (Text.hex bytes) time, ⟨rfl, rfl, rfl, rfl, rfl⟩, ?_⟩
  exact (congrFun hrows "agents").trans rows_carryOut_insert

theorem issued_holds (hunique : start.UniqueIds) {source rest : Entropy} (hfull : source.Full) {boardId : String}
    (hboard : actor.boardId? = some boardId) {payload : NewAgent} {time : String} {issued : IssuedAgent}
    (hfresh : ∀ id ∈ (createAgent actor payload time).identifiers store start source, start.IsNew id)
    (hissued : (createAgent actor payload time).run store start source = (.ok issued, after, rest)) :
    Holds after ⟨issued.token, issued.agent.id, issued.agent.name, boardId⟩ := by
  obtain ⟨-, hnew, added, hof, hrows⟩ := createAgent_issues hfull hboard hfresh hissued
  refine ⟨?_, added, ?_, hof⟩ <;> rw [hrows]
  · refine nodup_filterMap_concat (hunique .agent) fun id hid row hrow hkey => ?_
    exact hnew .agent ⟨row, hrow, hkey.trans (hid.symm.trans (congrArg some hof.id))⟩
  · exact List.mem_append_right _ (List.mem_singleton_self _)

/-- A token that was issued when an agent was created stands for that agent from then on. Whatever requests follow of
callers that were authenticated, as long as no other agent has the digest of the token, a request that says the token
in one of its headers is that of an agent with the identifier and the name that were returned, on the board of the
lead that created it, and no lead itself. -/
theorem issued_authenticates (hunique : start.UniqueIds) {source rest : Entropy} (hfull : source.Full)
    {boardId : String} (hboard : actor.boardId? = some boardId) {payload : NewAgent} {time : String}
    {issued : IssuedAgent} {created : Tables}
    (hfresh : ∀ id ∈ (createAgent actor payload time).identifiers store start source, start.IsNew id)
    (hissued : (createAgent actor payload time).run store start source = (.ok issued, created, rest))
    (hsole : Sole created ⟨issued.token, issued.agent.id, issued.agent.name, boardId⟩)
    (hrun : Relation.ReflTransGen (CalledAlone ⟨issued.token, issued.agent.id, issued.agent.name, boardId⟩) created now)
    (hquiet : now.fault? = none) {headers : Http.Headers} (hsay : headers.Say issued.token) (source' : Entropy) :
    ∃ agent, ((Token.authenticate headers.token?).run store now source').1 = .ok agent ∧
      agent.id = issued.agent.id ∧ agent.name = issued.agent.name ∧ agent.boardId? = some boardId ∧
      agent.isBoardLead = false := by
  have hsolid := (createAgent_issues hfull hboard hfresh hissued).1
  have hcreated := issued_holds hunique hfull hboard hfresh hissued
  have hsole' : Sole now ⟨issued.token, issued.agent.id, issued.agent.name, boardId⟩ := by
    cases hrun with
    | refl => exact hsole
    | tail _ hstep => exact hstep.2
  obtain ⟨agent, honly, hagent⟩ := (holds_of_run hcreated hrun).only hsole'
  refine ⟨agent, ?_, hagent.id, hagent.name, hagent.boardId, hagent.notLead⟩
  rw [hsay.token?_eq hsolid]
  exact authenticate_of_only honly hquiet source'

/-! ## A first sign of life -/

theorem draws_heartbeat (payload : Heartbeat) (time : String) (source : Entropy) :
    (heartbeat actor payload time).draws store s source = [] := by
  unfold heartbeat
  rcases actor.requireIdentity payload.name with e | _
  · rfl
  · show draws store (.write ⟨.update, Agent.schema, (Agent.seen actor payload.status? time).record⟩ _) s source = []
    unfold draws
    rcases store.write _ s with ⟨_ | _, after⟩ <;> rfl

/-- A sign of life gives no other agent the digest of a token. -/
theorem Sole.heartbeat (hsole : Sole s credential) (hactor : Agent.model.StoredIn s actor) (payload : Heartbeat)
    (time : String) (source : Entropy) :
    Sole ((Endpoint.heartbeat actor payload time).run store s source).2.1 credential := by
  have hstep := @heartbeat_grounds (fun _ _ => True) actor s payload time
  rcases hstep.rows_run rfl source fun _ _ => trivial with hrows | ⟨view, writes, ⟨-, -, -, rfl⟩, hrows⟩
  · intro row hrow
    exact hsole row (congrFun hrows "agents" ▸ hrow)
  · intro row hrow htoken
    rw [congrFun hrows "agents", List.foldl_cons, List.foldl_nil] at hrow
    rcases mem_of_mem_carryOut hrow with hstored | ⟨-, rfl⟩
    · exact hsole row hstored htoken
    · -- The caller has had the digest before, so it is the agent that may have it.
      obtain ⟨old, hold, hdecode⟩ := hactor
      have hkept : old.text? "agent_token_hash" = some (Token.hash credential.token) :=
        (Record.text?_congr (Agent.value?_of_ofRecord? hdecode "agent_token_hash" (by decide)).symm).symm.trans htoken
      have hid := hsole old hold hkept
      exact (Agent.text?_of_ofRecord? hdecode).1.symm.trans hid

/-- A lead without a token of its own. -/
def guide : Agent :=
  { lead with tokenHash? := none }

theorem full_counting : Entropy.counting.Full := by
  rintro place size bytes ⟨⟩
  simp

theorem say_agent (token : String) : Http.Headers.Say [("X-Agent-Token", token)] token := by
  have hword : Text.sameWord "X-Agent-Token" Token.agentHeader = true := by decide
  exact .inl (by simp [Http.Headers.value?, hword])

theorem say_bearer (token : String) :
    Http.Headers.Say [("x-agent-token", " "), ("Authorization", "Bearer " ++ token)] token := by
  have hagent : Text.sameWord "x-agent-token" Token.authorizationHeader = false := by decide
  have hauthorization : Text.sameWord "Authorization" Token.authorizationHeader = true := by decide
  refine .inr ⟨fun value hvalue => ?_, by simp [Http.Headers.value?, hagent, hauthorization]⟩
  have hblank : Http.Headers.value? [("x-agent-token", " "), ("Authorization", "Bearer " ++ token)] Token.agentHeader =
      some " " := by
    have hword : Text.sameWord "x-agent-token" Token.agentHeader = true := by decide
    have hother : Text.sameWord "Authorization" Token.agentHeader = false := by decide
    simp [Http.Headers.value?, hword, hother]
  obtain rfl : " " = value := Option.some.inj (hblank.symm.trans hvalue)
  decide

/-- The lead creates an agent and names another board. -/
def hiring : Serving IssuedAgent :=
  createAgent guide ⟨"Bob", some "b2"⟩ "2024-01-02"

theorem hiring_fresh : ∀ id ∈ hiring.identifiers store (yard guide) .counting, (yard guide).IsNew id := by
  have hids : hiring.identifiers store (yard guide) .counting = ["02030405060708090a0b0c0d0e0f1011"] := by
    decide +kernel
  intro id hid
  obtain rfl := List.mem_singleton.1 (hids ▸ hid)
  intro entity
  cases entity <;> unfold Has <;> decide

/-- A sign of life is a request that a caller may make. -/
theorem called_heartbeat (hcaller : Resolves before actor) (payload : Heartbeat) (time : String) (source : Entropy) :
    Called before ((Request.heartbeat payload time).run actor { before with fault? := none } source).2.1 := by
  refine .call hcaller (.heartbeat payload time) none source fun id hid => ?_
  have hdraws : ((Request.heartbeat payload time).serve actor).draws store { before with fault? := none } source = [] :=
    draws_heartbeat payload time source
  unfold Request.identifiers Flow.identifiers at hid
  rw [hdraws] at hid
  cases hid

/-- The agent that the lead creates gives a sign of life, and is known by its token then. -/
theorem issued_authenticates_yard : ∃ issued created rest now,
    (yard guide).UniqueIds ∧ Entropy.counting.Full ∧ guide.boardId? = some "b1" ∧
    hiring.run store (yard guide) .counting = (.ok issued, created, rest) ∧
    Relation.ReflTransGen (CalledAlone ⟨issued.token, issued.agent.id, issued.agent.name, "b1"⟩) created now ∧
    ∀ headers ∈ [[("X-Agent-Token", issued.token)],
        [("x-agent-token", " "), ("Authorization", "Bearer " ++ issued.token)]],
      ∃ agent, ((Token.authenticate (Http.Headers.token? headers)).run store now .counting).1 = .ok agent ∧
        agent.id = issued.agent.id ∧ agent.name = issued.agent.name ∧ agent.boardId? = some "b1" ∧
        agent.isBoardLead = false := by
  obtain ⟨issued, created, rest, hissued⟩ := @exists_run_eq _ _ hiring (yard guide) .counting (by decide +kernel)
  obtain ⟨-, -, added, hof, hrows⟩ := createAgent_issues full_counting rfl hiring_fresh hissued
  have hagents : created.rows "agents" = [guide.record, added.record] := hrows
  have hsole : Sole created ⟨issued.token, issued.agent.id, issued.agent.name, "b1"⟩ := by
    intro row hrow htoken
    rw [hagents] at hrow
    rcases List.mem_pair.1 hrow with rfl | rfl
    · cases htoken
    · exact congrArg some hof.id
  obtain ⟨caller, honly, -⟩ := (issued_holds (uniqueIds_yard guide) full_counting rfl hiring_fresh hissued).only hsole
  have hcaller := resolves_of_only honly
  let beat : Heartbeat := ⟨caller.name, none⟩
  let now := ((Request.heartbeat beat "2024-01-03").run caller { created with fault? := none } .counting).2.1
  have halone : Sole now ⟨issued.token, issued.agent.id, issued.agent.name, "b1"⟩ :=
    @Sole.heartbeat caller { created with fault? := none } _ hsole (stored_of_resolves hcaller) beat "2024-01-03"
      .counting
  have hcalled : CalledAlone ⟨issued.token, issued.agent.id, issued.agent.name, "b1"⟩ created now :=
    ⟨called_heartbeat hcaller beat "2024-01-03" .counting, halone⟩
  have hrun := Relation.ReflTransGen.single hcalled
  have hquiet : now.fault? = none := run_quiet _ rfl _
  have hknown := fun headers hsay => @issued_authenticates guide (yard guide) now (uniqueIds_yard guide) _ _
    full_counting _ rfl _ _ _ _ hiring_fresh hissued hsole hrun hquiet headers hsay .counting
  exact ⟨issued, created, rest, now, uniqueIds_yard guide, full_counting, rfl, hissued, hrun,
    List.forall_mem_cons.2 ⟨hknown _ (say_agent _), List.forall_mem_singleton.2 (hknown _ (say_bearer _))⟩⟩

end Endpoint

end Taskboard
