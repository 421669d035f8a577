/-
Callers: agents that a token stands for. Such an agent has a row among the agents, and the only agent
with the digest of a token is found by it.
-/
import Taskboard.Endpoint.Agents
import Taskboard.Proofs.Endpoint.Lookup

namespace Taskboard.Endpoint

open Taskboard.Flow Tables

variable {drawn : Nat → List UInt8 → Prop} {actor : Agent} {s tables : Tables}

/-- A caller that a token stood for on the rows that the tables have. -/
def Resolves (tables : Tables) (actor : Agent) : Prop :=
  ∃ (before : Tables) (token? : Option String) (source : Entropy), before.rows = tables.rows ∧
    ((Token.authenticate token?).run store before source).1 = .ok actor

theorem authenticate_inStep (token? : Option String) :
    InStep drawn s s (Token.authenticate token?) (Token.authenticate token?) fun x _ _ =>
      ∃ row ∈ s.rows "agents", Agent.model.decode? (.object row) = some x := by
  rcases token? with _ | token
  · exact .fail _
  · refine .bindSame (.resolved _) fun plan hplan => ?_
    cases hplan
    refine .bindSame (.query (.first_of_same rfl)) fun agent? hfound => ?_
    split
    · obtain ⟨row, hrow, -, hdecode⟩ := (hfound _ rfl).1
      exact .value ⟨row, hrow, hdecode⟩
    · exact .fail _

/-- A caller that a token stands for has a row. -/
theorem stored_of_resolves (h : Resolves tables actor) :
    ∃ row ∈ tables.rows "agents", Agent.model.decode? (.object row) = some actor := by
  obtain ⟨before, token?, source, hrows, hrun⟩ := h
  have hstep := @authenticate_inStep (fun _ _ => True) tables token?
  have hends := hstep.commits hrows source fun _ _ => trivial
  rcases hresult : (Token.authenticate token?).run store before source with ⟨result, after, rest⟩
  rw [hresult] at hends hrun
  cases hrun
  obtain ⟨writes, hstored, -⟩ := hends
  exact hstored

/-! ## Finding a caller -/

/-- The plan that looks for the agent with a token. -/
def tokenPlan (token : String) : Plan :=
  ⟨Agent.schema, [.equals "agent_token_hash" (.string (Token.hash token))], [], none, none⟩

/-- Whether a row has the digest of a token. -/
def hasToken (token : String) (row : Record) : Bool :=
  row.text? "agent_token_hash" == some (Token.hash token)

section Only

variable {token : String} (honly : (tables.rows "agents").filter (hasToken token) = [actor.record])
include honly

theorem answer_tokenPlan : tables.answer ((tokenPlan token).take 1) = [actor.record] := by
  have hmeeting : tables.rowsMeeting ((tokenPlan token).take 1) = [actor.record] := by
    rw [← honly]
    refine List.filter_congr fun row _ => Bool.eq_iff_iff.2 ?_
    unfold hasToken
    rw [Predicate.allHold_iff, beq_iff_eq]
    show (tokenPlan token).Meets row ↔ _
    exact meets_singleton rfl
  unfold answer
  rw [hmeeting, sorted, List.mergeSort_singleton]
  rfl

/-- The only agent with the digest of a token is found by the token. -/
theorem authenticate_of_only (hquiet : tables.fault? = none) (source : Entropy) :
    ((Token.authenticate (some token)).run store tables source).1 = .ok actor := by
  have hdecode : Agent.model.decodeAll [.object actor.record] = .ok [actor] :=
    Model.decodeAll_eq_ok_iff.2 (congrArg (fun x => [x]) (Agent.ofRecord?_record actor))
  have hfirst : ((Agent.model.first (tokenPlan token)).run store tables source).1 = .ok (some actor) :=
    congrArg Prod.fst (Model.run_first_of_quiet hquiet rfl rfl (by rw [answer_tokenPlan honly]; exact hdecode) _)
  show ((((Agent.model.first (tokenPlan token)).mapError Failure.query >>= fun agent? => _ : Serving Agent)).run
    store _ _).1 = _
  rw [run_bind, run_mapError]
  rcases hrun : (Agent.model.first (tokenPlan token)).run store tables source with ⟨result, after, rest⟩
  rw [hrun] at hfirst
  cases hfirst
  rfl

/-- The only agent with the digest of a token is who the token stands for. -/
theorem resolves_of_only : Resolves tables actor :=
  ⟨{ tables with fault? := none }, some token, Entropy.counting, rfl,
    @authenticate_of_only actor { tables with fault? := none } token honly rfl Entropy.counting⟩

end Only

/-! ## A small office -/

theorem exists_run_eq {ε α : Type} {flow : Flow ε α} {s : Tables} {source : Entropy}
    (h : ((flow.run store s source).1 matches .ok _) = true) :
    ∃ x after rest, flow.run store s source = (.ok x, after, rest) := by
  rcases hrun : flow.run store s source with ⟨_ | x, after, rest⟩
  · rw [hrun] at h
    cases h
  · exact ⟨x, after, rest, rfl⟩

/-- A lead with a token. -/
def lead : Agent where
  id := "a1"
  boardId? := some "b1"
  name := "Ada"
  status := "online"
  isBoardLead := true
  tokenHash? := some (Token.hash "secret")
  lastSeenAt? := none
  createdAt := "2024-01-01"
  updatedAt := "2024-01-01"

/-- Two boards, a lead on the first of them, and some entries in their memories. -/
def office (entries : List MemoryEntry) : Tables where
  rows
    | "boards" => [Board.record ⟨"b1", "Home", "home", none, "", ""⟩, Board.record ⟨"b2", "Away", "away", none, "", ""⟩]
    | "agents" => [lead.record]
    | "board_memory" => entries.map MemoryEntry.record
    | _ => []
  calls := []
  fault? := none

theorem resolves_office (entries : List MemoryEntry) : Resolves (office entries) lead := by
  have honly : ((office entries).rows "agents").filter (hasToken "secret") = [lead.record] := by
    refine List.filter_eq_self.2 fun row hrow => ?_
    obtain rfl : row = lead.record := List.mem_singleton.1 hrow
    exact beq_self_eq_true (some (Token.hash "secret"))
  exact resolves_of_only honly

theorem uniqueIds_office {entries : List MemoryEntry} (h : (entries.map (·.id)).Nodup) : (office entries).UniqueIds := by
  intro entity
  cases entity with
  | memory =>
    show ((entries.map MemoryEntry.record).filterMap (·.text? "id")).Nodup
    rw [List.filterMap_map]
    exact (congrFun List.filterMap_eq_map entries).symm ▸ h
  | board => exact (by decide : ["b1", "b2"].Nodup)
  | agent => exact List.nodup_singleton "a1"
  | task | comment | approval | session => exact List.nodup_nil

theorem readable_office (entries : List MemoryEntry) : (office entries).Readable := by
  intro entity row hrow
  cases entity with
  | board =>
    have hboards : row ∈ [Board.record ⟨"b1", "Home", "home", none, "", ""⟩,
      Board.record ⟨"b2", "Away", "away", none, "", ""⟩] := hrow
    rw [List.mem_pair] at hboards
    rcases hboards with rfl | rfl <;> exact ⟨_, rfl⟩
  | agent =>
    obtain rfl : row = lead.record := List.mem_singleton.1 hrow
    exact ⟨lead, lead.ofRecord?_record⟩
  | memory =>
    obtain ⟨entry, -, rfl⟩ := List.mem_map.1 hrow
    exact ⟨entry, entry.ofRecord?_record⟩
  | task | comment | approval | session => exact absurd hrow (List.not_mem_nil)

end Taskboard.Endpoint
