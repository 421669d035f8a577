/-
Flows that do not look at digests. Two flows match when they ask for the same rows, none of them by its digest, write
the same but for digests, and end alike, whatever digests they are shown (`Matches`). On states that are equal but for
digests they end alike, and leave states that are again equal but for digests (`run_of_matches`). The rules follow how
flows are put together.
-/
import Taskboard.Proofs.Flow.Run
import Taskboard.Proofs.Storage.Digests

namespace Taskboard

namespace Flow

open Tables

variable {ε δ α β : Type}

/-! ## The judgement -/

/-- Two runs end alike: with one error, or with values that are seen alike. -/
inductive EndsAlike (seen : α → α → Prop) : Except ε α → Except ε α → Prop
  | ok {x y : α} (h : seen x y) : EndsAlike seen (.ok x) (.ok y)
  | error (e : ε) : EndsAlike seen (.error e) (.error e)

theorem EndsAlike.mapError {seen : α → α → Prop} {result result' : Except ε α} (h : EndsAlike seen result result')
    (tell : ε → δ) : EndsAlike seen (result.mapError tell) (result'.mapError tell) := by
  cases h with
  | ok hseen => exact .ok hseen
  | error e => exact .error (tell e)

theorem EndsAlike.eq {result result' : Except ε α} (h : EndsAlike Eq result result') : result = result' := by
  cases h with
  | ok hseen => rw [hseen]
  | error e => rfl

/-- Two flows that match, whatever digests they are shown. -/
inductive Matches (seen : α → α → Prop) : Flow ε α → Flow ε α → Prop
  | done {result result' : Except ε α} (h : EndsAlike seen result result') : Matches seen (.done result) (.done result')
  | select {plan : Plan} {k l : Except StorageError (List Json) → Flow ε α} (hplan : plan.Discreet)
      (herror : ∀ e, Matches seen (k (.error e)) (l (.error e)))
      (hok : ∀ rows rows', Record.AllAlike plan.schema.table rows rows' →
        Matches seen (k (.ok (rows.map .object))) (l (.ok (rows'.map .object)))) :
      Matches seen (.select plan k) (.select plan l)
  | write {w w' : Write} {k l : Except StorageError Unit → Flow ε α} (hw : w.Discreet) (hw' : w'.Discreet)
      (hmasked : w.masked = w'.masked) (h : ∀ answer, Matches seen (k answer) (l answer)) :
      Matches seen (.write w k) (.write w' l)
  | batch {ws ws' : List Write} {k l : Except StorageError Unit → Flow ε α} (hws : ∀ w ∈ ws, w.Discreet)
      (hws' : ∀ w ∈ ws', w.Discreet) (hmasked : ws.map Write.masked = ws'.map Write.masked)
      (h : ∀ answer, Matches seen (k answer) (l answer)) : Matches seen (.batch ws k) (.batch ws' l)
  | random {size : Nat} {k l : Option (List UInt8) → Flow ε α} (h : ∀ bytes?, Matches seen (k bytes?) (l bytes?)) :
      Matches seen (.random size k) (.random size l)

/-- Flows that match end alike on states that are equal but for digests, and leave such states. -/
theorem run_of_matches {seen : α → α → Prop} {f g : Flow ε α} (hmatch : Matches seen f g) {s t : Tables}
    (h : s.AlikeButDigests t) (source : Entropy) :
    EndsAlike seen (f.run store s source).1 (g.run store t source).1 ∧
      (f.run store s source).2.1.AlikeButDigests (g.run store t source).2.1 ∧
      (f.run store s source).2.2 = (g.run store t source).2.2 := by
  induction hmatch generalizing s t source with
  | done hends => exact ⟨hends, h, rfl⟩
  | @select plan k l hplan _ _ iherror ihok =>
    obtain ⟨hresult, hlogged⟩ := h.log ⟨.select, plan.schema.table, plan.selectStatement.text⟩
    simp only [run, store, Tables.select]
    rcases hs : s.log ⟨.select, plan.schema.table, plan.selectStatement.text⟩ with ⟨e | _, s'⟩ <;>
      rcases ht : t.log ⟨.select, plan.schema.table, plan.selectStatement.text⟩ with ⟨e' | _, t'⟩ <;>
      rw [hs, ht] at hresult hlogged
    · cases hresult
      exact iherror e hlogged source
    · cases hresult
    · cases hresult
    · exact ihok _ _ (hlogged.answer hplan) hlogged source
  | @write w w' k l hw hw' hmasked _ ih =>
    obtain ⟨hresult, hwritten⟩ := h.batch (List.forall_mem_singleton.2 hw) (List.forall_mem_singleton.2 hw')
      (congrArg (fun w => [w]) hmasked)
    simp only [run, store, write_eq_batch, hresult]
    exact ih _ hwritten source
  | batch hws hws' hmasked _ ih =>
    obtain ⟨hresult, hwritten⟩ := h.batch hws hws' hmasked
    simp only [run, store, hresult]
    exact ih _ hwritten source
  | random _ ih => exact ih _ h _

namespace Matches

/-! ## Sequencing -/

variable {seen : α → α → Prop}

theorem andThen {seen' : β → β → Prop} {f g : Flow ε α} {next next' : Except ε α → Flow δ β} (h : Matches seen f g)
    (hnext : ∀ result result', EndsAlike seen result result' → Matches seen' (next result) (next' result')) :
    Matches seen' (f.andThen next) (g.andThen next') := by
  induction h with
  | done hends => exact hnext _ _ hends
  | select hplan _ _ iherror ihok => exact .select hplan iherror ihok
  | write hw hw' hmasked _ ih => exact .write hw hw' hmasked ih
  | batch hws hws' hmasked _ ih => exact .batch hws hws' hmasked ih
  | random _ ih => exact .random ih

theorem value {x y : α} (h : seen x y) : Matches seen (pure x : Flow ε α) (pure y) :=
  .done (.ok h)

theorem fail (e : ε) : Matches seen (.fail e : Flow ε α) (.fail e) :=
  .done (.error e)

/-- A result that is there without asking. -/
theorem ofExcept (result : Except ε α) : Matches Eq (.done result) (.done result) := by
  cases result with
  | ok x => exact .done (.ok rfl)
  | error e => exact .done (.error e)

theorem bind {seen' : β → β → Prop} {f g : Flow ε α} {k l : α → Flow ε β} (h : Matches seen f g)
    (hk : ∀ x y, seen x y → Matches seen' (k x) (l y)) : Matches seen' (f >>= k) (g >>= l) := by
  refine andThen h fun result result' hends => ?_
  cases hends with
  | ok hseen => exact hk _ _ hseen
  | error e => exact .fail e

/-- Behind flows that end with the same value. -/
theorem bindSame {seen' : β → β → Prop} {f g : Flow ε α} {k l : α → Flow ε β} (h : Matches Eq f g)
    (hk : ∀ x, Matches seen' (k x) (l x)) : Matches seen' (f >>= k) (g >>= l) :=
  bind h fun x _ hx => hx ▸ hk x

theorem mapError {f g : Flow ε α} (tell : ε → δ) (h : Matches seen f g) :
    Matches seen (f.mapError tell) (g.mapError tell) := by
  refine andThen h fun result result' hends => ?_
  cases hends with
  | ok hseen => exact .value hseen
  | error e => exact .fail _

/-! ## Queries -/

theorem all {model : Model α} {plan : Plan} {seen : List α → List α → Prop} (hplan : plan.Discreet) (hnil : seen [] [])
    (hdecode : ∀ rows rows', Record.AllAlike plan.schema.table rows rows' →
      EndsAlike seen (model.decodeAll (rows.map .object)) (model.decodeAll (rows'.map .object))) :
    Matches seen (model.all plan) (model.all plan) := by
  unfold Model.all Plan.ask
  split
  · exact .fail _
  · split
    · exact .value hnil
    · refine .select hplan (fun e => .fail _) fun rows rows' halike => ?_
      exact .done ((hdecode rows rows' halike).mapError QueryError.storage)

/-- Rows of other tables are the same rows. -/
theorem all_of_other {model : Model α} {plan : Plan} (hother : plan.schema.table ≠ "agents") :
    Matches Eq (model.all plan) (model.all plan) := by
  refine .all (fun _ _ htable => absurd htable hother) rfl fun rows rows' halike => ?_
  rw [halike.eq hother]
  cases model.decodeAll (rows'.map .object) with
  | ok values => exact .ok rfl
  | error e => exact .error e

theorem first_of_other {model : Model α} {plan : Plan} (hother : plan.schema.table ≠ "agents") :
    Matches Eq (model.first plan) (model.first plan) :=
  .bindSame (all_of_other hother) fun _ => .value rfl

theorem hasAny_of_other {model : Model α} {plan : Plan} (hother : plan.schema.table ≠ "agents") :
    Matches Eq (model.hasAny plan) (model.hasAny plan) :=
  .bindSame (first_of_other hother) fun _ => .value rfl

section Agents

variable {plan : Plan} (hschema : plan.schema = Agent.schema) (hplan : plan.Discreet)
include hschema hplan

/-- Agents that are found are the same but for their digests. -/
theorem all_agents : Matches (fun agents agents' => agents.map Agent.masked = agents'.map Agent.masked)
    (Agent.model.all plan) (Agent.model.all plan) := by
  refine .all hplan rfl fun rows rows' halike => ?_
  rw [hschema] at halike
  have hdecoded : (Agent.model.decodeAll (rows.map .object)).map (List.map Agent.masked) =
      (Agent.model.decodeAll (rows'.map .object)).map (List.map Agent.masked) := by
    rw [← Agent.decodeAll_masked halike.digested.1, ← Agent.decodeAll_masked halike.digested.2]
    exact congrArg (fun rows => Agent.model.decodeAll (rows.map .object)) halike.masked
  revert hdecoded
  rcases Agent.model.decodeAll (rows.map .object) with e | agents <;>
    rcases Agent.model.decodeAll (rows'.map .object) with e' | agents' <;> intro hdecoded
  · cases hdecoded
    exact .error e
  · cases hdecoded
  · cases hdecoded
  · exact .ok (Except.ok.inj hdecoded)

theorem first_agents : Matches (fun agent? agent?' => agent?.map Agent.masked = agent?'.map Agent.masked)
    (Agent.model.first plan) (Agent.model.first plan) := by
  refine .bind (all_agents hschema hplan) fun agents agents' hagents => .value ?_
  rw [← List.head?_map, hagents, List.head?_map]

theorem hasAny_agents : Matches Eq (Agent.model.hasAny plan) (Agent.model.hasAny plan) := by
  refine .bind (first_agents hschema hplan) fun agent? agent?' hagent => .value ?_
  rw [← Option.isSome_map, hagent, Option.isSome_map]

end Agents

/-! ## Writes -/

/-- Savings that are equal but for digests. -/
theorem send (saving saving' : Saving) (hmasked : saving.write.masked = saving'.write.masked) :
    Matches Eq (saving.entity.model.send saving.kind saving.value)
      (saving'.entity.model.send saving'.kind saving'.value) := by
  unfold Model.send
  rw [saving.entity.encode_eq, saving'.entity.encode_eq]
  exact .write saving.discreet saving'.discreet hmasked ofExcept

theorem sendAll (savings : List Saving) :
    Matches Eq (Flow.sendAll (savings.map Saving.asked)) (Flow.sendAll (savings.map Saving.asked)) := by
  have hdiscreet : ∀ w ∈ savings.map Saving.write, w.Discreet := by
    rintro _ hw
    obtain ⟨saving, -, rfl⟩ := List.mem_map.1 hw
    exact saving.discreet
  rw [Saving.map_asked, Flow.sendAll_ok]
  exact .batch hdiscreet hdiscreet rfl ofExcept

end Matches

end Flow

end Taskboard
