/-
Two runs in step. Two flows that run on two states of the tables go in step (`InStep`) when,
whatever failure waits and whatever the random source answers, they end with the same error and no
row changed in either state, or with two values and the same writes carried out in both, and leave
the same of the failure and of the source. What is known of the two values and of the writes is the
third part of the judgement. On one state it says that a flow is atomic (`InStep.commits`); on two
states it says that what they differ in is not seen.
-/
import Taskboard.Storage.Model
import Taskboard.Proofs.Storage.Rows

namespace Taskboard

/-! ## Round trips on tables -/

namespace Tables

variable {a b s t : Tables}

theorem log_rows (tables : Tables) (call : Call) : (tables.log call).2.rows = tables.rows := by
  unfold log
  split
  · rfl
  · simp only
    split <;> rfl

/-- Whether a round trip fails depends only on the failure that waits. -/
theorem log_congr (h : a.fault? = b.fault?) (call : Call) :
    (a.log call).1 = (b.log call).1 ∧ (a.log call).2.fault? = (b.log call).2.fault? := by
  unfold log
  rw [h]
  split
  · exact ⟨rfl, rfl⟩
  · simp only
    split <;> exact ⟨rfl, rfl⟩

theorem logWrite_rows (tables : Tables) (write : Write) : (tables.logWrite write).2.rows = tables.rows := by
  unfold logWrite
  split
  · rfl
  · exact log_rows _ _

theorem logWrite_congr (h : a.fault? = b.fault?) (write : Write) :
    (a.logWrite write).1 = (b.logWrite write).1 ∧ (a.logWrite write).2.fault? = (b.logWrite write).2.fault? := by
  unfold logWrite
  split
  · exact ⟨rfl, h⟩
  · exact log_congr h _

theorem logWrites_rows (writes : List Write) (tables : Tables) :
    (tables.logWrites writes).2.rows = tables.rows := by
  induction writes generalizing tables with
  | nil => rfl
  | cons write rest ih =>
    have hrows := logWrite_rows tables write
    rw [logWrites]
    rcases hlog : tables.logWrite write with ⟨_ | _, next⟩ <;> rw [hlog] at hrows
    · exact hrows
    · exact (ih next).trans hrows

theorem logWrites_congr (writes : List Write) (h : a.fault? = b.fault?) :
    (a.logWrites writes).1 = (b.logWrites writes).1 ∧
      (a.logWrites writes).2.fault? = (b.logWrites writes).2.fault? := by
  induction writes generalizing a b with
  | nil => exact ⟨rfl, h⟩
  | cons write rest ih =>
    obtain ⟨hresult, hfault⟩ := logWrite_congr h write
    rw [logWrites, logWrites]
    rcases ha : a.logWrite write with ⟨e | _, a'⟩ <;> rcases hb : b.logWrite write with ⟨e' | _, b'⟩ <;>
      rw [ha, hb] at hresult hfault
    · exact ⟨hresult, hfault⟩
    · cases hresult
    · cases hresult
    · exact ih hfault

theorem carryOut_congr (h : a.rows = s.rows) (write : Write) :
    (a.carryOut write).rows = (s.carryOut write).rows := by
  unfold carryOut setRows
  rw [h]
  split
  · rfl
  · split
    · rfl
    · exact h

theorem carryOut_fault (tables : Tables) (write : Write) : (tables.carryOut write).fault? = tables.fault? := by
  unfold carryOut
  split
  · rfl
  · split <;> rfl

theorem carryOuts_congr (writes : List Write) (h : a.rows = s.rows) :
    (writes.foldl carryOut a).rows = (writes.foldl carryOut s).rows := by
  induction writes generalizing a s with
  | nil => exact h
  | cons write rest ih => exact ih (carryOut_congr h write)

theorem carryOuts_fault (writes : List Write) (tables : Tables) :
    (writes.foldl carryOut tables).fault? = tables.fault? := by
  induction writes generalizing tables with
  | nil => rfl
  | cons write rest ih => exact (ih _).trans (carryOut_fault tables write)

/-! ## No failure -/

section Quiet

variable {tables : Tables} (h : tables.fault? = none)
include h

theorem log_quiet (call : Call) : (tables.log call).2.fault? = none := by
  unfold log
  rw [h]

theorem logWrite_quiet (write : Write) : (tables.logWrite write).2.fault? = none := by
  unfold logWrite
  split
  · exact h
  · exact log_quiet h _

omit h in
theorem logWrites_quiet (writes : List Write) (h : tables.fault? = none) :
    (tables.logWrites writes).2.fault? = none := by
  induction writes generalizing tables with
  | nil => exact h
  | cons write rest ih =>
    have hwrite := logWrite_quiet h write
    rw [logWrites]
    rcases hlog : tables.logWrite write with ⟨_ | _, next⟩ <;> rw [hlog] at hwrite
    · exact hwrite
    · exact ih hwrite

theorem select_quiet (plan : Plan) : (tables.select plan).2.fault? = none := by
  have hlog := log_quiet h ⟨.select, plan.schema.table, plan.selectStatement.text⟩
  unfold select
  split <;> rename_i heq <;> rw [heq] at hlog <;> exact hlog

theorem count_quiet (plan : Plan) : (tables.count plan).2.fault? = none := by
  have hlog := log_quiet h ⟨.count, plan.schema.table, plan.countStatement.text⟩
  unfold count
  split <;> rename_i heq <;> rw [heq] at hlog <;> exact hlog

theorem write_quiet (w : Write) : (tables.write w).2.fault? = none := by
  have hlog := logWrite_quiet h w
  unfold Tables.write
  split <;> rename_i heq <;> rw [heq] at hlog
  · exact (carryOut_fault _ w).trans hlog
  · exact hlog

theorem batch_quiet (ws : List Write) : (tables.batch ws).2.fault? = none := by
  have hlog := logWrites_quiet ws h
  unfold Tables.batch
  split <;> rename_i heq <;> rw [heq] at hlog
  · exact (carryOuts_fault ws _).trans hlog
  · exact hlog

end Quiet

end Tables

namespace Flow

open Tables

/-- Where no failure waits, none waits after a run. -/
theorem run_quiet {ε α : Type} (flow : Flow ε α) {tables : Tables} (h : tables.fault? = none) (source : Entropy) :
    (flow.run store tables source).2.1.fault? = none := by
  induction flow generalizing tables source with
  | done result => exact h
  | select plan k ih => exact ih _ (select_quiet h plan) source
  | count plan k ih => exact ih _ (count_quiet h plan) source
  | write w k ih => exact ih _ (write_quiet h w) source
  | batch ws k ih => exact ih _ (batch_quiet h ws) source
  | random size k ih => exact ih _ h _

variable {ε δ α β γ κ : Type} {s t : Tables} {drawn : Nat → List UInt8 → Prop}

/-! ## The judgement -/

/-- How two runs end together, from two states: with one error and the rows as they were, or with
two values and the rows changed by the same writes. -/
inductive EndsTogether (s t : Tables) (seen : α → β → List Write → Prop) :
    Except ε α → Tables → Except ε β → Tables → Prop
  | error {e : ε} {a b : Tables} (ha : a.rows = s.rows) (hb : b.rows = t.rows) :
    EndsTogether s t seen (.error e) a (.error e) b
  | ok {x : α} {y : β} {writes : List Write} {a b : Tables} (h : seen x y writes)
    (ha : a.rows = (writes.foldl carryOut s).rows) (hb : b.rows = (writes.foldl carryOut t).rows) :
    EndsTogether s t seen (.ok x) a (.ok y) b

theorem EndsTogether.mono {seen seen' : α → β → List Write → Prop} {x : Except ε α} {y : Except ε β} {a b : Tables}
    (h : EndsTogether s t seen x a y b) (himp : ∀ x y writes, seen x y writes → seen' x y writes) :
    EndsTogether s t seen' x a y b := by
  cases h with
  | error ha hb => exact .error ha hb
  | ok hseen ha hb => exact .ok (himp _ _ _ hseen) ha hb

/-- Two flows go in step from two states. Of the random bytes that are drawn only `drawn` is known. -/
def InStep (drawn : Nat → List UInt8 → Prop) (s t : Tables) (f : Flow ε α) (g : Flow ε β)
    (seen : α → β → List Write → Prop) : Prop :=
  ∀ (a b : Tables) (source : Entropy), a.rows = s.rows → b.rows = t.rows → a.fault? = b.fault? →
    (∀ draw ∈ f.draws store a source, drawn draw.1 draw.2) →
    EndsTogether s t seen (f.run store a source).1 (f.run store a source).2.1 (g.run store b source).1
        (g.run store b source).2.1 ∧
      (f.run store a source).2.1.fault? = (g.run store b source).2.1.fault? ∧
      (f.run store a source).2.2 = (g.run store b source).2.2

namespace InStep

variable {f : Flow ε α} {g : Flow ε β} {seen : α → β → List Write → Prop}

theorem mono {seen' : α → β → List Write → Prop} (h : InStep drawn s t f g seen)
    (himp : ∀ x y writes, seen x y writes → seen' x y writes) : InStep drawn s t f g seen' := by
  intro a b source ha hb hfault hdrawn
  obtain ⟨hends, hrest⟩ := h a b source ha hb hfault hdrawn
  exact ⟨hends.mono himp, hrest⟩

/-- One state: a run that ends with an error leaves every row as it was, and one that ends with a
value has carried out the writes that are known of it. -/
theorem commits {f : Flow ε α} {seen : α → α → List Write → Prop} (h : InStep drawn s s f f seen)
    {a : Tables} (ha : a.rows = s.rows) (source : Entropy)
    (hdrawn : ∀ draw ∈ f.draws store a source, drawn draw.1 draw.2) :
    match f.run store a source with
    | (.error _, after, _) => after.rows = s.rows
    | (.ok x, after, _) => ∃ writes, seen x x writes ∧ after.rows = (writes.foldl carryOut s).rows := by
  obtain ⟨hends, -, -⟩ := h a a source ha ha rfl hdrawn
  generalize f.run store a source = ended at hends ⊢
  rcases ended with ⟨_ | x, after, rest⟩
  · cases hends with
    | error ha _ => exact ha
  · cases hends with
    | ok hseen ha _ => exact ⟨_, hseen, ha⟩

/-- A run that has ended with a value has carried out the writes that are known of it. -/
theorem committed {f : Flow ε α} {seen : α → α → List Write → Prop} (h : InStep drawn s s f f seen)
    {a after : Tables} (ha : a.rows = s.rows) {source rest : Entropy}
    (hdrawn : ∀ draw ∈ f.draws store a source, drawn draw.1 draw.2) {x : α}
    (hrun : f.run store a source = (.ok x, after, rest)) :
    ∃ writes, seen x x writes ∧ after.rows = (writes.foldl carryOut s).rows := by
  have hends := h.commits ha source hdrawn
  rwa [hrun] at hends

/-- Whatever a run ends with, it has changed no row, or has carried out the writes that are known of it. -/
theorem rows_run {f : Flow ε α} {seen : α → α → List Write → Prop} (h : InStep drawn s s f f seen)
    {a : Tables} (ha : a.rows = s.rows) (source : Entropy)
    (hdrawn : ∀ draw ∈ f.draws store a source, drawn draw.1 draw.2) :
    (f.run store a source).2.1.rows = s.rows ∨ ∃ x writes, seen x x writes ∧
      (f.run store a source).2.1.rows = (writes.foldl carryOut s).rows := by
  have hends := h.commits ha source hdrawn
  rcases hrun : f.run store a source with ⟨_ | x, after, rest⟩ <;> rw [hrun] at hends
  · exact .inl hends
  · exact .inr ⟨x, hends⟩

/-! ## Sequencing -/

theorem value {x : α} {y : β} (h : seen x y []) : InStep drawn s t (pure x : Flow ε α) (pure y) seen :=
  fun _ _ _ ha hb hfault _ => ⟨.ok h ha hb, hfault, rfl⟩

theorem fail (e : ε) : InStep drawn s t (.fail e : Flow ε α) (.fail e : Flow ε β) seen :=
  fun _ _ _ ha hb hfault _ => ⟨.error ha hb, hfault, rfl⟩

theorem ofExcept {seen : α → α → List Write → Prop} (result : Except ε α)
    (h : ∀ x, result = .ok x → seen x x []) : InStep drawn s t (.done result) (.done result) seen := by
  rcases result with e | x
  · exact fail e
  · exact value (h x rfl)

/-- Behind flows that only read, two flows go in step when they do for every pair of values read. -/
theorem bind {mid : α → β → Prop} {seen : γ → κ → List Write → Prop} {k : α → Flow ε γ} {l : β → Flow ε κ}
    (hf : InStep drawn s t f g fun x y writes => writes = [] ∧ mid x y)
    (hk : ∀ x y, mid x y → InStep drawn s t (k x) (l y) seen) : InStep drawn s t (f >>= k) (g >>= l) seen := by
  intro a b source ha hb hfault hdrawn
  -- What is known of the draws is known of those of the first flow and of those behind it.
  rw [draws_bind] at hdrawn
  obtain ⟨hends, hfault', hsource⟩ := hf a b source ha hb hfault fun draw hdraw =>
    hdrawn draw (List.mem_append_left _ hdraw)
  rw [run_bind, run_bind]
  rcases hx : f.run store a source with ⟨result, a', rest⟩
  rcases hy : g.run store b source with ⟨result', b', rest'⟩
  rw [hx] at hends hfault' hsource hdrawn
  rw [hy] at hends hfault' hsource
  cases hsource
  cases hends with
  | error ha' hb' => exact ⟨.error ha' hb', hfault', rfl⟩
  | ok hmid ha' hb' =>
    -- The first flow has written nothing, so the second starts from the rows of `s` and `t`.
    obtain ⟨rfl, hmid⟩ := hmid
    exact hk _ _ hmid a' b' rest ha' hb' hfault' fun draw hdraw => hdrawn draw (List.mem_append_right _ hdraw)

/-- Behind a flow that reads the same value in both states. -/
theorem bindSame {f : Flow ε α} {mid : α → Prop} {seen : γ → κ → List Write → Prop} {k : α → Flow ε γ}
    {l : α → Flow ε κ} (hf : InStep drawn s t f f fun x y writes => writes = [] ∧ x = y ∧ mid x)
    (hk : ∀ x, mid x → InStep drawn s t (k x) (l x) seen) : InStep drawn s t (f >>= k) (f >>= l) seen :=
  bind hf fun x _ hx => hx.1 ▸ hk x hx.2

/-- Behind a flow of which nothing more is known than that it reads the same in both states. -/
theorem bindEqual {f : Flow ε α} {seen : γ → κ → List Write → Prop} {k : α → Flow ε γ} {l : α → Flow ε κ}
    (hf : InStep drawn s t f f fun x y writes => writes = [] ∧ x = y)
    (hk : ∀ x, InStep drawn s t (k x) (l x) seen) : InStep drawn s t (f >>= k) (f >>= l) seen :=
  bind hf fun x _ hx => hx ▸ hk x

/-- A value made of the one that a flow ends with, whatever the flow has written. -/
theorem andReturn {seen : γ → κ → List Write → Prop} {p : α → γ} {q : β → κ}
    (hf : InStep drawn s t f g fun x y writes => seen (p x) (q y) writes) :
    InStep drawn s t (f >>= fun x => pure (p x)) (g >>= fun y => pure (q y)) seen := by
  intro a b source ha hb hfault hdrawn
  rw [draws_bind] at hdrawn
  obtain ⟨hends, hrest⟩ := hf a b source ha hb hfault fun draw hdraw =>
    hdrawn draw (List.mem_append_left _ hdraw)
  rw [run_bind, run_bind]
  generalize f.run store a source = ended at hends hrest ⊢
  generalize g.run store b source = ended' at hends hrest ⊢
  rcases ended with ⟨result, a', rest⟩
  rcases ended' with ⟨result', b', rest'⟩
  cases hends with
  | error ha' hb' => exact ⟨.error ha' hb', hrest⟩
  | ok hseen ha' hb' => exact ⟨.ok hseen ha' hb', hrest⟩

theorem mapError (tell : ε → δ) (h : InStep drawn s t f g seen) :
    InStep drawn s t (f.mapError tell) (g.mapError tell) seen := by
  intro a b source ha hb hfault hdrawn
  rw [draws_mapError] at hdrawn
  obtain ⟨hends, hrest⟩ := h a b source ha hb hfault hdrawn
  rw [run_mapError, run_mapError]
  refine ⟨?_, hrest⟩
  generalize (f.run store a source).1 = result at hends ⊢
  generalize (g.run store b source).1 = result' at hends ⊢
  cases hends with
  | error ha' hb' => exact .error ha' hb'
  | ok hseen ha' hb' => exact .ok hseen ha' hb'

/-! ## Requests -/

/-- What is only logged comes to the same in both states and leaves the rows as they are. -/
theorem logged {ρ : Type} {trip : Tables → ρ × Tables} (hrows : ∀ tables, (trip tables).2.rows = tables.rows)
    (hcongr : ∀ {a b : Tables}, a.fault? = b.fault? →
      (trip a).1 = (trip b).1 ∧ (trip a).2.fault? = (trip b).2.fault?)
    {a b : Tables} (ha : a.rows = s.rows) (hb : b.rows = t.rows) (hfault : a.fault? = b.fault?) :
    ∃ result a' b', trip a = (result, a') ∧ trip b = (result, b') ∧
      a'.rows = s.rows ∧ b'.rows = t.rows ∧ a'.fault? = b'.fault? := by
  obtain ⟨hresult, hfault'⟩ := hcongr hfault
  refine ⟨(trip a).1, (trip a).2, (trip b).2, rfl, ?_, (hrows a).trans ha, (hrows b).trans hb, hfault'⟩
  rw [hresult]

/-- A plan fails in both states or is answered in both. -/
theorem select {plan : Plan} {k : Except StorageError (List Json) → Flow ε α}
    {l : Except StorageError (List Json) → Flow ε β}
    (herror : ∀ e, InStep drawn s t (k (.error e)) (l (.error e)) seen)
    (hok : InStep drawn s t (k (.ok ((s.answer plan).map .object))) (l (.ok ((t.answer plan).map .object))) seen) :
    InStep drawn s t (.select plan k) (.select plan l) seen := by
  intro a b source ha hb hfault hdrawn
  obtain ⟨result, a', b', hx, hy, ha', hb', hfault'⟩ := logged
    (fun tables => log_rows tables ⟨.select, plan.schema.table, plan.selectStatement.text⟩)
    (fun h => log_congr h _) ha hb hfault
  simp only [run, draws, store, Tables.select, hx, hy] at hdrawn ⊢
  rcases result with e | _
  · exact herror e a' b' source ha' hb' hfault' hdrawn
  · simp only [answer_congr ha' plan, answer_congr hb' plan] at hdrawn ⊢
    exact hok a' b' source ha' hb' hfault' hdrawn

/-- A write that fails leaves the rows as they were. -/
theorem write (w : Write) :
    InStep drawn s t (.write w .done : Flow StorageError Unit) (.write w .done : Flow StorageError Unit)
      fun _ _ writes => writes = [w] := by
  intro a b source ha hb hfault _
  obtain ⟨result, a', b', hx, hy, ha', hb', hfault'⟩ := logged
    (fun tables => logWrite_rows tables w) (fun h => logWrite_congr h w) ha hb hfault
  simp only [run, store, Tables.write, hx, hy]
  rcases result with e | _
  · exact ⟨.error ha' hb', hfault', trivial⟩
  · exact ⟨.ok rfl (carryOuts_congr [w] ha') (carryOuts_congr [w] hb'),
      ((carryOut_fault a' w).trans hfault').trans (carryOut_fault b' w).symm, trivial⟩

/-- Several writes are carried out all or none. -/
theorem batch (ws : List Write) :
    InStep drawn s t (.batch ws .done : Flow StorageError Unit) (.batch ws .done : Flow StorageError Unit)
      fun _ _ writes => writes = ws := by
  intro a b source ha hb hfault _
  obtain ⟨result, a', b', hx, hy, ha', hb', hfault'⟩ := logged
    (fun tables => logWrites_rows ws tables) (fun h => logWrites_congr ws h) ha hb hfault
  simp only [run, store, Tables.batch, hx, hy]
  rcases result with e | _
  · exact ⟨.error ha' hb', hfault', trivial⟩
  · exact ⟨.ok rfl (carryOuts_congr ws ha') (carryOuts_congr ws hb'),
      ((carryOuts_fault ws a').trans hfault').trans (carryOuts_fault ws b').symm, trivial⟩

/-- Random bytes are the same for both flows. -/
theorem random {size : Nat} {k : Option (List UInt8) → Flow ε α} {l : Option (List UInt8) → Flow ε β}
    (hnone : InStep drawn s t (k none) (l none) seen)
    (hsome : ∀ bytes, drawn size bytes → InStep drawn s t (k (some bytes)) (l (some bytes)) seen) :
    InStep drawn s t (.random size k) (.random size l) seen := by
  intro a b source ha hb hfault hdrawn
  simp only [run, draws] at hdrawn ⊢
  rcases hdraw : source.draw size with ⟨_ | bytes, rest⟩ <;> rw [hdraw] at hdrawn
  · exact hnone a b rest ha hb hfault fun draw h => hdrawn draw (List.mem_append_right _ h)
  · refine hsome bytes (hdrawn (size, bytes) (List.mem_append_left _ ?_)) a b rest ha hb hfault fun draw h =>
      hdrawn draw (List.mem_append_right _ h)
    exact List.mem_singleton.2 rfl

end InStep

end Flow

end Taskboard
