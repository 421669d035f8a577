/-
Listings read page by page. A listing without bounds has every row that meets its conditions just once, in the order
of its sort terms; reading it in pages of any size, each page for itself from tables that hold the same rows, loses
none of it and shows nothing twice (`pages_cover`). So the memory of a board can be read page by page.
-/
import Taskboard.Proofs.Endpoint.Listings
import Taskboard.Proofs.Storage.Arrangement

namespace Taskboard

open Tables

/-! ## Pages of what is listed -/

/-- What is listed is what its pages hold one behind another, whatever their size. A page is read by itself, wherever
no failure waits and the rows are those of the tables. The pages whose offset fits into 64 bits are enough for a
listing whose length does. -/
def PagedBy {ε α : Type} (read : Page → Flow ε (List α)) (tables : Tables) (listed : List α) : Prop :=
  ∀ size, 0 < size → ∃ page : Nat → List α,
    (∀ (k : Nat) (t : Tables) (source : Entropy), t.rows = tables.rows → t.fault? = none →
      ((read ⟨size, k * size⟩).run store t source).1 = .ok (page k)) ∧
    (∀ n, (List.range n).flatMap page = listed.take (n * size)) ∧
    (listed.length ≤ unsignedMax → (List.range (unsignedMax / size + 1)).flatMap page = listed)

/-- What each reading of a page cuts out is covered by the pages. -/
theorem pagedBy_of_cut {ε α : Type} {read : Page → Flow ε (List α)} {tables : Tables} {listed : List α}
    (h : ∀ (page : Page) (t : Tables) (source : Entropy), t.rows = tables.rows → t.fault? = none →
      ((read page).run store t source).1 = .ok ((listed.drop page.offset).take page.limit)) :
    PagedBy read tables listed := by
  intro size hsize
  refine ⟨_, fun k => h ⟨size, k * size⟩, flatMap_pages listed size, fun hlength => ?_⟩
  have hmost : unsignedMax < (unsignedMax / size + 1) * size := by
    rw [Nat.mul_comm]
    exact Nat.lt_mul_div_succ unsignedMax hsize
  exact (flatMap_pages listed size _).trans (List.take_of_length_le (hlength.trans hmost.le))

section Plans

variable {α : Type} {model : Model α} {plan : Plan} {tables : Tables} (hvalid : plan.validate = .ok ())
  (hquiet : tables.fault? = none) (source : Entropy)
include hvalid hquiet

/-- Where no failure waits, a plan of declared columns counts the rows that meet its conditions. -/
theorem Plan.run_count : (plan.count.run store tables source).1 = .ok (tables.rowsMeeting plan).length := by
  show ((Way.count.flow (⟨plan.schema, id, some⟩ : Model Json) plan).run store tables source).1 = _
  cases hvacuous : plan.isVacuous with
  | true =>
    rw [Way.flow_of_isVacuous hvalid .count hvacuous, rowsMeeting_of_isVacuous tables hvacuous]
    rfl
  | false =>
    rw [Way.flow_eq_direct hvalid .count hvacuous]
    simp only [Way.direct, Flow.run, Tables.store, count_of_quiet hquiet]
    rfl

variable (hlimit : plan.limit? = none) (hoffset : plan.offset? = none)
include hlimit hoffset

/-- A page of a plan has the values of its part of the answer. -/
theorem Model.run_page {values : List α} (hdecode : model.decodeAll ((tables.answer plan).map .object) = .ok values)
    (page : Page) : ((model.all ((plan.take page.limit).drop page.offset)).run store tables source).1 =
      .ok ((values.drop page.offset).take page.limit) := by
  have hpage : ((plan.take page.limit).drop page.offset).validate = .ok () := hvalid
  refine run_all_of_answer hpage hquiet ?_ source
  rw [decodeAll_eq_ok_iff] at hdecode ⊢
  rw [tables.answer_page hlimit hoffset, List.map_take, List.map_take, List.map_drop, List.map_drop, hdecode,
    List.map_take, List.map_drop]

end Plans

/-- Pages of a plan without bounds cover what it lists, as long as the rows that meet its conditions can be read. -/
theorem Plan.listing {α : Type} (model : Model α) {plan : Plan} {tables : Tables}
    (hvalid : plan.validate = .ok ()) (hlimit : plan.limit? = none) (hoffset : plan.offset? = none)
    (hreadable : ∀ row ∈ tables.rowsMeeting plan, ∃ x, model.decode? (.object row) = some x) :
    ∃ values, model.decodeAll ((tables.answer plan).map .object) = .ok values ∧
      ((sorted plan.sortTerms (tables.rowsMeeting plan)).map Json.object).map model.decode? = values.map some ∧
      PagedBy (fun page => model.all ((plan.take page.limit).drop page.offset)) tables values := by
  obtain ⟨values, hvalues⟩ := model.exists_values
    fun row (hrow : row ∈ sorted plan.sortTerms (tables.rowsMeeting plan)) => hreadable row (mem_sorted.1 hrow)
  have hdecode : model.decodeAll ((tables.answer plan).map .object) = .ok values :=
    Model.decodeAll_eq_ok_iff.2 (tables.answer_eq_sorted hlimit hoffset ▸ hvalues)
  refine ⟨values, hdecode, hvalues, pagedBy_of_cut fun page t source hrows hquiet => ?_⟩
  rw [← answer_congr hrows] at hdecode
  exact Model.run_page hvalid hquiet source hlimit hoffset hdecode page

/-! ## Pages of the memory of a board -/

namespace Endpoint

/-- The plan of the whole memory of a board. -/
def entriesPlan (boardId : String) : Plan :=
  ⟨MemoryEntry.schema, [.equals "board_id" (.string boardId)], [⟨"created_at", .descending⟩], none, none⟩

theorem rowsMeeting_entriesPlan (tables : Tables) (boardId : String) : tables.rowsMeeting (entriesPlan boardId) =
    (tables.rows "board_memory").filter (·.text? "board_id" == some boardId) := by
  refine List.filter_congr fun row _ => Bool.eq_iff_iff.2 ?_
  rw [Predicate.allHold_iff, beq_iff_eq]
  show (entriesPlan boardId).Meets row ↔ _
  exact meets_singleton rfl

/-- The memory of a board has every entry of the board just once, the newest first, and its pages cover it. -/
theorem memory_paged {tables : Tables} {board : Board} (hreadable : ∀ row ∈ tables.rows "board_memory",
      row.text? "board_id" = some board.id → ∃ entry, MemoryEntry.ofRecord? row = some entry) :
    ∃ entries listed : List MemoryEntry,
      ((tables.rows "board_memory").filter (·.text? "board_id" == some board.id)).map MemoryEntry.ofRecord? =
        entries.map some ∧
      Arranged (newestFirst MemoryEntry.createdAt) entries listed ∧
      PagedBy (memoryOfBoard board) tables (listed.map MemoryEntry.view) := by
  have hmeeting := rowsMeeting_entriesPlan tables board.id
  obtain ⟨entries, listed, hentries, harranged, hdecode⟩ := MemoryEntry.model.exists_newest
    (entriesPlan board.id) tables rfl rfl rfl (fun _ _ => createdAt_of_memory) fun row hrow => by
      rw [hmeeting, List.mem_filter, beq_iff_eq] at hrow
      exact hreadable row hrow.1 hrow.2
  refine ⟨entries, listed, ?_, harranged, pagedBy_of_cut fun page t source hrows hquiet => ?_⟩
  · rw [hmeeting, List.map_map] at hentries
    exact hentries
  · rw [← answer_congr hrows] at hdecode
    have hvalid : (entriesPlan board.id).validate = .ok () := rfl
    have hpage := Model.run_page hvalid hquiet source rfl rfl hdecode page
    refine (run_shown (memoryPlan board.id page) (List.map MemoryEntry.view) t source).trans ?_
    rw [← List.map_drop, ← List.map_take]
    exact congrArg (fun answer => (answer.mapError Failure.query).map (List.map MemoryEntry.view)) hpage

end Endpoint

open Endpoint

/-- Where no failure waits, a plan of declared columns without bounds lists the rows that meet its conditions, each
once: none behind one that comes before it by the sort terms, and those that no term tells apart as they are stored. It
counts as many, and its pages, of whatever size, are the listing one behind another. So are the pages of the memory of
a board, which lists the entries of the board with the newest first. -/
theorem pages_cover {tables : Tables} (hquiet : tables.fault? = none) :
    (∀ {α : Type} (model : Model α) (plan : Plan), (∀ field ∈ plan.fields, field ∈ plan.schema.fields) →
      plan.limit? = none → plan.offset? = none →
      (∀ row ∈ tables.rowsMeeting plan, ∃ x, model.decode? (.object row) = some x) →
      ∃ rows values, Arranged (compareRows plan.sortTerms) (tables.rowsMeeting plan) rows ∧
        (rows.map Json.object).map model.decode? = values.map some ∧
        (∀ source, ((model.all plan).run store tables source).1 = .ok values) ∧
        (∀ source, (plan.count.run store tables source).1 = .ok values.length) ∧
        PagedBy (fun page => model.all ((plan.take page.limit).drop page.offset)) tables values) ∧
    ∀ board : Board, (∀ row ∈ tables.rows "board_memory", row.text? "board_id" = some board.id →
        ∃ entry, MemoryEntry.ofRecord? row = some entry) →
      ∃ entries listed : List MemoryEntry,
        ((tables.rows "board_memory").filter (·.text? "board_id" == some board.id)).map MemoryEntry.ofRecord? =
          entries.map some ∧
        Arranged (newestFirst MemoryEntry.createdAt) entries listed ∧
        PagedBy (memoryOfBoard board) tables (listed.map MemoryEntry.view) := by
  refine ⟨fun {α} model plan hdeclared hlimit hoffset hreadable => ?_, fun board hreadable => memory_paged hreadable⟩
  have hvalid := Plan.validate_of_declared hdeclared
  obtain ⟨values, hdecode, hvalues, hpaged⟩ := Plan.listing model hvalid hlimit hoffset hreadable
  have harranged := arranged_sorted plan.sortTerms (tables.rowsMeeting plan)
  have hlength : values.length = (tables.rowsMeeting plan).length := by
    rw [← harranged.perm.length_eq]
    simpa using (congrArg List.length hvalues).symm
  refine ⟨_, values, harranged, hvalues, Model.run_all_of_answer hvalid hquiet hdecode, fun source => ?_, hpaged⟩
  rw [hlength]
  exact Plan.run_count hvalid hquiet source

/-! ## A journal -/

/-- Three entries of one board, the last two of one time. -/
def keys : MemoryEntry :=
  ⟨"m1", "b1", "Keys", none, some "standup", "2024-01-01"⟩

@[inherit_doc keys]
def mat : MemoryEntry :=
  ⟨"m2", "b1", "Mat", none, none, "2024-01-02"⟩

@[inherit_doc keys]
def lamp : MemoryEntry :=
  ⟨"m4", "b1", "Lamp", none, some "standup", "2024-01-02"⟩

/-- The three entries, and one of another board between them. -/
def journal : Tables where
  rows table :=
    if table = "board_memory" then
      [keys.record, mat.record, MemoryEntry.record ⟨"m3", "b2", "Door", none, none, "2024-01-03"⟩, lamp.record]
    else []
  calls := []
  fault? := none

theorem readable_journal : ∀ row ∈ journal.rows "board_memory", ∃ entry, MemoryEntry.ofRecord? row = some entry := by
  intro row hrow
  have hmem : row ∈ [_, _, _, _] := hrow
  simp only [List.mem_cons, List.not_mem_nil, or_false] at hmem
  rcases hmem with rfl | rfl | rfl | rfl <;> exact ⟨_, MemoryEntry.ofRecord?_record _⟩

/-- All entries by where they come from, those of the same origin from the newest on. -/
def byOrigin : Plan :=
  (MemoryEntry.schema.all.sortBy "source" .ascending).sortBy "created_at" .descending

/-- The four entries of the journal make two pages of three, and the board shows its three from the newest on. -/
theorem pages_cover_journal : journal.fault? = none ∧
    (∀ field ∈ byOrigin.fields, field ∈ MemoryEntry.schema.fields) ∧ byOrigin.limit? = none ∧ byOrigin.offset? = none ∧
    (∃ (values : List MemoryEntry) (page : Nat → List MemoryEntry), values.length = 4 ∧
      (∀ k, ((MemoryEntry.model.all ((byOrigin.take 3).drop (k * 3))).run store journal .counting).1 = .ok (page k)) ∧
      page 0 ++ page 1 = values) ∧
    PagedBy (memoryOfBoard ⟨"b1", "Home", "home", none, "", ""⟩) journal ([mat, lamp, keys].map MemoryEntry.view) := by
  obtain ⟨hplans, hmemory⟩ := pages_cover (show journal.fault? = none from rfl)
  have hdeclared : ∀ field ∈ byOrigin.fields, field ∈ MemoryEntry.schema.fields := by decide +kernel
  obtain ⟨rows, values, -, -, -, hcount, hpaged⟩ := hplans MemoryEntry.model byOrigin hdeclared rfl rfl
    fun row hrow => readable_journal row (List.mem_filter.1 hrow).1
  obtain ⟨entries, listed, hentries, harranged, hpages⟩ := hmemory ⟨"b1", "Home", "home", none, "", ""⟩
    fun row hrow _ => readable_journal row hrow
  obtain ⟨page, hread, hpage, -⟩ := hpaged 3 (by decide)
  have hlength : values.length = 4 := by
    have hsome := congrArg Except.toOption (hcount .counting)
    refine Option.some.inj (hsome.symm.trans ?_)
    decide +kernel
  refine ⟨rfl, hdeclared, rfl, rfl, ⟨values, page, hlength, fun k => hread k journal .counting rfl rfl, ?_⟩, ?_⟩
  · have htwo := hpage 2
    rw [List.take_of_length_le (by omega)] at htwo
    simpa [List.range_succ] using htwo
  · obtain rfl : [keys, mat, lamp] = entries := by
      refine List.map_injective_iff.2 (fun _ _ => Option.some.inj) (Eq.trans ?_ hentries)
      decide +kernel
    have hnewest : Arranged (newestFirst MemoryEntry.createdAt) [keys, mat, lamp] [mat, lamp, keys] :=
      ⟨by decide +kernel, by decide +kernel, by decide +kernel⟩
    rwa [harranged.unique hnewest] at hpages

end Taskboard
