/-
Listings of tasks. A listing is refused before the store is asked, and only for a word that is no status or a limit
out of bounds; otherwise it has the newest of just those tasks of the board that are asked for (`tasks_listed`).
What is asked for is said on the columns of a row, apart from the plan that looks for it.
-/
import Mathlib.Data.Set.List
import Taskboard.Endpoint.Tasks
import Taskboard.Proofs.Endpoint.Refusal
import Taskboard.Proofs.Storage.Arrangement
import Taskboard.Proofs.Text.Trim

namespace Taskboard

open Tables

/-! ## Checks in a row -/

/-- Several checks in a row end well with the outcome of each. -/
theorem mapM_eq_ok_iff {ε α β : Type} {check : α → Except ε β} {xs : List α} {ys : List β} :
    xs.mapM check = .ok ys ↔ List.Forall₂ (fun x y => check x = .ok y) xs ys := by
  induction xs generalizing ys with
  | nil =>
    rw [List.mapM_nil, List.forall₂_nil_left_iff]
    exact ⟨fun h => (Except.ok.inj h).symm, fun h => congrArg Except.ok h.symm⟩
  | cons x rest ih =>
    rw [List.mapM_cons, List.forall₂_cons_left_iff]
    constructor
    · intro h
      rcases hx : check x with e | y <;> rw [hx] at h
      · cases h
      · rcases hrest : rest.mapM check with e | ys' <;> rw [hrest] at h
        · cases h
        · cases h
          exact ⟨y, ys', rfl, ih.1 hrest, rfl⟩
    · rintro ⟨y, ys', hx, hrest, rfl⟩
      rw [hx, ih.2 hrest]
      rfl

/-! ## What is asked for -/

namespace TaskFilter

/-- The words between the commas of the status text, without the blanks around them and in lower case; where there is
none between two commas, there is nothing. -/
def words (filter : TaskFilter) : List String :=
  (((Endpoint.commaPieces (filter.status?.getD "")).map Text.trim).filter (· ≠ "")).map Text.lower

/-- The listing cannot be given: a word is no status, or the limit is zero or too large. -/
def Refused (filter : TaskFilter) (pageMax : Nat) : Prop :=
  (∃ word ∈ filter.words, ∀ status : TaskStatus, word ≠ status.word) ∨
    ∃ limit ∈ filter.limit?, limit = 0 ∨ pageMax < limit

/-- A task is asked for that is on the board, has one of the statuses if there are any, has the assignee if there is
one, and has none if there shall be none. -/
def Asks (filter : TaskFilter) (board : Board) (row : Record) : Prop :=
  row.text? "board_id" = some board.id ∧
  (filter.words = [] ∨ ∃ word ∈ filter.words, row.text? "status" = some word) ∧
  (∀ agent ∈ filter.assignee?, row.text? "assigned_agent_id" = some agent) ∧
  (filter.unassigned? = some true → (row.value? "assigned_agent_id").isNone)

instance (filter : TaskFilter) (board : Board) : DecidablePred (filter.Asks board) :=
  fun _ => inferInstanceAs (Decidable (_ ∧ _ ∧ _ ∧ _))

/-- A row that stands for a task and has its status for a word is asked for by what the task is. -/
theorem asks_iff_of_ofRecord? {filter : TaskFilter} {board : Board} {row : Record} {task : Task}
    (h : Task.ofRecord? row = some task) (hword : (row.text? "status").isSome) : filter.Asks board row ↔
      task.boardId? = some board.id ∧ (filter.words = [] ∨ task.status.word ∈ filter.words) ∧
      (∀ agent ∈ filter.assignee?, task.assignee? = some agent) ∧
      (filter.unassigned? = some true → task.assignee? = none) := by
  simp only [Task.ofRecord?, Option.bind_eq_bind, Option.bind_eq_some_iff, Option.pure_def, Option.some.injEq] at h
  obtain ⟨-, -, board?, hboard, -, -, -, -, word, hstatus, status, hof, -, -, assignee?, hassignee, -, -, -, -, -, -,
    rfl⟩ := h
  have hmissing : (row.value? "assigned_agent_id").isNone ↔ assignee? = none := by
    rw [Record.value?_of_optionalText? hassignee, Option.isNone_map, Option.isNone_iff_eq_none]
  have htext : row.text? "status" = some status.word := by
    obtain ⟨text, htext⟩ := Option.isSome_iff_exists.1 hword
    have hwhole : row.word? "status" = some text := by
      unfold Record.word?
      rw [Record.text?_eq_some_iff.1 htext]
    rw [htext, ← hwhole, hstatus, ← TaskStatus.ofWord?_eq_some_iff.1 hof]
  simp only [Asks, Record.text?_of_optionalText? hboard, Record.text?_of_optionalText? hassignee, hmissing, htext,
    Option.some.injEq, exists_eq_right']

end TaskFilter

namespace Endpoint

/-- The pieces of a text that are not blank, trimmed. -/
theorem filterMap_nonBlank? (pieces : List String) :
    pieces.filterMap Text.nonBlank? = (pieces.map Text.trim).filter (· ≠ "") := by
  rw [← List.filterMap_eq_filter, List.filterMap_map]
  refine List.filterMap_congr fun piece _ => ?_
  by_cases h : Text.trim piece = ""
  · simp [Text.nonBlank?_eq_none_iff.2 h, Option.guard, h]
  · simp [Text.nonBlank?_eq_some_iff.2 ⟨h, rfl⟩, Option.guard, h]

/-- The statuses that a text names are those whose words it has. -/
theorem namedStatuses_eq_ok_iff {filter : TaskFilter} {statuses : List TaskStatus} :
    namedStatuses (filter.status?.getD "") = .ok statuses ↔ filter.words = statuses.map TaskStatus.word := by
  unfold namedStatuses TaskFilter.words
  rw [mapM_eq_ok_iff, ← filterMap_nonBlank?]
  have htrimmed : ∀ piece ∈ (commaPieces (filter.status?.getD "")).filterMap Text.nonBlank?,
      Text.trim piece = piece := by
    intro piece hpiece
    obtain ⟨whole, -, hwhole⟩ := List.mem_filterMap.1 hpiece
    exact (Text.trimmed_of_nonBlank? hwhole).fixed
  generalize (commaPieces (filter.status?.getD "")).filterMap Text.nonBlank? = pieces at htrimmed ⊢
  have hnames : ∀ (piece : String) (status : TaskStatus), Text.trim piece = piece →
      (TaskStatus.parse? piece = some status ↔ Text.lower piece = status.word) := fun piece status hpiece => by
    rw [TaskStatus.parse?, hpiece, TaskStatus.ofWord?_eq_some_iff]
  rw [← List.forall₂_eq_eq_eq, List.forall₂_map_left_iff, List.forall₂_map_right_iff]
  constructor
  · intro h
    refine ((List.forall₂_and_left _ _).2 ⟨htrimmed, h⟩).imp fun piece status ⟨hpiece, h⟩ => ?_
    split at h <;> cases h
    exact (hnames _ _ hpiece).1 ‹_›
  · intro h
    refine ((List.forall₂_and_left _ _).2 ⟨htrimmed, h⟩).imp fun piece status ⟨hpiece, h⟩ => ?_
    rw [(hnames _ _ hpiece).2 h]

/-- A text names statuses, or is complained about for a word that is none. -/
theorem namedStatuses_cases (filter : TaskFilter) :
    ((∃ word ∈ filter.words, ∀ status : TaskStatus, word ≠ status.word) ∧
      ∃ complaint, namedStatuses (filter.status?.getD "") = .error (.badRequest complaint)) ∨
    ((¬ ∃ word ∈ filter.words, ∀ status : TaskStatus, word ≠ status.word) ∧
      ∃ statuses, filter.words = statuses.map TaskStatus.word ∧
        namedStatuses (filter.status?.getD "") = .ok statuses) := by
  have hrange : filter.words ∈ Set.range (List.map TaskStatus.word) ↔
      ∀ word ∈ filter.words, ∃ status : TaskStatus, status.word = word := by
    rw [Set.range_list_map]
    rfl
  rcases h : namedStatuses (filter.status?.getD "") with e | statuses
  · refine .inl ⟨?_, ?_⟩
    · by_contra hnone
      push Not at hnone
      obtain ⟨statuses, hstatuses⟩ := hrange.2 fun word hword => (hnone word hword).imp fun _ => Eq.symm
      rw [namedStatuses_eq_ok_iff.2 hstatuses.symm] at h
      cases h
    · obtain ⟨piece, -, hpiece⟩ := exists_error_of_mapM h
      split at hpiece <;> cases hpiece
      exact ⟨_, rfl⟩
  · have hwords := namedStatuses_eq_ok_iff.1 h
    refine .inr ⟨fun ⟨word, hword, hunknown⟩ => ?_, statuses, hwords, rfl⟩
    obtain ⟨status, hstatus⟩ := hrange.1 ⟨statuses, hwords.symm⟩ word hword
    exact hunknown status hstatus.symm

/-- A limit is within its bounds, or is complained about. -/
theorem limitWithin_cases (limit? : Option Nat) {default max : Nat} (hdefault : default ≤ max) :
    ((∃ limit ∈ limit?, limit = 0 ∨ max < limit) ∧
      ∃ complaint, Params.limitWithin limit? default max = .error (.badRequest complaint)) ∨
    ((¬ ∃ limit ∈ limit?, limit = 0 ∨ max < limit) ∧
      Params.limitWithin limit? default max = .ok (limit?.getD default)) := by
  unfold Params.limitWithin
  rcases limit? with _ | limit
  · exact .inr ⟨fun ⟨_, h, _⟩ => (nomatch h), congrArg Except.ok (Nat.min_eq_left hdefault)⟩
  · by_cases hzero : limit = 0
    · simp [hzero]
    · by_cases hmax : max < limit <;> simp [hzero, hmax]

/-! ## The plan of a listing -/

/-- The plan of the tasks that are asked for, the newest first. -/
def listingPlan (board : Board) (statuses : List TaskStatus) (filter : TaskFilter) : Plan where
  schema := Task.schema
  predicates :=
    (if statuses.isEmpty then [] else [.among "status" (statuses.map fun status => .string status.word)]) ++
      .equals "board_id" (.string board.id) ::
      ((filter.assignee?.map fun agent => .equals "assigned_agent_id" (.string agent)).toList ++
        if filter.unassigned? = some true then [.missing "assigned_agent_id"] else [])
  sortTerms := [⟨"created_at", .descending⟩]
  limit? := none
  offset? := none

section Plan

variable (board : Board) (statuses : List TaskStatus) (filter : TaskFilter)

theorem taskPlan_eq : ∃ plan, taskPlan board statuses filter = .ok plan ∧
    plan.sortBy "created_at" .descending = listingPlan board statuses filter := by
  unfold taskPlan listingPlan
  rcases statuses with _ | ⟨status, rest⟩ <;> rcases filter.assignee? with _ | agent <;>
    by_cases h : filter.unassigned? = some true <;> simp only [h] <;> exact ⟨_, rfl, rfl⟩

theorem validate_listingPlan : (listingPlan board statuses filter).validate = .ok () := by
  unfold listingPlan
  rcases statuses with _ | ⟨status, rest⟩ <;> rcases filter.assignee? with _ | agent <;>
    by_cases h : filter.unassigned? = some true <;> simp only [h] <;> rfl

end Plan

/-- A row has one of some words in a column. -/
theorem holds_among_words {row : Record} {field : String} {statuses : List TaskStatus} :
    (Predicate.among field (statuses.map fun status => .string status.word)).holds row = true ↔
      ∃ word ∈ statuses.map TaskStatus.word, row.text? field = some word := by
  rw [Predicate.holds, Option.any_eq_true]
  simp only [List.any_map, List.any_eq_true, Function.comp_apply, Json.looselyEqual_string_iff,
    ← Record.value?_eq_string_iff]
  constructor
  · rintro ⟨value, hvalue, status, hstatus, rfl⟩
    exact ⟨_, List.mem_map_of_mem hstatus, hvalue⟩
  · rintro ⟨word, hword, hvalue⟩
    obtain ⟨status, hstatus, rfl⟩ := List.mem_map.1 hword
    exact ⟨_, hvalue, status, hstatus, rfl⟩

/-- The plan looks for the tasks that are asked for. -/
theorem meets_listingPlan {board : Board} {statuses : List TaskStatus} {filter : TaskFilter}
    (hwords : filter.words = statuses.map TaskStatus.word) (row : Record) :
    (listingPlan board statuses filter).Meets row ↔ filter.Asks board row := by
  have hstatus : (∀ part ∈ if statuses.isEmpty then [] else
      [Predicate.among "status" (statuses.map fun status => .string status.word)], part.holds row = true) ↔
      (filter.words = [] ∨ ∃ word ∈ filter.words, row.text? "status" = some word) := by
    rw [hwords, ← holds_among_words]
    cases statuses <;> simp
  have hassignee : (∀ part ∈
      (filter.assignee?.map fun agent => Predicate.equals "assigned_agent_id" (.string agent)).toList,
      part.holds row = true) ↔ ∀ agent ∈ filter.assignee?, row.text? "assigned_agent_id" = some agent := by
    simp only [← Predicate.holds_equals_string]
    cases filter.assignee? <;> simp
  have hunassigned : (∀ part ∈ if filter.unassigned? = some true then [Predicate.missing "assigned_agent_id"] else [],
      part.holds row = true) ↔ (filter.unassigned? = some true → (row.value? "assigned_agent_id").isNone) := by
    by_cases h : filter.unassigned? = some true <;> simp [h, Predicate.holds]
  unfold Plan.Meets listingPlan TaskFilter.Asks
  rw [List.forall_mem_append, List.forall_mem_cons, List.forall_mem_append, hstatus, hassignee, hunassigned,
    Predicate.holds_equals_string]
  exact and_left_comm

/-- A listing is refused before anything is asked, or is the answer to its plan. -/
theorem run_tasksOfBoard {σ : Type} (store : Flow.Store σ) (board : Board) (filter : TaskFilter) (pageMax : Nat)
    (state : σ) (source : Entropy) :
    (filter.Refused pageMax ∧ ∃ complaint, (tasksOfBoard board filter pageMax).run store state source =
      (.error (.badRequest complaint), state, source)) ∨
    (¬ filter.Refused pageMax ∧ ∃ statuses, filter.words = statuses.map TaskStatus.word ∧
      (tasksOfBoard board filter pageMax).run store state source =
        ((Task.model.all ((listingPlan board statuses filter).take (filter.limit?.getD pageMax))).mapError
          Failure.query).run store state source) := by
  unfold tasksOfBoard
  rcases namedStatuses_cases filter with ⟨hunknown, complaint, h⟩ | ⟨hknown, statuses, hwords, h⟩ <;> rw [h]
  · exact .inl ⟨.inl hunknown, complaint, rfl⟩
  · obtain ⟨plan, hplan, hsorted⟩ := taskPlan_eq board statuses filter
    rcases limitWithin_cases filter.limit? (Nat.le_refl pageMax) with ⟨hlimit, complaint, h'⟩ | ⟨hlimit, h'⟩
    · refine .inl ⟨.inr hlimit, complaint, ?_⟩
      show (liftM (taskPlan board statuses filter) >>= fun _ => _ : Serving (List Task)).run store state source = _
      rw [hplan, h']
      rfl
    · refine .inr ⟨not_or.2 ⟨hknown, hlimit⟩, statuses, hwords, ?_⟩
      show (liftM (taskPlan board statuses filter) >>= fun _ => _ : Serving (List Task)).run store state source = _
      rw [hplan, h', ← hsorted]
      rfl

end Endpoint

theorem createdAt_of_task {row : Record} {task : Task} (h : Task.ofRecord? row = some task) :
    row.text? "created_at" = some task.createdAt := by
  simp only [Task.ofRecord?, Option.bind_eq_bind, Option.bind_eq_some_iff, Option.pure_def, Option.some.injEq] at h
  grind

open Endpoint

/-- Where no failure waits and every task can be read, a listing is refused without a round trip just when a word
between its commas is no status, or its limit is zero or too large. Otherwise it has the first of the tasks that are
asked for, the newest first and those of one time as they are stored: as many as the limit, or else the largest one,
lets through. -/
theorem tasks_listed {tables : Tables} (hreadable : Task.model.Readable tables "tasks") (hquiet : tables.fault? = none)
    (board : Board) (filter : TaskFilter) (pageMax : Nat) (source : Entropy) :
    ((∃ complaint, (tasksOfBoard board filter pageMax).run store tables source =
      (.error (.badRequest complaint), tables, source)) ↔ filter.Refused pageMax) ∧
    (¬ filter.Refused pageMax → ∃ tasks listed : List Task,
      ((tables.rows "tasks").filter (filter.Asks board ·)).map Task.ofRecord? = tasks.map some ∧
      Arranged (newestFirst Task.createdAt) tasks listed ∧
      ((tasksOfBoard board filter pageMax).run store tables source).1 =
        .ok (listed.take (filter.limit?.getD pageMax))) := by
  rcases run_tasksOfBoard store board filter pageMax tables source with
    ⟨hrefused, hrun⟩ | ⟨hgiven, statuses, hwords, hrun⟩
  · exact ⟨iff_of_true hrun hrefused, fun h => absurd hrefused h⟩
  · have hasked : tables.rowsMeeting (listingPlan board statuses filter) =
        (tables.rows "tasks").filter (filter.Asks board ·) :=
      List.filter_congr fun row _ => Bool.eq_iff_iff.2
        (Predicate.allHold_iff.trans ((meets_listingPlan hwords row).trans decide_eq_true_iff.symm))
    obtain ⟨tasks, listed, htasks, harranged, hdecode⟩ := Task.model.exists_newest
      (listingPlan board statuses filter) tables rfl rfl rfl (fun _ _ => createdAt_of_task)
      fun row hrow => hreadable row (List.mem_filter.1 hrow).1
    have hgives : ((tasksOfBoard board filter pageMax).run store tables source).1 =
        .ok (listed.take (filter.limit?.getD pageMax)) := by
      have hfirst := Model.decodeAll_take hdecode (filter.limit?.getD pageMax)
      rw [← List.map_take, ← tables.answer_take rfl] at hfirst
      have hvalid : ((listingPlan board statuses filter).take (filter.limit?.getD pageMax)).validate = .ok () :=
        validate_listingPlan board statuses filter
      have hall := Model.run_all_of_answer hvalid hquiet hfirst source
      rw [hrun, Flow.run_mapError, hall]
      rfl
    refine ⟨iff_of_false (fun ⟨complaint, h⟩ => ?_) hgiven, fun _ => ⟨tasks, listed, ?_, harranged, hgives⟩⟩
    · rw [h] at hgives
      cases hgives
    · rw [hasked, List.map_map] at htasks
      exact htasks

/-! ## A household -/

/-- Tasks of one board that nobody has, the last two of one time. -/
def dusting : Task :=
  ⟨"t1", some "b1", "Dust", none, .inbox, "low", none, none, "2024-01-01", "2024-01-01"⟩

@[inherit_doc dusting]
def painting : Task :=
  ⟨"t2", some "b1", "Paint", none, .review, "low", none, none, "2024-01-02", "2024-01-02"⟩

@[inherit_doc dusting]
def weeding : Task :=
  ⟨"t5", some "b1", "Weed", none, .inbox, "low", none, none, "2024-01-02", "2024-01-02"⟩

/-- The three tasks, and between them one that is done and one of another board. -/
def household : Tables where
  rows table :=
    if table = "tasks" then
      [dusting, painting, { weeding with id := "t3", status := .done },
        { weeding with id := "t4", boardId? := some "b2" }, weeding].map Task.record
    else []
  calls := []
  fault? := none

theorem readable_household : Task.model.Readable household "tasks" := by
  intro row hrow
  obtain ⟨task, -, rfl⟩ := List.mem_map.1 hrow
  exact ⟨task, task.ofRecord?_record⟩

/-- Two tasks that nobody has, to be reviewed or in the inbox. -/
def unclaimedTwo : TaskFilter :=
  ⟨some " REVIEW,, Inbox", none, some true, some 2⟩

theorem not_refused_unclaimedTwo : ¬ unclaimedTwo.Refused 200 := by
  have hwords : unclaimedTwo.words = ["review", "inbox"] := by decide +kernel
  rintro (⟨word, hword, hunknown⟩ | ⟨limit, hlimit, hbounds⟩)
  · rw [hwords] at hword
    rcases List.mem_pair.1 hword with rfl | rfl
    · exact hunknown .review rfl
    · exact hunknown .inbox rfl
  · cases hlimit
    omega

/-- Of three unclaimed tasks the two newest are listed, and a word that is no status is refused. -/
theorem tasks_listed_household : Task.model.Readable household "tasks" ∧ household.fault? = none ∧
    ¬ unclaimedTwo.Refused 200 ∧
    ((tasksOfBoard ⟨"b1", "Home", "home", none, "", ""⟩ unclaimedTwo 200).run store household .counting).1 =
      .ok [painting, weeding] ∧
    ∃ complaint, (tasksOfBoard ⟨"b1", "Home", "home", none, "", ""⟩ ⟨some "inbox, closed", none, none, none⟩ 200).run
      store household .counting = (.error (.badRequest complaint), household, .counting) := by
  have hlists := tasks_listed readable_household rfl ⟨"b1", "Home", "home", none, "", ""⟩
  obtain ⟨tasks, listed, htasks, harranged, hrun⟩ := (hlists unclaimedTwo 200 .counting).2 not_refused_unclaimedTwo
  obtain rfl : [dusting, painting, weeding] = tasks := by
    refine List.map_injective_iff.2 (fun _ _ => Option.some.inj) (Eq.trans ?_ htasks)
    decide +kernel
  have hnewest : Arranged (newestFirst Task.createdAt) [dusting, painting, weeding] [painting, weeding, dusting] :=
    ⟨by decide +kernel, by decide +kernel, by decide +kernel⟩
  obtain rfl := harranged.unique hnewest
  refine ⟨readable_household, rfl, not_refused_unclaimedTwo, hrun, (hlists _ 200 .counting).1.2 (.inl ?_)⟩
  exact ⟨"closed", by decide +kernel, fun status => by cases status <;> decide⟩

end Taskboard
