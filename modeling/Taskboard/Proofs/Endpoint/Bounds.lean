/-
Bounds of listings, from the settings to what is listed. Whatever variables are set, the default page is not empty
and no longer than the longest (`Config.bounded_ofVariables`). A limit that is given is used as it is or refused, and
one that is missing or blank stands for the default; a listing that does not fail asks the store for just as many rows
and has no more (`listings_bounded`).
-/
import Taskboard.Proofs.Endpoint.Listings
import Taskboard.Proofs.Endpoint.TaskListing
import Taskboard.Proofs.Flow.Asking

namespace Taskboard

/-! ## Settings -/

namespace Config

/-- The default page is not empty, and no longer than the longest. -/
structure Bounded (config : Config) : Prop where
  positive : 1 ≤ config.pageDefault
  within : config.pageDefault ≤ config.pageMax

theorem Bounded.pageMax_pos {config : Config} (h : config.Bounded) : 1 ≤ config.pageMax :=
  h.positive.trans h.within

theorem positiveOr_pos {default : Nat} (h : 0 < default) (value? : Option String) : 0 < positiveOr default value? := by
  unfold positiveOr
  cases hread : (value?.bind fun text => Text.natural? (Text.trim text)).filter (0 < ·) with
  | none => exact h
  | some n => simpa using (Option.filter_eq_some_iff.1 hread).2

theorem bounded_ofVariables (lookup : String → Option String) : (ofVariables lookup).Bounded where
  positive := by
    have hdefault : 0 < positiveOr standard.pageDefault (lookup "MEMORY_PAGE_DEFAULT") := positiveOr_pos (by decide) _
    have hmax : 0 < positiveOr standard.pageMax (lookup "MEMORY_PAGE_MAX") := positiveOr_pos (by decide) _
    exact Nat.le_min.2 ⟨hdefault, hmax⟩
  within := Nat.min_le_right _ _

end Config

/-! ## Parameters -/

namespace Params

variable {params : Params} {name : String}

/-- Nothing is given under a name, or nothing but blanks. -/
def Missing (params : Params) (name : String) : Prop :=
  ∀ text ∈ params.raw? name, Text.trim text = ""

/-- The limit that is given, as it is, or a default where none is given. -/
inductive SetsLimit (params : Params) (default : Nat) : Nat → Prop
  | missing (h : params.Missing "limit") : SetsLimit params default default
  | given {text : String} {limit : Nat} (hraw : params.raw? "limit" = some text) (hblank : Text.trim text ≠ "")
      (hread : Text.natural? (Text.trim text) = some limit) : SetsLimit params default limit

/-- A number under a name is the one that is given, or there is none, or the name is complained about. -/
theorem natural?_cases (params : Params) (name : String) :
    (params.Missing name ∧ params.natural? name = .ok none) ∨
    ∃ text, params.raw? name = some text ∧ Text.trim text ≠ "" ∧
      ((∃ n, Text.natural? (Text.trim text) = some n ∧ params.natural? name = .ok (some n)) ∨
        params.natural? name = .error (.badRequest (.notNatural name))) := by
  unfold natural? value? Missing
  rcases params.raw? name with _ | text
  · exact .inl ⟨nofun, rfl⟩
  by_cases hblank : Text.trim text = ""
  · refine .inl ⟨?_, ?_⟩
    · rintro _ ⟨⟩
      exact hblank
    · simp [Text.nonBlank?_eq_none_iff.2 hblank]
  · refine .inr ⟨text, rfl, hblank, ?_⟩
    simp only [Option.bind_some, Text.nonBlank?_eq_some_iff.2 ⟨hblank, rfl⟩]
    rcases hread : Text.natural? (Text.trim text) with _ | n
    · exact .inr rfl
    · exact .inl ⟨n, rfl, rfl⟩

/-- A limit that is not refused lies within its bounds, and so does a default for it. -/
theorem getD_within {limit? : Option Nat} {default max : Nat} (h : ¬ ∃ limit ∈ limit?, limit = 0 ∨ max < limit)
    (hdefault : 1 ≤ default) (hmax : default ≤ max) : 1 ≤ limit?.getD default ∧ limit?.getD default ≤ max := by
  rcases limit? with _ | limit
  · exact ⟨hdefault, hmax⟩
  · rw [Option.getD_some]
    constructor
    · by_contra hzero
      exact h ⟨limit, rfl, .inl (by omega)⟩
    · by_contra habove
      exact h ⟨limit, rfl, .inr (by omega)⟩

theorem setsLimit_of_natural? {limit? : Option Nat} (h : params.natural? "limit" = .ok limit?) (default : Nat) :
    params.SetsLimit default (limit?.getD default) := by
  rcases params.natural?_cases "limit" with ⟨hmissing, hnone⟩ | ⟨text, hraw, hblank, ⟨n, hread, hsome⟩ | herror⟩
  · obtain rfl := Except.ok.inj (hnone.symm.trans h)
    exact .missing hmissing
  · obtain rfl := Except.ok.inj (hsome.symm.trans h)
    exact .given hraw hblank hread
  · rw [herror] at h
    cases h

theorem natural?_error {e : Failure} (h : params.natural? name = .error e) :
    ∃ complaint, e = .badRequest complaint := by
  rcases params.natural?_cases name with ⟨-, hnone⟩ | ⟨text, -, -, ⟨n, -, hsome⟩ | herror⟩
  · rw [hnone] at h
    cases h
  · rw [hsome] at h
    cases h
  · rw [herror] at h
    cases h
    exact ⟨_, rfl⟩

/-- A page is refused for what it asks, or has the limit that is given or else the default one. -/
theorem page_cases {config : Config} (hconfig : config.Bounded) (params : Params) :
    (∃ complaint, params.page config = .error (.badRequest complaint)) ∨ ∃ page, params.page config = .ok page ∧
      1 ≤ page.limit ∧ page.limit ≤ config.pageMax ∧ params.SetsLimit config.pageDefault page.limit := by
  unfold page
  rcases hlimit : params.natural? "limit" with e | limit?
  · obtain ⟨complaint, rfl⟩ := natural?_error hlimit
    exact .inl ⟨complaint, rfl⟩
  have hsets := setsLimit_of_natural? hlimit config.pageDefault
  rcases Endpoint.limitWithin_cases limit? hconfig.within with ⟨-, complaint, hwithin⟩ | ⟨hgiven, hwithin⟩
  · exact .inl ⟨complaint, by simp only [hwithin, bind, Except.bind]⟩
  obtain ⟨hpositive, hmax⟩ := getD_within hgiven hconfig.positive hconfig.within
  rcases hoffset : params.natural? "offset" with e | offset?
  · obtain ⟨complaint, rfl⟩ := natural?_error hoffset
    exact .inl ⟨complaint, by simp only [hwithin, bind, Except.bind]⟩
  · refine .inr ⟨⟨limit?.getD config.pageDefault, offset?.getD 0⟩, ?_, hpositive, hmax, hsets⟩
    simp only [hwithin, bind, Except.bind]
    rfl

/-- A filter of tasks that is accepted has the limit that is given, if one is. -/
theorem setsLimit_of_taskFilter {filter : TaskFilter} (h : params.taskFilter = .ok filter) (default : Nat) :
    params.SetsLimit default (filter.limit?.getD default) := by
  unfold taskFilter at h
  rcases hflag : params.boolean? "unassigned" with e | unassigned? <;> rw [hflag] at h
  · cases h
  rcases hlimit : params.natural? "limit" with e | limit? <;> rw [hlimit] at h
  · cases h
  · cases h
    exact setsLimit_of_natural? hlimit default

end Params

/-! ## Stores and runs -/

namespace Flow

variable {ε δ α β σ : Type} {store : Store σ}

/-- A store answers no more rows than the limit of a plan lets through. -/
def Store.KeepsLimits (store : Store σ) : Prop :=
  ∀ (plan : Plan) (state : σ) (rows : List Json) (limit : Nat), (store.select plan state).1 = .ok rows →
    plan.limit? = some limit → rows.length ≤ limit

/-- Every value that a run on a store ends with has a property. -/
def Yields (store : Store σ) (flow : Flow ε α) (property : α → Prop) : Prop :=
  ∀ (state : σ) (source : Entropy) (x : α), (flow.run store state source).1 = .ok x → property x

namespace Yields

variable {property : α → Prop} {property' : β → Prop}

theorem trivial (flow : Flow ε α) : flow.Yields store fun _ => True :=
  fun _ _ _ _ => .intro

theorem bind {flow : Flow ε α} {next : α → Flow ε β} (h : flow.Yields store property)
    (hnext : ∀ x, property x → (next x).Yields store property') : (flow >>= next).Yields store property' := by
  intro state source y hrun
  rw [run_bind] at hrun
  rcases hfirst : flow.run store state source with ⟨e | x, after, rest⟩ <;> rw [hfirst] at hrun
  · cases hrun
  · exact hnext x (h state source x (by rw [hfirst])) after rest y hrun

theorem mapError {flow : Flow ε α} (tell : ε → δ) (h : flow.Yields store property) :
    (flow.mapError tell).Yields store property := by
  intro state source x hrun
  rw [run_mapError] at hrun
  rcases hresult : (flow.run store state source).1 with e | y <;> rw [hresult] at hrun <;> cases hrun
  exact h state source x hresult

end Yields

/-- A query has no more values than its limit lets through. -/
theorem yields_all (hstore : store.KeepsLimits) (model : Model α) {plan : Plan} {limit : Nat}
    (hlimit : plan.limit? = some limit) : (model.all plan).Yields store (·.length ≤ limit) := by
  intro state source values hrun
  unfold Model.all Plan.ask at hrun
  split at hrun
  · cases hrun
  · split at hrun
    · cases hrun
      exact Nat.zero_le _
    · simp only [run] at hrun
      rcases hanswer : (store.select plan state).1 with e | rows <;> rw [hanswer] at hrun
      · cases hrun
      · rcases hdecode : model.decodeAll rows with e | decoded <;> simp only [Except.bind, hdecode] at hrun <;>
          cases hrun
        have hlength := congrArg List.length (Model.decodeAll_eq_ok_iff.1 hdecode)
        rw [List.length_map, List.length_map] at hlength
        rw [← hlength]
        exact hstore plan state rows limit hanswer hlimit

end Flow

/-- Tables answer no more rows than the limit of a plan lets through. -/
theorem Tables.keepsLimits : Tables.store.KeepsLimits := by
  intro plan tables rows limit hanswer hlimit
  have hlength : ∀ t : Tables, (t.answer plan).length ≤ limit := by
    intro t
    simp [Tables.answer, Tables.bounded, hlimit]
  replace hanswer : (Tables.select plan tables).1 = .ok rows := hanswer
  unfold Tables.select at hanswer
  split at hanswer
  · cases hanswer
    rw [List.length_map]
    exact hlength _
  · cases hanswer

/-! ## Listings -/

/-- A request for rows of a table asks for just as many as a limit says; nothing is counted or written. -/
def Ask.LimitedTo (schema : Schema) (limit : Nat) : Ask → Prop
  | .select plan => plan.schema = schema → plan.limit? = some limit
  | .count _ | .write _ | .batch _ => False

namespace Endpoint

open Taskboard.Flow

section Asking

variable {α β : Type} {kind : Ask → Prop}

theorem resolved_asks {result : Except UnknownField α} {next : α → Serving β}
    (h : ∀ x, result = .ok x → (next x).Asks kind) : ((liftM result : Serving α) >>= next).Asks kind := by
  cases result with
  | ok x => exact h x rfl
  | error e => exact .done _

theorem checked_asks {result : Except Failure α} {next : α → Serving β}
    (h : ∀ x, result = .ok x → (next x).Asks kind) : ((liftM result : Serving α) >>= next).Asks kind :=
  .ofResult h

theorem findBoard_asks {boardId : String} (h : kind (.select ((Board.schema.withId (.string boardId)).take 1))) :
    (findBoard boardId).Asks kind :=
  .bind (.mapError _ (.first h)) fun _ => .done _

theorem boardFor_asks (actor : Agent) {boardId : String}
    (h : kind (.select ((Board.schema.withId (.string boardId)).take 1))) : (boardFor actor boardId).Asks kind :=
  .bind (findBoard_asks h) fun _ => .bind (.done _) fun _ => .done _

theorem memoryOfBoard_asks {board : Board} {page : Page} (h : kind (.select (memoryPlan board.id page))) :
    (memoryOfBoard board page).Asks kind := by
  refine resolved_asks fun plan hplan => ?_
  cases hplan
  exact .bind (.mapError _ (.all h)) fun _ => .done _

/-- A listing of tasks asks for as many as its limit says, or else for as many as it may. -/
theorem tasksOfBoard_asks {board : Board} {filter : TaskFilter} {pageMax : Nat}
    (h : ∀ statuses, kind (.select ((listingPlan board statuses filter).take (filter.limit?.getD pageMax)))) :
    (tasksOfBoard board filter pageMax).Asks kind := by
  refine .bind (.done _) fun statuses => ?_
  refine resolved_asks fun plan hplan => checked_asks fun limit hlimit => ?_
  obtain ⟨found, hfound, hsorted⟩ := taskPlan_eq board statuses filter
  obtain rfl : found = plan := Except.ok.inj (hfound.symm.trans hplan)
  rcases limitWithin_cases filter.limit? (Nat.le_refl pageMax) with ⟨-, complaint, hrefused⟩ | ⟨-, hgiven⟩
  · rw [hrefused] at hlimit
    cases hlimit
  · obtain rfl := Except.ok.inj (hgiven.symm.trans hlimit)
    rw [hsorted]
    exact .mapError _ (.all (h statuses))

end Asking

variable {σ : Type} {store : Flow.Store σ} (hstore : store.KeepsLimits) (actor : Agent) (boardId : String)

theorem listMemory_asks (page : Page) :
    (listMemory actor boardId page).Asks (Ask.LimitedTo MemoryEntry.schema page.limit) := by
  refine .bind (boardFor_asks actor ?_) fun board => memoryOfBoard_asks fun _ => rfl
  intro hschema
  exact absurd hschema (by decide : Board.schema ≠ MemoryEntry.schema)

theorem listTasks_asks (filter : TaskFilter) (config : Config) :
    (listTasks actor boardId filter config).Asks (Ask.LimitedTo Task.schema (filter.limit?.getD config.pageMax)) := by
  refine .bind (boardFor_asks actor ?_) fun board => tasksOfBoard_asks fun statuses _ => rfl
  intro hschema
  exact absurd hschema (by decide : Board.schema ≠ Task.schema)

include hstore

theorem listMemory_yields (page : Page) : (listMemory actor boardId page).Yields store (·.length ≤ page.limit) := by
  refine .bind (.trivial _) fun board _ => ?_
  have hall : ((MemoryEntry.model.all (memoryPlan board.id page)).mapError Failure.query).Yields store
      (·.length ≤ page.limit) := .mapError _ (yields_all hstore _ rfl)
  show (((MemoryEntry.model.all (memoryPlan board.id page)).mapError Failure.query) >>= fun entries =>
    pure (entries.map MemoryEntry.view) : Serving _).Yields store _
  refine .bind hall fun entries hlength => ?_
  rintro _ _ _ ⟨⟩
  simpa using hlength

theorem listTasks_yields (filter : TaskFilter) {config : Config} (hconfig : config.Bounded) :
    (listTasks actor boardId filter config).Yields store fun tasks => tasks.length ≤ filter.limit?.getD config.pageMax ∧
      1 ≤ filter.limit?.getD config.pageMax ∧ filter.limit?.getD config.pageMax ≤ config.pageMax := by
  refine .bind (.trivial _) fun board _ => ?_
  intro state source tasks hrun
  rcases run_tasksOfBoard store board filter config.pageMax state source with
    ⟨-, complaint, hrefused⟩ | ⟨hgiven, statuses, -, hlisted⟩
  · rw [hrefused] at hrun
    cases hrun
  · rw [hlisted] at hrun
    refine ⟨Yields.mapError _ (yields_all hstore Task.model rfl) state source tasks hrun, ?_⟩
    exact Params.getD_within (not_or.1 hgiven).2 hconfig.pageMax_pos (Nat.le_refl _)

omit hstore

/-- Whatever variables are set, the default page is not empty and no longer than the longest. Whatever parameters are
given, a page is refused for what it asks or lies within these bounds, and its limit is the one that is given, or the
default one where none is. A listing of a memory asks for just as many entries, and where the store keeps to limits it
has no more if it does not fail. A listing of tasks likewise asks for as many as are given, or else for as many as the
longest page has, and fails unless this lies within the bounds. -/
theorem listings_bounded (lookup : String → Option String) (params : Params) {σ : Type} {store : Flow.Store σ}
    (hstore : store.KeepsLimits) (actor : Agent) (boardId : String) :
    let config := Config.ofVariables lookup
    (1 ≤ config.pageDefault ∧ config.pageDefault ≤ config.pageMax) ∧
    ((∃ complaint, params.page config = .error (.badRequest complaint)) ∨ ∃ page, params.page config = .ok page ∧
      1 ≤ page.limit ∧ page.limit ≤ config.pageMax ∧ params.SetsLimit config.pageDefault page.limit) ∧
    (∀ page, params.page config = .ok page →
      (listMemory actor boardId page).Asks (Ask.LimitedTo MemoryEntry.schema page.limit) ∧
      ∀ state source entries, ((listMemory actor boardId page).run store state source).1 = .ok entries →
        entries.length ≤ page.limit) ∧
    ∀ filter, params.taskFilter = .ok filter →
      let limit := filter.limit?.getD config.pageMax
      params.SetsLimit config.pageMax limit ∧
      (listTasks actor boardId filter config).Asks (Ask.LimitedTo Task.schema limit) ∧
      ∀ state source tasks, ((listTasks actor boardId filter config).run store state source).1 = .ok tasks →
        tasks.length ≤ limit ∧ 1 ≤ limit ∧ limit ≤ config.pageMax := by
  intro config
  have hconfig : config.Bounded := Config.bounded_ofVariables lookup
  refine ⟨⟨hconfig.positive, hconfig.within⟩, params.page_cases hconfig, ?_, ?_⟩
  · intro page _
    exact ⟨listMemory_asks actor boardId page, listMemory_yields hstore actor boardId page⟩
  · intro filter hfilter
    exact ⟨Params.setsLimit_of_taskFilter hfilter _, listTasks_asks actor boardId filter config,
      listTasks_yields hstore actor boardId filter hconfig⟩

/-- Settings where the default page is longer than the longest. -/
def inverted : String → Option String
  | "MEMORY_PAGE_MAX" => some " 2 "
  | "MEMORY_PAGE_DEFAULT" => some "9"
  | _ => none

/-- The small office with two entries in the memory of its first board. -/
def twoEntries : Tables :=
  office [⟨"m1", "b1", "Note", none, none, "2024-01-01"⟩, ⟨"m2", "b1", "Note", none, none, "2024-01-02"⟩]

/-- Of two entries no more than one is listed when one is asked for, and a page is refused that is longer than the
longest. -/
theorem listings_bounded_inverted : Tables.store.KeepsLimits ∧
    (Config.ofVariables inverted).pageDefault = 2 ∧ (Config.ofVariables inverted).pageMax = 2 ∧
    Params.page [("limit", "3")] (Config.ofVariables inverted) = .error (.badRequest (.limitAbove 2)) ∧
    Params.page [("limit", " +1 ")] (Config.ofVariables inverted) = .ok ⟨1, 0⟩ ∧
    ∃ entries, ((listMemory lead "b1" ⟨1, 0⟩).run Tables.store twoEntries .counting).1 = .ok entries ∧
      entries.length ≤ 1 := by
  obtain ⟨-, -, hlisted, -⟩ := listings_bounded inverted [("limit", " +1 ")] Tables.keepsLimits lead "b1"
  have hreadable : twoEntries.Readable := readable_office _
  have hhas : twoEntries.Has "boards" "b1" := ⟨_, List.mem_cons_self .., rfl⟩
  obtain ⟨values, hvalues⟩ := @Model.decodeAll_of_readable _ MemoryEntry.model (twoEntries.noting [boardTrip])
    (memoryPlan "b1" ⟨1, 0⟩) (hreadable .memory)
  have hrun := run_listMemory hreadable rfl permits_lead hhas .counting ⟨1, 0⟩
  rw [Model.run_all_of_quiet rfl rfl rfl hvalues] at hrun
  refine ⟨Tables.keepsLimits, rfl, rfl, rfl, rfl, _, hrun, ?_⟩
  exact (hlisted ⟨1, 0⟩ rfl).2 twoEntries .counting _ hrun

end Endpoint

end Taskboard
