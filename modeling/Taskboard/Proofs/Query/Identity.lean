/-
Rows by their identifying values. A plan with one condition brings the values that pass the test which the
condition makes of their rows, in the order of the rows (`run_all_filter`). Where texts identify rows, these are
just the values asked for (`any_looselyEqual_strings`). Whole numbers are compared as doubles, so they are as long as
the numbers asked for lie below 2^53 (`withIds_exact`); from there on a neighbour can come with them
(`neighbour_of_withIds`).
-/
import Taskboard.Proofs.Number.Whole
import Taskboard.Proofs.Query.FirstRow

namespace Taskboard

/-! ## Plans with one condition -/

namespace Tables

variable (tables : Tables)

/-- Without sort terms rows stay in the order of insertion. -/
theorem sorted_nil (rows : List Record) : sorted [] rows = rows :=
  List.mergeSort_of_pairwise (List.pairwise_of_forall fun _ _ => rfl)

theorem answer_filter (schema : Schema) (p : Predicate) :
    tables.answer (schema.filter p) = (tables.rows schema.table).filter p.holds := by
  show sorted [] ((tables.rows schema.table).filter fun row => Predicate.allHold row p.conjuncts) = _
  rw [sorted_nil]
  refine List.filter_congr fun row _ => ?_
  rw [Predicate.allHold_eq_all, Predicate.all_conjuncts_holds]

end Tables

namespace Model

variable {α : Type} (model : Model α)

/-- The rows of the table of a model stand for these values, in order. -/
def Lists (tables : Tables) (values : List α) : Prop :=
  ((tables.rows model.schema.table).map Json.object).map model.decode? = values.map some

variable {model} {tables : Tables} {values : List α}

theorem Lists.readable (h : model.Lists tables values) : model.Readable tables model.schema.table := by
  intro row hrow
  obtain ⟨x, -, hx⟩ := List.mem_map.1 (h ▸ List.mem_map_of_mem (List.mem_map_of_mem hrow))
  exact ⟨x, hx.symm⟩

theorem Lists.unique {others : List α} (h : model.Lists tables values) (hothers : model.Lists tables others) :
    values = others :=
  List.map_injective_iff.2 (fun _ _ => Option.some.inj) (h.symm.trans hothers)

/-- Of rows that pass a test, the values are those that pass it. -/
theorem Lists.filter (h : model.Lists tables values) {meets : Record → Bool} {test : α → Bool}
    (htest : ∀ row x, model.decode? (.object row) = some x → meets row = test x) :
    (((tables.rows model.schema.table).filter meets).map Json.object).map model.decode? =
      (values.filter test).map some := by
  unfold Lists at h
  rw [List.map_map] at h ⊢
  have hmeets : (tables.rows model.schema.table).filter meets =
      (tables.rows model.schema.table).filter (Option.any test ∘ model.decode? ∘ Json.object) := by
    refine List.filter_congr fun row hrow => ?_
    obtain ⟨x, -, hx⟩ := List.mem_map.1 (h ▸ List.mem_map_of_mem hrow)
    rw [htest row x hx.symm, Function.comp_apply, ← hx]
    rfl
  rw [hmeets, ← List.filter_map, h, List.filter_map]
  rfl

/-- Where no failure waits and every row can be read, a condition on declared columns brings the values that pass
the test which it makes of their rows. -/
theorem run_all_filter (hlists : model.Lists tables values) (hquiet : tables.fault? = none) {p : Predicate}
    (hdeclared : ∀ field ∈ p.fields, field ∈ model.schema.fields) {test : α → Bool}
    (htest : ∀ row x, model.decode? (.object row) = some x → p.holds row = test x) (source : Entropy) :
    ((model.all (model.schema.filter p)).run Tables.store tables source).1 = .ok (values.filter test) := by
  have hvalid : (model.schema.filter p).validate = .ok () := by
    refine Plan.validate_of_declared fun field hfield => hdeclared field ?_
    rw [← Predicate.fields_conjuncts, ← Predicate.fieldsOfParts_eq_flatMap]
    exact (List.mem_append.1 hfield).resolve_right List.not_mem_nil
  have hdecode := hlists.filter htest
  rw [← tables.answer_filter] at hdecode
  exact run_all_of_answer hvalid hquiet (decodeAll_eq_ok_iff.2 hdecode) source

/-! ## Identifying values -/

section Keys

variable (model)

/-- Each value has a key, which its row holds in the identifying column. -/
def KeyedBy (key : α → Json) : Prop :=
  ∀ (row : Record) (x : α), model.decode? (.object row) = some x → row.value? model.schema.idField = some (key x)

/-- Each value has a name, which its row holds in the identifying column. -/
def NamedBy (name : α → String) : Prop :=
  ∀ (row : Record) (x : α), model.decode? (.object row) = some x → row.text? model.schema.idField = some (name x)

/-- Each value has a whole number of 64 bits, which its row holds in the identifying column. -/
def NumberedBy (number : α → Int) : Prop :=
  ∀ (row : Record) (x : α), model.decode? (.object row) = some x →
    row.integer? model.schema.idField = some (number x)

end Keys

end Model

theorem Record.value?_of_integer? {row : Record} {field : String} {n : Int} (h : row.integer? field = some n) :
    row.value? field = some (.int n) := by
  unfold Record.integer? at h
  unfold Record.value?
  split at h
  · rename_i hlookup
    split at h <;> cases h
    rw [hlookup]
    rfl
  · cases h

namespace Predicate

variable {row : Record} {field : String} {value : Json}

theorem holds_is (hvalue : row.value? field = some value) {other : Json} (hother : other.isNull = false) :
    (is field other).holds row = value.looselyEqual other := by
  unfold Predicate.is
  rw [hother, if_neg Bool.false_ne_true, holds, hvalue]
  rfl

theorem holds_isOneOf (hvalue : row.value? field = some value) (others : List Json) :
    (isOneOf field others).holds row = others.any value.looselyEqual := by
  cases others with
  | nil => rfl
  | cons other rest =>
    show (among field (other :: rest)).holds row = _
    rw [holds, hvalue]
    rfl

theorem fields_is (field : String) (value : Json) : (is field value).fields = [field] := by
  unfold Predicate.is
  split <;> rfl

theorem mem_fields_isOneOf {other : String} {values : List Json} (h : other ∈ (isOneOf field values).fields) :
    other = field := by
  cases values with
  | nil => cases h
  | cons value rest => exact List.mem_singleton.1 h

end Predicate

namespace Json

theorem looselyEqual_string (s t : String) : (Json.string s).looselyEqual (.string t) = decide (s = t) := by
  rw [Bool.eq_iff_iff, looselyEqual_string_iff, decide_eq_true_iff, Json.string.injEq]

theorem any_looselyEqual_strings (s : String) (texts : List String) :
    (texts.map Json.string).any (Json.string s).looselyEqual = decide (s ∈ texts) := by
  rw [List.any_map, Bool.eq_iff_iff, List.any_eq_true, decide_eq_true_iff]
  simp only [Function.comp_apply, looselyEqual_string, decide_eq_true_iff, exists_eq_right']

/-- Whole numbers are compared as doubles. -/
theorem looselyEqual_int (n m : Int) : (Json.int n).looselyEqual (.int m) = Binary64.sameRounded n m :=
  rfl

theorem any_looselyEqual_ints (n : Int) (numbers : List Int) :
    (numbers.map Json.int).any (Json.int n).looselyEqual = numbers.any (Binary64.sameRounded n) :=
  List.any_map

end Json

namespace Model

variable {α : Type} {model : Model α} {tables : Tables} {values : List α} {key : α → Json}

theorem NamedBy.keyedBy {name : α → String} (h : model.NamedBy name) : model.KeyedBy fun x => .string (name x) :=
  fun row x hx => Record.value?_eq_string_iff.2 (h row x hx)

theorem NumberedBy.keyedBy {number : α → Int} (h : model.NumberedBy number) :
    model.KeyedBy fun x => .int (number x) :=
  fun row x hx => Record.value?_of_integer? (h row x hx)

section Reads

variable (hkey : model.KeyedBy key) (hlists : model.Lists tables values) (hquiet : tables.fault? = none)
include hkey hlists hquiet

/-- What is asked for by some identifying values is what has a key that one of them is compared equal to. -/
theorem run_all_withIds (ids : List Json) (source : Entropy) :
    ((model.all (model.schema.withIds ids)).run Tables.store tables source).1 =
      .ok (values.filter fun x => ids.any (key x).looselyEqual) := by
  unfold Schema.withIds
  rw [model.schema.nothing_or_filter]
  refine run_all_filter hlists hquiet (fun field hfield => ?_)
    (fun row x hx => Predicate.holds_isOneOf (hkey row x hx) ids) source
  rw [Predicate.mem_fields_isOneOf hfield]
  exact model.schema.idField_mem

theorem run_all_withId (id : Json) (hid : id.isNull = false) (source : Entropy) :
    ((model.all (model.schema.withId id)).run Tables.store tables source).1 =
      .ok (values.filter fun x => (key x).looselyEqual id) := by
  refine run_all_filter hlists hquiet (fun field hfield => ?_)
    (fun row x hx => Predicate.holds_is (hkey row x hx) hid) source
  rw [Predicate.fields_is, List.mem_singleton] at hfield
  rw [hfield]
  exact model.schema.idField_mem

end Reads

theorem Readable.exists_lists (h : model.Readable tables model.schema.table) :
    ∃ values, model.Lists tables values := by
  obtain ⟨values, hvalues⟩ := @decodeAll_of_readable _ _ _ (model.schema.filter (.all [])) h
  have hall : (tables.rows model.schema.table).filter (fun row => (Predicate.all []).holds row) =
      tables.rows model.schema.table := List.filter_true _
  rw [decodeAll_eq_ok_iff, tables.answer_filter, hall] at hvalues
  exact ⟨values, hvalues⟩

end Model

/-! ## Tickets -/

/-- A ticket, which its number identifies. -/
structure Ticket where
  number : Int
  status : String
  owner? : Option String
deriving DecidableEq

namespace Ticket

/-- The table of tickets. -/
def schema : Schema where
  table := "tickets"
  idField := "id"
  fields := ["id", "status", "owner"]

/-- The columns of a ticket, by name. -/
def record (ticket : Ticket) : Record :=
  [("id", .int ticket.number), ("owner", .ofText? ticket.owner?), ("status", .string ticket.status)]

/-- Reads a ticket from its columns. -/
def ofRecord? (row : Record) : Option Ticket := do
  return ⟨← row.integer? "id", ← row.text? "status", ← row.optionalText? "owner"⟩

/-- Tickets as rows. -/
def model : Model Ticket where
  schema := schema
  encode ticket := .object ticket.record
  decode? value := (Record.ofJson? schema.fields value).bind ofRecord?

theorem numberedBy : model.NumberedBy number := by
  intro row ticket h
  replace h : ofRecord? row = some ticket := h
  simp only [ofRecord?, Option.bind_eq_bind, Option.bind_eq_some_iff, Option.pure_def, Option.some.injEq] at h
  obtain ⟨number, hnumber, status, -, owner?, -, rfl⟩ := h
  exact hnumber

/-- A ticket reads back when its number fits into 64 bits. -/
theorem ofRecord?_record {ticket : Ticket} (h : signedMin ≤ ticket.number ∧ ticket.number ≤ signedMax) :
    ofRecord? ticket.record = some ticket := by
  have hnumber : ticket.record.integer? "id" = some ticket.number := if_pos h
  have howner : ticket.record.optionalText? "owner" = some ticket.owner? := Record.optionalText?_of_lookup rfl
  simp only [ofRecord?, hnumber, howner]
  rfl

/-- Tables with open tickets of these numbers. -/
def numbered (numbers : List Int) : Tables where
  rows table := if table = "tickets" then numbers.map fun n => record ⟨n, "open", none⟩ else []
  calls := []
  fault? := none

theorem lists_numbered {numbers : List Int} (h : ∀ n ∈ numbers, signedMin ≤ n ∧ n ≤ signedMax) :
    model.Lists (numbered numbers) (numbers.map fun n => ⟨n, "open", none⟩) := by
  show ((numbers.map fun n => record ⟨n, "open", none⟩).map Json.object).map model.decode? = _
  rw [List.map_map, List.map_map, List.map_map]
  exact List.map_congr_left fun n hn => ofRecord?_record (h n hn)

end Ticket

/-! ## Asking for identifying values -/

/-- Where no failure waits and every row of the table can be read, asking for some identifying values brings what is
stored under them, in the order of the rows, and nothing else. This is so of names, and of numbers as long as those
asked for lie below 2^53; otherwise it brings what is stored under a number that is rounded to the same double. -/
theorem withIds_exact {α : Type} (model : Model α) {tables : Tables} (hquiet : tables.fault? = none)
    (hreadable : model.Readable tables model.schema.table) (source : Entropy) :
    ∃ values, model.Lists tables values ∧
      (∀ name, model.NamedBy name →
        (∀ names : List String,
          ((model.all (model.schema.withIds (names.map .string))).run Tables.store tables source).1 =
            .ok (values.filter fun x => name x ∈ names)) ∧
        ∀ s, ((model.all (model.schema.withId (.string s))).run Tables.store tables source).1 =
          .ok (values.filter fun x => name x = s)) ∧
      ∀ number, model.NumberedBy number →
        (∀ numbers : List Int,
          ((model.all (model.schema.withIds (numbers.map .int))).run Tables.store tables source).1 =
            .ok (values.filter fun x => numbers.any (Binary64.sameRounded (number x))) ∧
          ((∀ n ∈ numbers, n.natAbs < 2 ^ 53) →
            ((model.all (model.schema.withIds (numbers.map .int))).run Tables.store tables source).1 =
              .ok (values.filter fun x => number x ∈ numbers))) ∧
        ∀ n, ((model.all (model.schema.withId (.int n))).run Tables.store tables source).1 =
            .ok (values.filter fun x => Binary64.sameRounded (number x) n) ∧
          (n.natAbs < 2 ^ 53 → ((model.all (model.schema.withId (.int n))).run Tables.store tables source).1 =
            .ok (values.filter fun x => number x = n)) := by
  obtain ⟨values, hlists⟩ := hreadable.exists_lists
  refine ⟨values, hlists, fun name hname => ⟨fun names => ?_, fun s => ?_⟩,
    fun number hnumber => ⟨fun numbers => ?_, fun n => ?_⟩⟩
  · rw [Model.run_all_withIds hname.keyedBy hlists hquiet]
    exact congrArg Except.ok (List.filter_congr fun x _ => Json.any_looselyEqual_strings (name x) names)
  · rw [Model.run_all_withId hname.keyedBy hlists hquiet _ rfl]
    exact congrArg Except.ok (List.filter_congr fun x _ => Json.looselyEqual_string (name x) s)
  · have hrounded := Model.run_all_withIds hnumber.keyedBy hlists hquiet (numbers.map .int) source
    simp only [Json.any_looselyEqual_ints] at hrounded
    refine ⟨hrounded, fun hsmall => hrounded.trans (congrArg Except.ok ?_)⟩
    exact List.filter_congr fun x _ => Binary64.any_sameRounded hsmall (number x)
  · have hrounded := Model.run_all_withId hnumber.keyedBy hlists hquiet (.int n) rfl source
    refine ⟨hrounded, fun hsmall => hrounded.trans (congrArg Except.ok ?_)⟩
    refine List.filter_congr fun x _ => ?_
    rw [Json.looselyEqual_int, Bool.eq_iff_iff, Binary64.sameRounded_iff hsmall, decide_eq_true_iff]

theorem lists_chores : Task.model.Lists chores [sweeping, { sweeping with id := "t2", status := .done }] := by
  show [Task.ofRecord? sweeping.record, Task.ofRecord? { sweeping with id := "t2", status := .done }.record] = _
  rw [Task.ofRecord?_record, Task.ofRecord?_record]
  rfl

/-- Three open tickets, one with a number that doubles do not hold. -/
def threeOpen : Tables :=
  Ticket.numbered [2, 9007199254740993, 7]

theorem withIds_exact_threeOpen : threeOpen.fault? = none ∧ Ticket.model.Readable threeOpen Ticket.schema.table ∧
    ((Ticket.model.all (Ticket.schema.withIds [.int 7, .int 2])).run Tables.store threeOpen Entropy.counting).1 =
      .ok [⟨2, "open", none⟩, ⟨7, "open", none⟩] ∧
    ((Task.model.all (Task.schema.withId (.string "t1"))).run Tables.store chores Entropy.counting).1 =
      .ok [sweeping] := by
  have hopen := @Ticket.lists_numbered [2, 9007199254740993, 7] (by decide)
  refine ⟨rfl, hopen.readable, ?_, ?_⟩
  · obtain ⟨values, hlists, -, hnumbers⟩ := withIds_exact Ticket.model rfl hopen.readable Entropy.counting
    obtain rfl := hlists.unique hopen
    exact ((hnumbers Ticket.number Ticket.numberedBy).1 [7, 2]).2 (by decide)
  · obtain ⟨values, hlists, hnames, -⟩ := withIds_exact Task.model rfl readable_chores Entropy.counting
    obtain rfl := hlists.unique lists_chores
    exact (hnames Task.id fun row task h => (Task.text?_of_ofRecord? h).1).2 "t1"

/-- Two tickets with numbers that one double stands for. -/
def neighbours : Tables :=
  Ticket.numbered [9007199254740992, 9007199254740993]

/-- Next to 2^53 a ticket comes with its neighbour, which nobody asked for. -/
theorem neighbour_of_withIds : neighbours.fault? = none ∧ Ticket.model.Readable neighbours Ticket.schema.table ∧
    Ticket.model.NumberedBy Ticket.number ∧
    ((Ticket.model.all (Ticket.schema.withIds [.int 9007199254740993])).run Tables.store neighbours
      Entropy.counting).1 = .ok [⟨9007199254740992, "open", none⟩, ⟨9007199254740993, "open", none⟩] ∧
    ((Ticket.model.all (Ticket.schema.withId (.int 9007199254740993))).run Tables.store neighbours
      Entropy.counting).1 = .ok [⟨9007199254740992, "open", none⟩, ⟨9007199254740993, "open", none⟩] := by
  have hlists := @Ticket.lists_numbered [9007199254740992, 9007199254740993] (by decide)
  have hkey := Ticket.numberedBy.keyedBy
  refine ⟨rfl, hlists.readable, Ticket.numberedBy,
    (Model.run_all_withIds hkey hlists rfl [.int 9007199254740993] Entropy.counting).trans ?_,
    (Model.run_all_withId hkey hlists rfl (.int 9007199254740993) rfl Entropy.counting).trans ?_⟩ <;>
  · refine congrArg Except.ok ?_
    decide +kernel

end Taskboard
