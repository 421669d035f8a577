/-
Listings in an order. A listing that is sorted has the items that were stored, none behind one that comes before
it, and items that compare equal as they were stored (`arranged_mergeSort`). Cut into pages of one size, it is what
the pages hold one behind another (`flatMap_pages`), and what a plan answers within bounds is one such page
(`answer_page`).
-/
import Taskboard.Proofs.Query.Identity
import Taskboard.Proofs.Storage.Sorting

namespace Taskboard

open Std

/-! ## Items in an order -/

/-- A listing of stored items in an order: the same items, none followed by one that comes before it, and those that
compare equal as they were stored. -/
structure Arranged {α : Type} (order : α → α → Ordering) (stored listed : List α) : Prop where
  perm : listed.Perm stored
  ordered : listed.Pairwise fun a b => order b a ≠ .lt
  stable : ∀ a ∈ stored, listed.filter (order a · == .eq) = stored.filter (order a · == .eq)

section Order

variable {α : Type} {order : α → α → Ordering} [TransCmp order]

/-- Sorting arranges items. -/
theorem arranged_mergeSort (stored : List α) :
    Arranged order stored (stored.mergeSort fun a b => (order a b).isLE) := by
  have trans : ∀ a b c, (order a b).isLE = true → (order b c).isLE = true → (order a c).isLE = true :=
    fun _ _ _ => TransCmp.isLE_trans
  have hperm := stored.mergeSort_perm fun a b => (order a b).isLE
  refine ⟨hperm, (List.pairwise_mergeSort trans Tables.isLE_total stored).imp OrientedCmp.not_lt_of_isLE, fun a _ => ?_⟩
  -- The items that compare equal to one are in order as they were stored, so sorting leaves them so.
  have hequal : (stored.filter (order a · == .eq)).Pairwise fun x y => (order x y).isLE = true := by
    refine List.pairwise_of_forall_mem_list fun x hx y hy => ?_
    have hax : order a x = .eq := beq_iff_eq.1 (List.mem_filter.1 hx).2
    have hay : order a y = .eq := beq_iff_eq.1 (List.mem_filter.1 hy).2
    rw [TransCmp.congr_left (OrientedCmp.eq_symm hax), hay]
    rfl
  have hsublist := (List.sublist_mergeSort trans Tables.isLE_total hequal List.filter_sublist).filter (order a · == .eq)
  rw [List.filter_filter, List.filter_congr fun x _ => Bool.and_self (order a x == .eq)] at hsublist
  exact (hsublist.eq_of_length (hperm.filter _).length_eq.symm).symm

theorem ne_gt_trans {a b c : α} (hab : order a b ≠ .gt) (hbc : order b c ≠ .gt) : order a c ≠ .gt := by
  rw [Ne, Ordering.ne_gt_iff_isLE] at hab hbc ⊢
  exact TransCmp.isLE_trans hab hbc

/-- No item comes before the first one. -/
theorem ne_lt_of_mem_ordered {first : α} {rest : List α} (h : (first :: rest).Pairwise fun a b => order b a ≠ .lt)
    {a : α} (ha : a ∈ first :: rest) : order a first ≠ .lt := by
  rcases List.mem_cons.1 ha with rfl | ha
  · have hself : order a a = .eq := ReflCmp.compare_self
    rw [hself]
    exact nofun
  · exact List.rel_of_pairwise_cons h ha

/-- Items are arranged in one way only. -/
theorem Arranged.unique {stored listed other : List α} (h : Arranged order stored listed)
    (hother : Arranged order stored other) : listed = other := by
  induction listed generalizing stored other with
  | nil => exact (hother.perm.trans h.perm.symm).eq_nil.symm
  | cons a listed ih =>
    have hperm := h.perm.trans hother.perm.symm
    rcases other with _ | ⟨b, other⟩
    · exact absurd hperm.eq_nil (List.cons_ne_nil a listed)
    -- Neither of the first two comes before the other, and of those equal to them the first stored is first in both.
    have heq : order a b = .eq := by
      have hba := ne_lt_of_mem_ordered h.ordered (hperm.mem_iff.2 (List.mem_cons_self ..))
      have hab := ne_lt_of_mem_ordered hother.ordered (hperm.mem_iff.1 (List.mem_cons_self ..))
      have hswap : order b a = (order a b).swap := OrientedCmp.eq_swap
      rw [hswap] at hba
      cases hcompare : order a b <;> simp_all
    have hstable : ∀ c ∈ stored, (a :: listed).filter (order c · == .eq) = (b :: other).filter (order c · == .eq) :=
      fun c hc => (h.stable c hc).trans (hother.stable c hc).symm
    have hclass := hstable a (h.perm.mem_iff.1 (List.mem_cons_self ..))
    have hself : order a a = .eq := ReflCmp.compare_self
    rw [List.filter_cons_of_pos (by simpa using hself), List.filter_cons_of_pos (by simpa using heq)] at hclass
    obtain ⟨rfl, -⟩ := List.cons.inj hclass
    refine congrArg (a :: ·) (ih ⟨.refl listed, h.ordered.tail, fun _ _ => rfl⟩
      ⟨hperm.cons_inv.symm, hother.ordered.tail, fun c hc => ?_⟩)
    have hsame := hstable c (h.perm.mem_iff.1 (List.mem_cons_of_mem a hc))
    rw [List.filter_cons, List.filter_cons] at hsame
    split at hsame
    · exact (List.cons.inj hsame).2.symm
    · exact hsame.symm

end Order

/-- Items by a stamp, the latest first. -/
def newestFirst {α : Type} (stamp : α → String) (a b : α) : Ordering :=
  compare (stamp b) (stamp a)

instance {α : Type} (stamp : α → String) : TransCmp (newestFirst stamp) where
  eq_swap {a b} := (OrientedCmp.eq_swap : compare (stamp b) (stamp a) = (compare (stamp a) (stamp b)).swap)
  isLE_trans {a _ c} hab hbc := (TransCmp.isLE_trans hbc hab : (compare (stamp c) (stamp a)).isLE = true)

/-! ## Rows and values in an order -/

namespace Tables

/-- Sorted rows are in the order of the sort terms. -/
theorem arranged_sorted (terms : List SortTerm) (rows : List Record) :
    Arranged (compareRows terms) rows (sorted terms rows) :=
  arranged_mergeSort rows

/-- There is one way to put rows in the order of some sort terms, which is to sort them. -/
theorem arranged_iff_sorted (terms : List SortTerm) (rows listed : List Record) :
    Arranged (compareRows terms) rows listed ↔ listed = sorted terms rows := by
  constructor
  · exact fun h => h.unique (arranged_sorted terms rows)
  · rintro rfl
    exact arranged_sorted terms rows

/-- The order of values is a total preorder: changing places reverses it, and what is not greater than a value that is
not greater than a third is not greater than this either. Nulls, flags, numbers and texts compare equal just when they
are loosely equal. With the directions that any sort terms give, the order of rows is a total preorder too, so there is
just one way to sort rows that leaves those in place which compare equal. -/
theorem comparison_preorder :
    (∀ a b : Json, b.order a = (a.order b).swap) ∧
    (∀ a b c : Json, a.order b ≠ .gt → b.order c ≠ .gt → a.order c ≠ .gt) ∧
    (∀ a b : Json, a.isScalar = true → b.isScalar = true → (a.order b = .eq ↔ a.looselyEqual b = true)) ∧
    ∀ terms : List SortTerm,
      (∀ a b, compareRows terms b a = (compareRows terms a b).swap) ∧
      (∀ a b c, compareRows terms a b ≠ .gt → compareRows terms b c ≠ .gt → compareRows terms a c ≠ .gt) ∧
      ∀ rows listed, Arranged (compareRows terms) rows listed ↔ listed = sorted terms rows := by
  refine ⟨fun a b => OrientedCmp.eq_swap, fun a b c => ne_gt_trans, fun a b => Json.order_eq_eq_iff_looselyEqual,
    fun terms => ⟨fun a b => OrientedCmp.eq_swap, fun a b c => ne_gt_trans, arranged_iff_sorted terms⟩⟩

/-- What is urgent first, and by name where it is as urgent. -/
def urgentFirst : List SortTerm :=
  [⟨"urgent", .descending⟩, ⟨"name", .ascending⟩]

/-- A chore that says in some way whether it is urgent. -/
def chore (urgent : Json) (name : String) : Record :=
  [("name", .string name), ("urgent", urgent)]

/-- A flag that is true and the number one compare equal, so that chores which are urgent in either way come by their
names, and before one that is not. -/
theorem comparison_preorder_chores :
    (Json.null.order (.bool true) ≠ .gt ∧ (Json.bool true).order (.int 1) ≠ .gt ∧ Json.null.order (.int 1) ≠ .gt) ∧
    ((Json.bool true).looselyEqual (.int 1) = true ∧ (Json.bool true).order (.int 1) = .eq) ∧
    compareRows urgentFirst (chore (.bool true) "Air") (chore (.int 1) "Sweep") ≠ .gt ∧
    compareRows urgentFirst (chore (.int 1) "Sweep") (chore (.bool false) "Air") ≠ .gt ∧
    compareRows urgentFirst (chore (.bool true) "Air") (chore (.bool false) "Air") ≠ .gt := by
  obtain ⟨-, htrans, hequal, hrows⟩ := comparison_preorder
  obtain ⟨-, hrowsTrans, -⟩ := hrows urgentFirst
  have hnull : Json.null.order (.bool true) ≠ .gt := by decide +kernel
  have hflag : (Json.bool true).order (.int 1) ≠ .gt := by decide +kernel
  have hloose : (Json.bool true).looselyEqual (.int 1) = true := by decide +kernel
  have hnames : compareRows urgentFirst (chore (.bool true) "Air") (chore (.int 1) "Sweep") ≠ .gt := by decide +kernel
  have hurgent : compareRows urgentFirst (chore (.int 1) "Sweep") (chore (.bool false) "Air") ≠ .gt := by
    decide +kernel
  exact ⟨⟨hnull, hflag, htrans _ _ _ hnull hflag⟩, ⟨hloose, (hequal _ _ rfl rfl).2 hloose⟩, hnames, hurgent,
    hrowsTrans _ _ _ hnames hurgent⟩

end Tables

/-- Values that may be missing by an order of those that are not. -/
def withinOrder {α : Type} (order : α → α → Ordering) (x? y? : Option α) : Bool :=
  (x?.bind fun x => y?.map fun y => (order x y).isLE).getD true

/-- Where sort terms compare rows as the values are compared that they stand for, sorted rows stand for the sorted
values. -/
theorem Model.map_sorted {α : Type} {model : Model α} {terms : List SortTerm} {order : α → α → Ordering}
    (horder : ∀ (a b : Record) (x y : α), model.decode? (.object a) = some x → model.decode? (.object b) = some y →
      Tables.compareRows terms a b = order x y) {rows : List Record} {values : List α}
    (hvalues : (rows.map Json.object).map model.decode? = values.map some) :
    ((Tables.sorted terms rows).map Json.object).map model.decode? =
      (values.mergeSort fun x y => (order x y).isLE).map some := by
  -- Between rows and values stand values that may be missing; none is here.
  rw [List.map_map] at hvalues ⊢
  have hrows : ∀ a ∈ rows, ∀ b ∈ rows, (Tables.compareRows terms a b).isLE =
      withinOrder order ((model.decode? ∘ Json.object) a) ((model.decode? ∘ Json.object) b) := fun a ha b hb => by
    obtain ⟨x, -, hx⟩ := List.mem_map.1 (hvalues ▸ List.mem_map_of_mem ha)
    obtain ⟨y, -, hy⟩ := List.mem_map.1 (hvalues ▸ List.mem_map_of_mem hb)
    rw [← hx, ← hy, horder a b x y hx.symm hy.symm]
    rfl
  have hsome : ∀ x ∈ values, ∀ y ∈ values, (order x y).isLE = withinOrder order (some x) (some y) :=
    fun _ _ _ _ => rfl
  rw [Tables.sorted, List.map_mergeSort hrows, hvalues, List.map_mergeSort hsome]

/-! ## Pages -/

/-- The pages of a size, one behind another, are the beginning of what is cut into pages. -/
theorem flatMap_pages {α : Type} (items : List α) (size n : Nat) :
    ((List.range n).flatMap fun k => (items.drop (k * size)).take size) = items.take (n * size) := by
  induction n with
  | zero => simp
  | succ n ih => rw [List.range_succ, List.flatMap_append, ih, List.flatMap_singleton, Nat.succ_mul, List.take_add]

namespace Tables

variable {plan : Plan} (tables : Tables) (hlimit : plan.limit? = none)
include hlimit

/-- A limit that a plan without one is given cuts the beginning out of its answer. -/
theorem answer_take (limit : Nat) : tables.answer (plan.take limit) = (tables.answer plan).take limit := by
  unfold answer bounded
  rw [hlimit]
  rfl

variable (hoffset : plan.offset? = none)
include hoffset

/-- A plan without bounds answers every row that meets its conditions. -/
theorem answer_eq_sorted : tables.answer plan = sorted plan.sortTerms (tables.rowsMeeting plan) :=
  bounded_eq_self (by rw [hoffset]; rfl) (by rw [hlimit]; exact nofun)

/-- Bounds that a plan without any is given cut a page out of its answer. -/
theorem answer_page (limit offset : Nat) :
    tables.answer ((plan.take limit).drop offset) = ((tables.answer plan).drop offset).take limit := by
  rw [answer_eq_sorted tables hlimit hoffset]
  rfl

end Tables

/-- A plan without bounds that asks for the newest rows first, each of which can be read, answers what they stand for
with the newest first. -/
theorem Model.exists_newest {α : Type} (model : Model α) (plan : Plan) (tables : Tables) {field : String}
    {stamp : α → String} (hsort : plan.sortTerms = [⟨field, .descending⟩]) (hlimit : plan.limit? = none)
    (hoffset : plan.offset? = none)
    (hstamp : ∀ (row : Record) x, model.decode? (.object row) = some x → row.text? field = some (stamp x))
    (hreadable : ∀ row ∈ tables.rowsMeeting plan, ∃ x, model.decode? (.object row) = some x) :
    ∃ values listed, ((tables.rowsMeeting plan).map Json.object).map model.decode? = values.map some ∧
      Arranged (newestFirst stamp) values listed ∧
      model.decodeAll ((tables.answer plan).map .object) = .ok listed := by
  obtain ⟨values, hvalues⟩ := model.exists_values hreadable
  refine ⟨values, _, hvalues, arranged_mergeSort values, Model.decodeAll_eq_ok_iff.2 ?_⟩
  rw [tables.answer_eq_sorted hlimit hoffset, hsort]
  exact Model.map_sorted (fun a b x y ha hb => Tables.compareRows_descending (hstamp a x ha) (hstamp b y hb)) hvalues

end Taskboard
