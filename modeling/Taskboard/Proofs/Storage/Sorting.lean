/-
Sorted rows. Sort terms order rows as a total preorder, and rows that no term tells apart keep their
order. So a row that is added finds its place in the answer of a plan behind every row that is not
greater (`answer_concat`), and the first row of an answer is the earliest of the least ones
(`eq_append_of_answer`).
-/
import Taskboard.Proofs.Json.Order
import Taskboard.Proofs.Storage.Rows

namespace Taskboard.Tables

open Std

/-! ## Stable sorting -/

/-- A list in order starts with what meets a condition that passes to lesser items. -/
theorem filter_append_filter_not {α : Type} {le : α → α → Bool} {p : α → Bool}
    (hp : ∀ a b, le a b = true → p b = true → p a = true) {l : List α} (hl : l.Pairwise (le · · = true)) :
    l.filter p ++ l.filter (!p ·) = l := by
  induction l with
  | nil => rfl
  | cons a l ih =>
    obtain ⟨ha, hl⟩ := List.pairwise_cons.1 hl
    by_cases h : p a = true
    · simpa [h] using ih hl
    · have hnone : ∀ b ∈ l, p b = false := fun b hb => by
        by_contra hpb
        exact h (hp a b (ha b hb) (by simpa using hpb))
      have hfront : l.filter p = [] := List.filter_eq_nil_iff.2 fun b hb => by simp [hnone b hb]
      have hback : l.filter (!p ·) = l := List.filter_eq_self.2 fun b hb => by simp [hnone b hb]
      simp [h, hfront, hback]

theorem isLE_total {α : Type} {order : α → α → Ordering} [OrientedCmp order] (a b : α) :
    ((order a b).isLE || (order b a).isLE) = true := by
  have hswap : order b a = (order a b).swap := OrientedCmp.eq_swap
  rw [hswap]
  cases order a b <;> rfl

section MergeSort

variable {α : Type} {le : α → α → Bool} (trans : ∀ a b c, le a b = true → le b c = true → le a c = true)
  (total : ∀ a b, (le a b || le b a) = true)
include trans total

/-- An item in front of others is sorted between those that are less and those that are not. -/
theorem mergeSort_cons_filter (a : α) (l : List α) : (a :: l).mergeSort le =
    (l.mergeSort le).filter (fun b => !le a b) ++ a :: (l.mergeSort le).filter (le a) := by
  obtain ⟨less, others, hcons, hl, hless⟩ := List.mergeSort_cons trans total a l
  have hothers : ∀ b ∈ others, le a b = true := by
    have hsorted := List.pairwise_mergeSort trans total (a :: l)
    rw [hcons, List.pairwise_append, List.pairwise_cons] at hsorted
    exact hsorted.2.1.1
  rw [hcons, hl, List.filter_append, List.filter_append, List.filter_eq_self.2 hless, List.filter_eq_self.2 hothers,
    List.filter_eq_nil_iff.2 fun b hb => by simp [hothers b hb],
    List.filter_eq_nil_iff.2 fun b hb => by simpa using hless b hb, List.append_nil, List.nil_append]

/-- An item behind others is sorted between those that are not greater and those that are. -/
theorem mergeSort_concat_filter (l : List α) (x : α) : (l ++ [x]).mergeSort le =
    (l.mergeSort le).filter (le · x) ++ x :: (l.mergeSort le).filter (!le · x) := by
  induction l with
  | nil => simp
  | cons a l ih =>
    rw [List.cons_append, mergeSort_cons_filter trans total, ih, mergeSort_cons_filter trans total]
    generalize l.mergeSort le = sorted
    by_cases hax : le a x = true
    · -- What is greater than the item behind is not less than the one in front.
      have hgreater : ∀ b, le b x = false → le a b = true := fun b hb =>
        trans a x b hax (by simpa [hb] using total b x)
      have hless : sorted.filter (fun b => !le a b && !le b x) = [] :=
        List.filter_eq_nil_iff.2 fun b _ => by
          cases h : le b x <;> simp [hgreater b, h]
      have hrest : sorted.filter (fun b => le a b && !le b x) = sorted.filter (!le · x) :=
        List.filter_congr fun b _ => by
          cases h : le b x <;> simp [hgreater b, h]
      simp [List.filter_append, List.filter_filter, hax, Bool.and_comm, hless, hrest]
    · -- What is not greater than the item behind is less than the one in front.
      have hless : ∀ b, le b x = true → le a b = false := fun b hb => by
        by_contra hab
        exact hax (trans a b x (by simpa using hab) hb)
      have hfront : sorted.filter (fun b => le b x && !le a b) = sorted.filter (le · x) :=
        List.filter_congr fun b _ => by
          cases h : le b x <;> simp [hless b, h]
      have hgreater : sorted.filter (fun b => le a b && le b x) = [] :=
        List.filter_eq_nil_iff.2 fun b _ => by
          cases h : le b x <;> simp [hless b, h]
      simp [List.filter_append, List.filter_filter, hax, Bool.and_comm, hfront, hgreater]

/-- The first of sorted items is the earliest of the least ones. -/
theorem eq_append_of_mergeSort {l rest : List α} {x : α} (h : l.mergeSort le = x :: rest) :
    ∃ front back, l = front ++ x :: back ∧ (∀ y ∈ front, le y x = false) ∧ ∀ y ∈ back, le x y = true := by
  induction l generalizing rest with
  | nil => simp at h
  | cons a l ih =>
    rw [mergeSort_cons_filter trans total] at h
    rcases hless : (l.mergeSort le).filter (fun b => !le a b) with _ | ⟨y, less⟩
    · rw [hless, List.nil_append] at h
      obtain ⟨rfl, -⟩ := List.cons.inj h
      refine ⟨[], l, rfl, fun y hy => absurd hy (List.not_mem_nil), fun y hy => ?_⟩
      simpa using List.filter_eq_nil_iff.1 hless y (List.mem_mergeSort.2 hy)
    · rw [hless, List.cons_append] at h
      obtain ⟨rfl, -⟩ := List.cons.inj h
      have hsplit := filter_append_filter_not (p := fun b => !le a b) (fun b c hbc hc => by grind)
        (List.pairwise_mergeSort trans total l)
      rw [hless, List.cons_append] at hsplit
      obtain ⟨front, back, rfl, hfront, hback⟩ := ih hsplit.symm
      have hy : y ∈ (List.mergeSort (front ++ y :: back) le).filter (fun b => !le a b) := by
        rw [hless]
        exact List.mem_cons_self ..
      refine ⟨a :: front, back, rfl, List.forall_mem_cons.2 ⟨?_, hfront⟩, hback⟩
      simpa using (List.mem_filter.1 hy).2

end MergeSort

/-! ## Sort terms -/

@[simp]
theorem compareBy_ascending (field : String) (a b : Record) : compareBy ⟨field, .ascending⟩ a b =
    (Record.valueOrNull a field).order (Record.valueOrNull b field) :=
  rfl

/-- In descending order two rows have changed places. -/
@[simp]
theorem compareBy_descending (field : String) (a b : Record) : compareBy ⟨field, .descending⟩ a b =
    (Record.valueOrNull b field).order (Record.valueOrNull a field) :=
  OrientedCmp.eq_swap.symm

instance : (term : SortTerm) → TransCmp (compareBy term)
  | ⟨field, .ascending⟩ => {
      eq_swap {_ _} := @OrientedCmp.eq_swap _ Json.order _ _ _
      isLE_trans {_ _ _} := @TransCmp.isLE_trans _ Json.order _ _ _ _ }
  | ⟨field, .descending⟩ => {
      eq_swap {a b} := by
        simpa using @OrientedCmp.eq_swap _ Json.order _ _ _
      isLE_trans {a b c} hab hbc := by
        simp only [compareBy_descending] at hab hbc ⊢
        exact TransCmp.isLE_trans hbc hab }

instance (terms : List SortTerm) : TransCmp (compareRows terms) := by
  induction terms with
  | nil => exact { eq_swap := rfl, isLE_trans := fun _ _ => rfl }
  | cons term rest ih => exact inferInstanceAs (TransCmp (compareLex (compareBy term) (compareRows rest)))

section Sorted

variable {terms : List SortTerm} {rows rest : List Record} {row : Record}

theorem isLE_eq_false_iff (terms : List SortTerm) (a b : Record) :
    (compareRows terms a b).isLE = false ↔ compareRows terms b a = .lt := by
  rw [@OrientedCmp.eq_swap _ (compareRows terms) _ b a]
  cases compareRows terms a b <;> simp

/-- A row behind all others comes behind those that are not greater and in front of the others. -/
theorem sorted_concat (terms : List SortTerm) (rows : List Record) (row : Record) :
    ∃ front back, sorted terms (rows ++ [row]) = front ++ row :: back ∧ sorted terms rows = front ++ back ∧
      (∀ other ∈ front, (compareRows terms other row).isLE = true) ∧
      ∀ other ∈ back, compareRows terms row other = .lt := by
  have trans := fun a b c => @TransCmp.isLE_trans _ (compareRows terms) _ a b c
  refine ⟨_, _, mergeSort_concat_filter trans isLE_total rows row, ?_,
    fun other h => (List.mem_filter.1 h).2, fun other h => ?_⟩
  · refine (filter_append_filter_not (fun a b hab hb => ?_)
      (List.pairwise_mergeSort trans isLE_total rows)).symm
    exact trans a b row hab hb
  · exact (isLE_eq_false_iff ..).1 (by simpa using (List.mem_filter.1 h).2)

/-- The first of the sorted rows is the earliest of those that no row comes before. -/
theorem eq_append_of_sorted (h : sorted terms rows = row :: rest) :
    ∃ front back, rows = front ++ row :: back ∧ (∀ other ∈ front, compareRows terms row other = .lt) ∧
      ∀ other ∈ back, (compareRows terms row other).isLE = true := by
  obtain ⟨front, back, rfl, hfront, hback⟩ := eq_append_of_mergeSort
    (fun a b c => @TransCmp.isLE_trans _ (compareRows terms) _ a b c) isLE_total h
  exact ⟨front, back, rfl, fun other hother => (isLE_eq_false_iff ..).1 (hfront other hother), hback⟩

end Sorted

section Texts

variable {field x y : String} {a b : Record}

theorem valueOrNull_of_text? (h : a.text? field = some x) : Record.valueOrNull a field = .string x := by
  obtain ⟨value, hvalue, htext⟩ := Option.bind_eq_some_iff.1 h
  cases value <;> cases htext
  rw [Record.valueOrNull, hvalue]
  rfl

theorem compareRows_ascending (ha : a.text? field = some x) (hb : b.text? field = some y) :
    compareRows [⟨field, .ascending⟩] a b = compare x y := by
  rw [compareRows, compareBy_ascending, valueOrNull_of_text? ha, valueOrNull_of_text? hb, Json.order_string]
  exact Ordering.then_eq

theorem compareRows_descending (ha : a.text? field = some x) (hb : b.text? field = some y) :
    compareRows [⟨field, .descending⟩] a b = compare y x := by
  rw [compareRows, compareBy_descending, valueOrNull_of_text? ha, valueOrNull_of_text? hb, Json.order_string]
  exact Ordering.then_eq

end Texts

/-! ## Answers -/

section Answers

variable {plan : Plan} {s t : Tables} {row : Record} {rest : List Record}

theorem bounded_eq_self {rows : List Record} (hoffset : plan.offset?.getD 0 = 0)
    (hlimit : ∀ limit, plan.limit? = some limit → rows.length ≤ limit) : bounded plan rows = rows := by
  unfold bounded
  rw [hoffset, List.drop_zero]
  split
  · rename_i limit heq
    exact List.take_of_length_le (hlimit limit heq)
  · rfl

/-- A row that is added and meets a plan comes in the answer behind those that are not greater, as long as the
bounds of the plan leave room for it. -/
theorem answer_concat (hrows : t.rows plan.schema.table = s.rows plan.schema.table ++ [row]) (hmeets : plan.Meets row)
    (hoffset : plan.offset?.getD 0 = 0)
    (hlimit : ∀ limit, plan.limit? = some limit → (s.rows plan.schema.table).length < limit) :
    ∃ front back, s.answer plan = front ++ back ∧ t.answer plan = front ++ row :: back ∧
      (∀ other ∈ front, (compareRows plan.sortTerms other row).isLE = true) ∧
      ∀ other ∈ back, compareRows plan.sortTerms row other = .lt := by
  have hmeeting : t.rowsMeeting plan = s.rowsMeeting plan ++ [row] := by
    unfold rowsMeeting
    rw [hrows, List.filter_append, List.filter_singleton, Predicate.allHold_iff.2 hmeets]
    rfl
  have hlength : (s.rowsMeeting plan).length ≤ (s.rows plan.schema.table).length := List.length_filter_le ..
  obtain ⟨front, back, hnew, hold, hfront, hback⟩ := sorted_concat plan.sortTerms (s.rowsMeeting plan) row
  refine ⟨front, back, ?_, ?_, hfront, hback⟩ <;> unfold answer
  · rw [bounded_eq_self hoffset fun limit h => ?_, hold]
    rw [sorted, List.length_mergeSort]
    exact Nat.le_trans hlength (Nat.le_of_lt (hlimit limit h))
  · rw [hmeeting, bounded_eq_self hoffset fun limit h => ?_, hnew]
    rw [sorted, List.length_mergeSort, List.length_append]
    exact Nat.lt_of_le_of_lt hlength (hlimit limit h)

/-- The first row of an answer is the earliest of those that meet the plan and that none comes before. -/
theorem eq_append_of_answer (hoffset : plan.offset? = none) (h : s.answer plan = row :: rest) :
    ∃ front back, s.rows plan.schema.table = front ++ row :: back ∧ plan.Meets row ∧
      (∀ other ∈ front, plan.Meets other → compareRows plan.sortTerms row other = .lt) ∧
      ∀ other ∈ back, plan.Meets other → (compareRows plan.sortTerms row other).isLE = true := by
  obtain ⟨more, hsorted⟩ : ∃ more, sorted plan.sortTerms (s.rowsMeeting plan) = row :: more := by
    unfold answer bounded at h
    rw [hoffset, Option.getD_none, List.drop_zero] at h
    split at h
    · exact ⟨_, (List.take_append_drop _ _).symm.trans (congrArg (· ++ _) h)⟩
    · exact ⟨rest, h⟩
  obtain ⟨front, back, hmeeting, hfront, hback⟩ := eq_append_of_sorted hsorted
  -- The rows before and behind that do not meet the plan are put back.
  obtain ⟨front', back', hrows, rfl, hback'⟩ := List.filter_eq_append_iff.1 hmeeting
  obtain ⟨skipped, back'', rfl, hskipped, hrow, rfl⟩ := List.filter_eq_cons_iff.1 hback'
  refine ⟨front' ++ skipped, back'', by rw [hrows, List.append_assoc], Predicate.allHold_iff.1 hrow,
    fun other hother hmeets => ?_, fun other hother hmeets => ?_⟩
  · rcases List.mem_append.1 hother with hother | hother
    · exact hfront other (List.mem_filter.2 ⟨hother, Predicate.allHold_iff.2 hmeets⟩)
    · exact absurd (Predicate.allHold_iff.2 hmeets) (hskipped other hother)
  · exact hback other (List.mem_filter.2 ⟨hother, Predicate.allHold_iff.2 hmeets⟩)

end Answers

end Taskboard.Tables
