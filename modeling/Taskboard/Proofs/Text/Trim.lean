/-
Trimmed texts. Trimming takes the blank characters off both ends of a text (`exists_surrounded`) and does not mind how
many stand there (`trim_surrounded`). So a text is trimmed when it begins and ends with characters that are not blank
(`trimmed_iff`), and to trim it again changes nothing.
-/
import Taskboard.Text.Blank
import Mathlib.Data.List.DropRight

namespace Taskboard.Text

/-! ## Blank texts -/

/-- A text with nothing but blank characters in it, if anything. -/
def Blank (s : String) : Prop :=
  ∀ c ∈ s.toList, isBlank c = true

instance (s : String) : Decidable (Blank s) :=
  List.decidableBAll (isBlank · = true) s.toList

variable {s t front back : String}

theorem blank_empty : Blank "" := by
  simp [Blank]

theorem Blank.append (hs : Blank s) (ht : Blank t) : Blank (s ++ t) := by
  intro c hc
  rw [String.toList_append] at hc
  exact (List.mem_append.1 hc).elim (hs c) (ht c)

/-! ## The ends of a text -/

theorem trimBack_eq_rdropWhile (cs : List Char) : trimBack cs = cs.rdropWhile isBlank :=
  rfl

/-- What is left after trimming does not begin with a blank character. -/
theorem isBlank_of_head_trim {c : Char} (h : c ∈ (trim s).toList.head?) : isBlank c = false := by
  rw [trim, String.toList_ofList, trimBack_eq_rdropWhile] at h
  -- What is taken off the back leaves the beginning as it is.
  obtain ⟨rest, hrest⟩ := List.rdropWhile_prefix isBlank (trimFront s.toList)
  have hfirst := List.head?_dropWhile_not isBlank s.toList
  rw [show s.toList.dropWhile isBlank = trimFront s.toList from rfl, ← hrest, List.head?_append, Option.mem_def.1 h]
    at hfirst
  exact hfirst

/-- What is left after trimming does not end with a blank character. -/
theorem isBlank_of_getLast_trim {c : Char} (h : c ∈ (trim s).toList.getLast?) : isBlank c = false := by
  rw [trim, String.toList_ofList, trimBack_eq_rdropWhile] at h
  obtain ⟨hne, rfl⟩ := List.mem_getLast?_eq_getLast h
  simpa using List.rdropWhile_last_not isBlank _ hne

theorem trim_eq_self (hhead : ∀ c ∈ s.toList.head?, isBlank c = false)
    (hlast : ∀ c ∈ s.toList.getLast?, isBlank c = false) : trim s = s := by
  have hfront : trimFront s.toList = s.toList :=
    List.dropWhile_eq_self_iff.2 fun hlength => by
      simp [hhead _ (List.head?_eq_getElem? ▸ List.getElem?_eq_getElem hlength)]
  have hback : trimBack s.toList = s.toList := by
    rw [trimBack_eq_rdropWhile, List.rdropWhile_eq_self_iff]
    exact fun hne => by simp [hlast _ (List.getLast?_eq_some_getLast hne)]
  rw [trim, hfront, hback, String.ofList_toList]

theorem trim_trim (s : String) : trim (trim s) = trim s :=
  trim_eq_self (fun _ => isBlank_of_head_trim) fun _ => isBlank_of_getLast_trim

/-- A text is what is left of it after trimming, with blank texts around it. -/
theorem exists_surrounded (s : String) : ∃ front back, Blank front ∧ Blank back ∧ s = front ++ trim s ++ back := by
  refine ⟨String.ofList (s.toList.takeWhile isBlank), String.ofList ((trimFront s.toList).rtakeWhile isBlank),
    fun c hc => ?_, fun c hc => ?_, ?_⟩
  · rw [String.toList_ofList] at hc
    exact List.mem_takeWhile_imp hc
  · rw [String.toList_ofList] at hc
    exact List.mem_rtakeWhile_imp hc
  · rw [trim, ← String.ofList_append, ← String.ofList_append, List.append_assoc, trimBack_eq_rdropWhile,
      List.rdropWhile_append_rtakeWhile, trimFront, List.takeWhile_append_dropWhile, String.ofList_toList]

theorem trim_blank_append (hfront : Blank front) (s : String) : trim (front ++ s) = trim s := by
  unfold trim trimFront
  rw [String.toList_append, List.dropWhile_append_of_pos hfront]

theorem trim_append_blank (s : String) (hback : Blank back) : trim (s ++ back) = trim s := by
  have hchars : trimBack (trimFront (s ++ back).toList) = trimBack (trimFront s.toList) := by
    unfold trimFront
    rw [String.toList_append, List.dropWhile_append, List.dropWhile_eq_nil_iff.2 hback]
    split
    · rename_i hnil
      rw [List.isEmpty_iff.1 hnil]
    · unfold trimBack trimFront
      rw [List.reverse_append, List.dropWhile_append_of_pos fun c hc => hback c (List.mem_reverse.1 hc)]
  exact congrArg String.ofList hchars

/-- Blank texts around a text do not change what is left after trimming. -/
theorem trim_surrounded (hfront : Blank front) (hback : Blank back) : trim (front ++ s ++ back) = trim s := by
  rw [trim_append_blank _ hback, trim_blank_append hfront]

/-- Nothing is left of a text when it is blank. -/
theorem trim_eq_empty_iff : trim s = "" ↔ Blank s := by
  constructor
  · intro h
    obtain ⟨front, back, hfront, hback, hs⟩ := exists_surrounded s
    rw [hs, h, String.append_empty]
    exact hfront.append hback
  · intro h
    have hempty := trim_blank_append h ""
    rwa [String.append_empty] at hempty

/-! ## Trimmed texts -/

/-- A text with something in it and no blank characters at its ends. -/
structure Trimmed (s : String) : Prop where
  fixed : trim s = s
  nonempty : s ≠ ""

/-- A text is trimmed when there is something in it, and its first and last characters are not blank. -/
theorem trimmed_iff : Trimmed s ↔ s ≠ "" ∧ (∀ c ∈ s.toList.head?, isBlank c = false) ∧
    ∀ c ∈ s.toList.getLast?, isBlank c = false := by
  constructor
  · rintro ⟨hfixed, hne⟩
    rw [← hfixed]
    exact ⟨hfixed.symm ▸ hne, fun _ => isBlank_of_head_trim, fun _ => isBlank_of_getLast_trim⟩
  · rintro ⟨hne, hhead, hlast⟩
    exact ⟨trim_eq_self hhead hlast, hne⟩

/-- Between two trimmed texts there may be anything. -/
theorem Trimmed.append (hs : Trimmed s) (middle : String) (ht : Trimmed t) : Trimmed (s ++ middle ++ t) := by
  obtain ⟨hsne, hhead, -⟩ := trimmed_iff.1 hs
  obtain ⟨htne, -, hlast⟩ := trimmed_iff.1 ht
  refine trimmed_iff.2 ⟨by simp [hsne], fun c hc => hhead c ?_, fun c hc => hlast c ?_⟩
  · rwa [String.append_assoc, String.toList_append, List.head?_append_of_ne_nil _ (by simpa using hsne)] at hc
  · rwa [String.toList_append, List.getLast?_append_of_ne_nil _ (by simpa using htne)] at hc

theorem nonBlank?_eq_none_iff {s : String} : nonBlank? s = none ↔ trim s = "" := by
  simp [nonBlank?]

theorem nonBlank?_eq_some_iff {s t : String} : nonBlank? s = some t ↔ trim s ≠ "" ∧ trim s = t := by
  simp [nonBlank?]

theorem nonBlank?_eq_some_iff_not_blank : nonBlank? s = some t ↔ ¬ Blank s ∧ t = trim s := by
  rw [nonBlank?_eq_some_iff, Ne, trim_eq_empty_iff, @eq_comm _ t]

theorem eq_trim_of_nonBlank? {s t : String} (h : nonBlank? s = some t) : t = trim s :=
  (nonBlank?_eq_some_iff.1 h).2.symm

theorem trimmed_of_nonBlank? {s t : String} (h : nonBlank? s = some t) : Trimmed t := by
  obtain ⟨hblank, rfl⟩ := nonBlank?_eq_some_iff.1 h
  exact ⟨trim_trim s, hblank⟩

theorem nonBlank?_congr (h : trim s = trim t) : nonBlank? s = nonBlank? t := by
  rw [nonBlank?, nonBlank?, h]

theorem Trimmed.nonBlank?_eq (h : Trimmed s) : nonBlank? s = some s :=
  nonBlank?_eq_some_iff.2 ⟨h.fixed.symm ▸ h.nonempty, h.fixed⟩

/-- A text with something in it and no blank character. -/
structure Solid (s : String) : Prop where
  nonempty : s ≠ ""
  unblank : ∀ c ∈ s.toList, isBlank c = false

theorem Solid.trimmed (h : Solid s) : Trimmed s :=
  trimmed_iff.2 ⟨h.nonempty, fun c hc => h.unblank c (List.mem_of_mem_head? hc),
    fun c hc => h.unblank c (List.mem_of_mem_getLast? hc)⟩

end Taskboard.Text
