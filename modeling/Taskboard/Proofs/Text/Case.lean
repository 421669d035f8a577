/-
Texts in another case. A letter is as little blank in one case as in the other (`isBlank_toLower`), so that a text and
the same text in another case are blank, or free of blank characters, at the same places; and they are cut alike
(`exists_append_of_sameWord`).
-/
import Taskboard.Proofs.Text.Trim
import Taskboard.Text.Ascii

namespace Taskboard.Text

/-- A character that has a lower case is a capital letter, and its lower case stands 32 places behind it. -/
theorem toLower_cases (c : Char) : c.toLower = c ∨ 65 ≤ c.toNat ∧ c.toNat ≤ 90 ∧ c.toLower.toNat = c.toNat + 32 := by
  unfold Char.toLower
  split
  · rename_i hletter
    have hfirst : 65 ≤ c.val.toNat := UInt32.le_iff_toNat_le.1 hletter.1
    have hlast : c.val.toNat ≤ 90 := UInt32.le_iff_toNat_le.1 hletter.2
    have hsum : (c.val + 32).toNat = (c.val.toNat + 32) % 2 ^ 32 := UInt32.toNat_add ..
    rw [Nat.mod_eq_of_lt (by omega)] at hsum
    exact .inr ⟨hfirst, hlast, hsum⟩
  · exact .inl rfl

/-- A letter is not blank in either case. -/
theorem isBlank_toLower (c : Char) : isBlank c.toLower = isBlank c := by
  rcases toLower_cases c with h | ⟨hfirst, hlast, hlower⟩
  · rw [h]
  · have hcapital : isBlank c = false := by
      simp [isBlank]
      omega
    have hsmall : isBlank c.toLower = false := by
      simp [isBlank]
      omega
    rw [hcapital, hsmall]

variable {a b s t : String}

theorem sameWord_iff : sameWord a b = true ↔ a.toList.map Char.toLower = b.toList.map Char.toLower := by
  simp [sameWord, lower, String.ofList_inj]

theorem sameWord_symm (h : sameWord a b = true) : sameWord b a = true :=
  sameWord_iff.2 (sameWord_iff.1 h).symm

theorem sameWord_append (h : sameWord a b = true) (s : String) : sameWord (a ++ s) (b ++ s) = true := by
  rw [sameWord_iff] at h ⊢
  rw [String.toList_append, String.toList_append, List.map_append, List.map_append, h]

/-- A text in another case is cut where the text is. -/
theorem exists_append_of_sameWord (h : sameWord a (s ++ t) = true) :
    ∃ s' t', a = s' ++ t' ∧ sameWord s' s = true ∧ sameWord t' t = true := by
  rw [sameWord_iff, String.toList_append, List.map_append, List.map_eq_append_iff] at h
  obtain ⟨front, back, ha, hfront, hback⟩ := h
  refine ⟨String.ofList front, String.ofList back, ?_, ?_, ?_⟩
  · rw [← String.ofList_append, ← ha, String.ofList_toList]
  · rwa [sameWord_iff, String.toList_ofList]
  · rwa [sameWord_iff, String.toList_ofList]

/-- The characters of a text in another case are as blank as those of the text. -/
theorem exists_isBlank_eq (h : sameWord a b = true) {c : Char} (hc : c ∈ a.toList) :
    ∃ d ∈ b.toList, isBlank c = isBlank d := by
  have hlower : c.toLower ∈ b.toList.map Char.toLower := sameWord_iff.1 h ▸ List.mem_map_of_mem hc
  obtain ⟨d, hd, heq⟩ := List.mem_map.1 hlower
  exact ⟨d, hd, by rw [← isBlank_toLower c, ← heq, isBlank_toLower]⟩

theorem not_mem_of_sameWord (hb : ' ' ∉ b.toList) (h : sameWord a b = true) : ' ' ∉ a.toList := by
  intro hmem
  have hlower : ' '.toLower ∈ b.toList.map Char.toLower := sameWord_iff.1 h ▸ List.mem_map_of_mem hmem
  obtain ⟨d, hd, heq⟩ := List.mem_map.1 hlower
  rcases toLower_cases d with hself | ⟨hfirst, -, hplace⟩
  · exact hb ((hself.symm.trans heq : d = ' ') ▸ hd)
  · have hspace : d.toLower.toNat = 32 := congrArg Char.toNat heq
    omega

theorem Blank.of_sameWord (hb : Blank b) (h : sameWord a b = true) : Blank a := by
  intro c hc
  obtain ⟨d, hd, heq⟩ := exists_isBlank_eq h hc
  rw [heq, hb d hd]

theorem Solid.of_sameWord (hb : Solid b) (h : sameWord a b = true) : Solid a where
  nonempty := by
    rintro rfl
    have hnil := (sameWord_iff.1 h).symm
    exact hb.nonempty (by simpa using hnil)
  unblank c hc := by
    obtain ⟨d, hd, heq⟩ := exists_isBlank_eq h hc
    rw [heq, hb.unblank d hd]

end Taskboard.Text
