/-
Records as maps from names to values. A record keeps its fields in the order of their names, so it is
known by what it holds under each name (`eq_of_lookup`); putting fields into it changes just what it
holds under their names (`lookup_insert`, `lookup_insertAll`).
-/
import Mathlib.Data.String.Basic
import Taskboard.Json.Basic

namespace Taskboard.Record

/-- The fields stand in the order of their names, each name once. -/
def Ordered (record : Record) : Prop :=
  record.Pairwise fun a b => a.1 < b.1

/-- Fields put into a record one after another. -/
def insertAll (fields : List (String × Json)) (record : Record) : Record :=
  fields.foldl (fun record field => insert field.1 field.2 record) record

theorem ofFields_eq (fields : List (String × Json)) : ofFields fields = insertAll fields [] :=
  rfl

variable {record other : Record} {name : String} {value : Json}

/-! ## What a record holds -/

theorem lookup_cons (name : String) (value : Json) (record : Record) (key : String) :
    List.lookup key ((name, value) :: record) = if key = name then some value else record.lookup key := by
  rw [List.lookup_cons]
  by_cases h : key = name
  · rw [if_pos h, beq_iff_eq.2 h]
  · rw [if_neg h, beq_false_of_ne h]

theorem lookup_insert (name : String) (value : Json) (record : Record) (key : String) :
    (insert name value record).lookup key = if key = name then some value else record.lookup key := by
  induction record with
  | nil => exact lookup_cons name value [] key
  | cons field record ih =>
    obtain ⟨fieldName, fieldValue⟩ := field
    unfold insert
    split
    · rw [lookup_cons]
    · split
      · rename_i heq
        obtain rfl : name = fieldName := heq
        rw [lookup_cons, lookup_cons]
        split <;> rfl
      · rename_i hne
        have hother : key = fieldName → key ≠ name := fun hkey heq => hne (heq.symm.trans hkey)
        rw [lookup_cons, ih, lookup_cons]
        split
        · rename_i hkey
          rw [if_neg (hother hkey)]
        · rfl

theorem lookup_eq_none_of_not_mem {fields : List (String × Json)} (h : name ∉ fields.map Prod.fst) :
    fields.lookup name = none :=
  List.lookup_eq_none_iff.2 fun field hfield => by
    have hne : name ≠ field.1 := fun heq => h (heq ▸ List.mem_map_of_mem hfield)
    simpa using hne

/-- Of fields with different names each is held, and what else the record held. -/
theorem lookup_insertAll {fields : List (String × Json)} (h : (fields.map Prod.fst).Nodup) (record : Record)
    (key : String) : (insertAll fields record).lookup key = (fields.lookup key).or (record.lookup key) := by
  induction fields generalizing record with
  | nil => rfl
  | cons field fields ih =>
    obtain ⟨name, value⟩ := field
    rw [List.map_cons, List.nodup_cons] at h
    rw [insertAll, List.foldl_cons, ← insertAll, ih h.2, lookup_insert, lookup_cons]
    split
    · rename_i hkey
      rw [hkey, lookup_eq_none_of_not_mem h.1]
      rfl
    · rfl

/-! ## The order of the names -/

theorem eq_or_mem_of_mem_insert {field : String × Json} (h : field ∈ insert name value record) :
    field = (name, value) ∨ field ∈ record := by
  induction record with
  | nil => exact .inl (List.mem_singleton.1 h)
  | cons first record ih =>
    unfold insert at h
    split at h
    · exact List.mem_cons.1 h
    · split at h
      · exact (List.mem_cons.1 h).imp_right fun h => List.mem_cons_of_mem _ h
      · rcases List.mem_cons.1 h with rfl | h
        · exact .inr (List.mem_cons_self ..)
        · exact (ih h).imp_right fun h => List.mem_cons_of_mem _ h

theorem Ordered.insert (h : Ordered record) (name : String) (value : Json) : Ordered (insert name value record) := by
  induction record with
  | nil => exact List.pairwise_singleton ..
  | cons field record ih =>
    obtain ⟨hfield, hrecord⟩ := List.pairwise_cons.1 h
    unfold Record.insert
    split
    · rename_i hlt
      refine List.pairwise_cons.2 ⟨List.forall_mem_cons.2 ⟨hlt, fun other hother => ?_⟩, h⟩
      exact hlt.trans (hfield other hother)
    · split
      · rename_i heq
        exact List.pairwise_cons.2 ⟨fun other hother => heq ▸ hfield other hother, hrecord⟩
      · rename_i hlt hne
        refine List.pairwise_cons.2 ⟨fun other hother => ?_, ih hrecord⟩
        rcases eq_or_mem_of_mem_insert hother with rfl | hother
        · exact (lt_or_gt_of_ne (Ne.symm hne)).resolve_right hlt
        · exact hfield other hother

theorem Ordered.insertAll (h : Ordered record) (fields : List (String × Json)) : Ordered (insertAll fields record) := by
  induction fields generalizing record with
  | nil => exact h
  | cons field fields ih => exact ih (h.insert field.1 field.2)

theorem lookup_eq_none (h : ∀ field ∈ record, name < field.1) : record.lookup name = none :=
  List.lookup_eq_none_iff.2 fun field hfield => by simpa using (h field hfield).ne

/-- Two records that hold the same under every name are one. -/
theorem eq_of_lookup (ha : Ordered record) (hb : Ordered other) (h : ∀ name, record.lookup name = other.lookup name) :
    record = other := by
  induction record generalizing other with
  | nil =>
    rcases other with _ | ⟨⟨name, value⟩, other⟩
    · rfl
    · simpa [lookup_cons] using h name
  | cons field record ih =>
    obtain ⟨name, value⟩ := field
    rcases other with _ | ⟨⟨name', value'⟩, other⟩
    · simpa [lookup_cons] using h name
    · obtain ⟨hname, hrecord⟩ := List.pairwise_cons.1 ha
      obtain ⟨hname', hother⟩ := List.pairwise_cons.1 hb
      -- The first name of one record is not in front of that of the other, which would not hold it.
      obtain rfl : name = name' := by
        rcases lt_trichotomy name name' with hlt | heq | hlt
        · have hnone : List.lookup name ((name', value') :: other) = none :=
            lookup_eq_none (List.forall_mem_cons.2 ⟨hlt, fun field hfield => hlt.trans (hname' field hfield)⟩)
          simpa [lookup_cons name value, hnone] using h name
        · exact heq
        · have hnone : List.lookup name' ((name, value) :: record) = none :=
            lookup_eq_none (List.forall_mem_cons.2 ⟨hlt, fun field hfield => hlt.trans (hname field hfield)⟩)
          simpa [lookup_cons name' value', hnone] using h name'
      obtain rfl : value = value' := by simpa [lookup_cons] using h name
      refine congrArg (_ :: ·) (ih hrecord hother fun key => ?_)
      by_cases hkey : key = name
      · rw [hkey, lookup_eq_none hname, lookup_eq_none hname']
      · simpa [lookup_cons, hkey] using h key

end Taskboard.Record
