import CriticalDamage.Document.Basic
import Mathlib.Data.List.Nodup
import Mathlib.Data.String.Basic
import Mathlib.Tactic.SplitIfs

/-!
# Entries of records

A record is a list of entries, of which `Document.get?` finds the first of a name. If no name occurs
twice, the entries are just what is found under the names, so records that hold the same are
permutations of each other (`Document.perm_of_get?_eq`).

A document may list the entries of a record in any order, and a name twice. Its canonical form has
each name once and holds under it the last entry that is listed (`Document.get?_canonical`).
-/

namespace CriticalDamage.Document

variable {fields listed : List (String × Document)} {name : String} {d : Document}

/-- The two listings have the same last entry for every name. -/
def SameEntries (listed relisted : List (String × Document)) : Prop :=
  ∀ name, (record listed.reverse).get? name = (record relisted.reverse).get? name

theorem get?_cons (name : String) (d : Document) (fields : List (String × Document))
    (other : String) :
    (record ((name, d) :: fields)).get? other =
      if name = other then some d else (record fields).get? other := by
  rw [get?, List.find?_cons]
  by_cases h : name = other
  · rw [if_pos h, beq_iff_eq.mpr h]
    rfl
  · rw [if_neg h, beq_eq_false_iff_ne.mpr h]
    rfl

theorem get?_append (fields listed : List (String × Document)) (name : String) :
    (record (fields ++ listed)).get? name =
      ((record fields).get? name).or ((record listed).get? name) := by
  rw [get?, get?, get?, List.find?_append, Option.map_or]

/-! ## Names that occur once -/

/-- If each name occurs once, the entries are what is found under their names. -/
theorem mem_iff_get?_eq_some (h : (fields.map (·.1)).Nodup) :
    (name, d) ∈ fields ↔ (record fields).get? name = some d := by
  induction fields with
  | nil => simp [get?]
  | cons f fields ih =>
    obtain ⟨first, old⟩ := f
    rw [List.map_cons, List.nodup_cons] at h
    obtain ⟨hfirst, hrest⟩ := h
    rw [get?_cons, List.mem_cons, ih hrest, Prod.mk.injEq]
    split
    · next heq =>
      have hnone : (name, d) ∉ fields := by
        intro hmem
        exact hfirst (List.mem_map.mpr ⟨(name, d), hmem, heq.symm⟩)
      rw [ih hrest] at hnone
      simp [heq, hnone, eq_comm]
    · next hne => simp [Ne.symm hne]

theorem perm_of_get?_eq (h : (fields.map (·.1)).Nodup) (h' : (listed.map (·.1)).Nodup)
    (hget : ∀ name, (record fields).get? name = (record listed).get? name) :
    fields.Perm listed := by
  apply (List.perm_ext_iff_of_nodup h.of_map h'.of_map).mpr
  rintro ⟨name, d⟩
  rw [mem_iff_get?_eq_some h, mem_iff_get?_eq_some h', hget]

theorem get?_eq_of_perm (h : (fields.map (·.1)).Nodup) (hperm : listed.Perm fields)
    (name : String) : (record listed).get? name = (record fields).get? name := by
  have h' : (listed.map (·.1)).Nodup := (hperm.map _).nodup_iff.mpr h
  apply Option.ext
  intro d
  rw [← mem_iff_get?_eq_some h, ← mem_iff_get?_eq_some h', hperm.mem_iff]

theorem sameEntries_of_perm (h : (fields.map (·.1)).Nodup) (hperm : listed.Perm fields) :
    SameEntries listed fields := by
  have hreverse : (fields.reverse.map (·.1)).Nodup :=
    (fields.reverse_perm.map _).nodup_iff.mpr h
  exact get?_eq_of_perm hreverse
    ((listed.reverse_perm.trans hperm).trans fields.reverse_perm.symm)

/-! ## What canonical form keeps -/

theorem canonical_record (listed : List (String × Document)) :
    (record listed).canonical = record (canonicalFields [] listed) := by rw [canonical]

/-- What is put into a record stands under its name, and what stands under others stays. -/
theorem get?_insertField (name : String) (d : Document) (fields : List (String × Document))
    (other : String) :
    (record (insertField name d fields)).get? other =
      if name = other then some d else (record fields).get? other := by
  induction fields with
  | nil => exact get?_cons name d [] other
  | cons f fields ih =>
    obtain ⟨first, old⟩ := f
    rw [insertField]
    by_cases hfirst : name = first
    · rw [if_pos hfirst, get?_cons, get?_cons, hfirst]
      split <;> rfl
    rw [if_neg hfirst]
    split
    · exact get?_cons name d _ other
    · rw [get?_cons, get?_cons, ih]
      by_cases hother : name = other
      · have hne : first ≠ other := fun h => hfirst (hother.trans h.symm)
        rw [if_neg hne, if_pos hother, if_pos hother]
      · rw [if_neg hother, if_neg hother]

theorem get?_canonicalFields (done listed : List (String × Document)) (name : String) :
    (record (canonicalFields done listed)).get? name =
      (((record listed.reverse).get? name).map canonical).or ((record done).get? name) := by
  induction listed generalizing done with
  | nil => rfl
  | cons f listed ih =>
    obtain ⟨first, d⟩ := f
    rw [canonicalFields, ih, get?_insertField, List.reverse_cons, get?_append, get?_cons,
      Option.map_or, Option.or_assoc]
    split <;> rfl

theorem get?_canonical (listed : List (String × Document)) (name : String) :
    (record listed).canonical.get? name =
      ((record listed.reverse).get? name).map canonical := by
  rw [canonical_record, get?_canonicalFields]
  exact Option.or_none

theorem mem_insertField {f : String × Document} (h : f ∈ insertField name d fields) :
    f = (name, d) ∨ f ∈ fields := by
  induction fields with
  | nil => exact .inl (List.mem_singleton.mp h)
  | cons g fields ih =>
    obtain ⟨first, old⟩ := g
    rw [insertField] at h
    split_ifs at h
    · exact (List.mem_cons.mp h).imp_right (List.mem_cons_of_mem _)
    · exact List.mem_cons.mp h
    · rcases List.mem_cons.mp h with rfl | h
      · exact .inr List.mem_cons_self
      · exact (ih h).imp_right (List.mem_cons_of_mem _)

theorem pairwise_insertField (h : fields.Pairwise (·.1 < ·.1)) :
    (insertField name d fields).Pairwise (·.1 < ·.1) := by
  induction fields with
  | nil => exact List.pairwise_singleton _ _
  | cons g fields ih =>
    obtain ⟨first, old⟩ := g
    obtain ⟨hfirst, hrest⟩ := List.pairwise_cons.mp h
    rw [insertField]
    split_ifs with heq hlt
    · subst heq
      exact List.pairwise_cons.mpr ⟨hfirst, hrest⟩
    · refine List.pairwise_cons.mpr ⟨fun f hf => ?_, h⟩
      rcases List.mem_cons.mp hf with rfl | hf
      · exact hlt
      · exact hlt.trans (hfirst f hf)
    · refine List.pairwise_cons.mpr ⟨fun f hf => ?_, ih hrest⟩
      rcases mem_insertField hf with rfl | hf
      · exact lt_of_le_of_ne (not_lt.mp hlt) (Ne.symm heq)
      · exact hfirst f hf

theorem pairwise_canonicalFields {done : List (String × Document)}
    (h : done.Pairwise (·.1 < ·.1)) (listed : List (String × Document)) :
    (canonicalFields done listed).Pairwise (·.1 < ·.1) := by
  induction listed generalizing done with
  | nil => exact h
  | cons f listed ih => exact ih (pairwise_insertField h)

theorem nodup_canonicalFields (listed : List (String × Document)) :
    ((canonicalFields [] listed).map (·.1)).Nodup :=
  List.pairwise_map.mpr ((pairwise_canonicalFields .nil listed).imp ne_of_lt)

/-- The canonical form depends, up to the order of its entries, on the last entries only. -/
theorem canonicalFields_perm {relisted : List (String × Document)}
    (h : SameEntries listed relisted) :
    (canonicalFields [] listed).Perm (canonicalFields [] relisted) := by
  apply perm_of_get?_eq (nodup_canonicalFields listed) (nodup_canonicalFields relisted)
  intro name
  rw [← canonical_record, ← canonical_record, get?_canonical, get?_canonical, h name]

end CriticalDamage.Document
