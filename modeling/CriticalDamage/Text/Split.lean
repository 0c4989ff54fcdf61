/-!
# Splitting at a character
-/

namespace CriticalDamage.Text

/-- What stands before and after the first occurrence of a character. -/
def splitOnce? (mark : Char) : List Char → Option (List Char × List Char)
  | [] => none
  | c :: cs =>
    if c = mark then some ([], cs)
    else (splitOnce? mark cs).map fun p => (c :: p.1, p.2)

theorem splitOnce?_append {mark : Char} {before : List Char} (h : mark ∉ before)
    (after : List Char) : splitOnce? mark (before ++ mark :: after) = some (before, after) := by
  induction before with
  | nil => exact if_pos rfl
  | cons c before ih =>
    rw [List.mem_cons, not_or] at h
    obtain ⟨hc, hbefore⟩ := h
    rw [List.cons_append, splitOnce?, if_neg (Ne.symm hc), ih hbefore]
    rfl

theorem splitOnce?_eq_none_iff {mark : Char} {cs : List Char} :
    splitOnce? mark cs = none ↔ mark ∉ cs := by
  induction cs with
  | nil => simp [splitOnce?]
  | cons c cs ih =>
    rw [splitOnce?, List.mem_cons, not_or]
    split
    · next h => simp [h]
    · next h => rw [Option.map_eq_none_iff, ih, and_iff_right (Ne.symm h)]

theorem splitOnce?_eq_some_iff {mark : Char} {cs before after : List Char} :
    splitOnce? mark cs = some (before, after) ↔
      cs = before ++ mark :: after ∧ mark ∉ before := by
  constructor
  · intro h
    induction cs generalizing before with
    | nil => cases h
    | cons c cs ih =>
      rw [splitOnce?] at h
      split at h
      · next hc =>
        cases h
        exact ⟨by rw [hc, List.nil_append], List.not_mem_nil⟩
      · next hc =>
        obtain ⟨⟨before', after'⟩, hrest, hp⟩ := Option.map_eq_some_iff.mp h
        cases hp
        obtain ⟨rfl, hbefore⟩ := ih hrest
        refine ⟨rfl, ?_⟩
        rw [List.mem_cons, not_or]
        exact ⟨Ne.symm hc, hbefore⟩
  · rintro ⟨rfl, h⟩
    exact splitOnce?_append h after

end CriticalDamage.Text
