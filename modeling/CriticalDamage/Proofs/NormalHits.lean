import CriticalDamage.Proofs.CanonicalForm
import CriticalDamage.Proofs.Conservation
import Mathlib

/-!
# Normal hits

On a normal hit the critical-only entries of a structure give no part, and where modifiers go does
not depend on them. The one thing they still do is to name a type: a modifier without a type that
goes into no component has the type of the first base component of the structure, and that may be
critical-only. The placing of modifiers depends on this type only through such modifiers
(`foldl_place_congr`), so apart from them an assembly is the same without the critical-only entries
(`assemble_withoutCriticalOnly`); with them it may differ (`exists_type_of_critical_only`).
-/

namespace CriticalDamage

/-- The structure without its critical-only entries. -/
def Structure.withoutCriticalOnly (s : Structure) : Structure where
  base := s.base.filter (!·.criticalOnly)
  modifiers := s.modifiers.filter (!·.criticalOnly)
  extraDice := s.extraDice.filter (!·.criticalOnly)

namespace Assembly

variable {s : Structure} {o : HitOptions}

/-! ## What applies -/

theorem applies_of_not_critical (ho : o.critical = false) (criticalOnly : Bool) :
    applies o criticalOnly = !criticalOnly := by
  rw [applies, ho, Bool.or_false]

theorem appliedBase_withoutCriticalOnly (ho : o.critical = false) :
    appliedBase s.withoutCriticalOnly o = appliedBase s o := by
  simp only [appliedBase, Structure.withoutCriticalOnly, applies_of_not_critical ho,
    List.filter_filter, Bool.and_self]

theorem appliedModifiers_withoutCriticalOnly (ho : o.critical = false) :
    appliedModifiers s.withoutCriticalOnly o = appliedModifiers s o := by
  simp only [appliedModifiers, Structure.withoutCriticalOnly, applies_of_not_critical ho,
    List.filter_filter, Bool.and_assoc, Bool.and_self]

theorem appliedDice_withoutCriticalOnly (ho : o.critical = false) :
    appliedDice s.withoutCriticalOnly o = appliedDice s o := by
  simp only [appliedDice, Structure.withoutCriticalOnly, applies_of_not_critical ho,
    List.filter_filter, Bool.and_assoc, Bool.and_self]

theorem placed_withoutCriticalOnly (ho : o.critical = false) :
    placed s.withoutCriticalOnly o =
      (appliedModifiers s o).foldl (place s.withoutCriticalOnly.primaryType)
        ⟨appliedBase s o, []⟩ := by
  rw [placed, appliedModifiers_withoutCriticalOnly ho, appliedBase_withoutCriticalOnly ho]

/-! ## The type of the first component -/

/-- Where modifiers go does not depend on the type of those that have none. -/
theorem base_foldl_place (p q : DamageType) (base : List Component) (gs : List Group)
    (ms : List Modifier) :
    (ms.foldl (place p) ⟨base, gs⟩).base = (ms.foldl (place q) ⟨base, gs⟩).base := by
  induction base generalizing ms with
  | nil => rw [foldl_place_nil, foldl_place_nil]
  | cons c cs ih =>
    rw [foldl_place_cons, foldl_place_cons]
    exact congrArg (_ :: ·) (ih _)

/-- The type of modifiers without one matters only to those that go into no component. -/
theorem foldl_place_congr {p q : DamageType} {base : List Component} {ms : List Modifier}
    (h : ∀ m ∈ ms, target base m = none → ownPair p m = ownPair q m) (gs : List Group) :
    ms.foldl (place p) ⟨base, gs⟩ = ms.foldl (place q) ⟨base, gs⟩ := by
  induction base generalizing ms with
  | nil =>
    rw [foldl_place_nil, foldl_place_nil, List.foldl_ext (group p) (group q) gs]
    intro gs m hm
    have htype : m.type.getD p = m.type.getD q := (Prod.mk.inj (h m hm rfl)).1
    rw [group, group, htype]
  | cons c cs ih =>
    -- What belongs to the first component goes into it, with or without a type of its own.
    rw [foldl_place_cons, foldl_place_cons, ih]
    intro m hm htarget
    obtain ⟨hm, hbelongs⟩ := List.mem_filter.mp hm
    refine h m hm ?_
    rwa [target_cons_of_not_belongs (by simpa using hbelongs)]

/-! ## Parts of a normal hit -/

/-- The portions that are not sums of modifiers. -/
theorem filter_portions (s : Structure) (o : HitOptions) :
    (portions s o).filter (·.kind ≠ .modifier) =
      (placed s o).base.map (⟨·, .base⟩) ++
        (appliedDice s o).map (⟨·.component, .extraDice⟩) := by
  simp [portions, List.filter_append, List.filter_map, Function.comp_def]

end Assembly

open Assembly

/-- On a normal hit critical-only entries have no influence on the parts of base components and
extra dice. They have none on the others either if the first base component has the same type
without them, or if every modifier without a type goes into a component. -/
theorem assemble_withoutCriticalOnly (s : Structure) {o : HitOptions} (ho : o.critical = false) :
    (s.withoutCriticalOnly.assemble o).filter (·.kind ≠ .modifier) =
      (s.assemble o).filter (·.kind ≠ .modifier) ∧
    ((s.withoutCriticalOnly.primaryType = s.primaryType ∨
        ∀ m ∈ appliedModifiers s o, m.type = none → target (appliedBase s o) m ≠ none) →
      s.withoutCriticalOnly.assemble o = s.assemble o) := by
  constructor
  · have hkind : ((fun p : Part => decide (p.kind ≠ .modifier)) ∘ (·.part o)) =
        fun p : Portion => decide (p.kind ≠ .modifier) := rfl
    rw [Structure.assemble, Structure.assemble, List.filter_map, List.filter_map, hkind,
      filter_portions, filter_portions, placed_withoutCriticalOnly ho,
      appliedDice_withoutCriticalOnly ho, placed, base_foldl_place _ s.primaryType]
  · intro h
    have hplaced : placed s.withoutCriticalOnly o = placed s o := by
      rw [placed_withoutCriticalOnly ho, placed]
      rcases h with hprimary | htargets
      · rw [hprimary]
      · refine foldl_place_congr (fun m hm htarget => ?_) []
        rw [ownPair, ownPair]
        cases htype : m.type with
        | none => exact absurd htarget (htargets m hm htype)
        | some t => rfl
    rw [Structure.assemble, Structure.assemble, portions, portions, hplaced,
      appliedDice_withoutCriticalOnly ho]

/-- A sword with fire dice that are dealt on a critical hit only, a strength bonus without a type
and bleeding without a type. -/
def flaringSword : Structure :=
  let fire := DamageType.ofName ['F', 'i', 'r', 'e']
  let slashing := DamageType.ofName ['S', 'l', 'a', 's', 'h', 'i', 'n', 'g']
  { base := [⟨1, Die.ofSides? 6, 0, fire, .plain, true⟩,
      ⟨1, Die.ofSides? 8, 0, slashing, .plain, false⟩]
    modifiers := [.new "strength" (.saturate 4),
      { Modifier.new "bleeding" (.saturate 2) with category := .persistent }]
    extraDice := [] }

/-- The first base component names the type of the bleeding on a normal hit too, although it is not
dealt then: the sword bleeds fire. -/
theorem exists_type_of_critical_only :
    ¬∀ (s : Structure) (o : HitOptions), s.canonical = s → o.critical = false →
      s.withoutCriticalOnly.assemble o = s.assemble o := by
  intro h
  have hcanonical : flaringSword.canonical = flaringSword := by decide +kernel
  exact absurd (h flaringSword default hcanonical rfl) (by decide +kernel)

/-- The strength bonus goes into the slashing dice, so alone it keeps its type. -/
theorem assemble_withoutCriticalOnly_flaringSword :
    let s := { flaringSword with modifiers := flaringSword.modifiers.take 1 }
    s.withoutCriticalOnly.primaryType ≠ s.primaryType ∧
    (∀ m ∈ appliedModifiers s default, m.type = none →
      target (appliedBase s default) m ≠ none) ∧
    s.withoutCriticalOnly.assemble default = s.assemble default := by
  intro s
  have htargets : ∀ m ∈ appliedModifiers s default, m.type = none →
      target (appliedBase s default) m ≠ none := by decide +kernel
  exact ⟨by decide +kernel, htargets,
    (assemble_withoutCriticalOnly s rfl).2 (.inr htargets)⟩

end CriticalDamage
