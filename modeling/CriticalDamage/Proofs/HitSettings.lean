import CriticalDamage.Critical.Assembly
import CriticalDamage.Proofs.Conservation

/-!
# What the settings of a hit reach

The options of a hit enter an assembly in three places: they decide which entries apply, whether a
component takes its bonus, and what its flat value is multiplied by. Which entries apply depends on
the hit being critical alone (`portions_congr`), and not even on that where no entry is
critical-only (`portions_of_noCriticalOnly`). The other two are the same under all options for
damage that does not scale. So two assemblies of one structure differ only where the settings are
meant to reach (`assemble_same_under_settings`).
-/

namespace CriticalDamage

variable {o o' : HitOptions}

/-! ## Expressions of components -/

namespace Component

/-- The options enter an expression by the bonus of the dice and the factor of the flat value. -/
theorem expression_congr {c : Component} (hbonus : c.takesBonus o = c.takesBonus o')
    (hfactor : c.flatFactor o = c.flatFactor o') : c.expression o = c.expression o' := by
  have hbody : c.body o = c.body o' := by rw [body, body, hbonus, hfactor]
  rw [expression, expression, expressionChars, expressionChars, hbody]

theorem flatFactor_of_not_doubled {c : Component} (h : (c.scalesOn o && o.doubleStatic) = false) :
    c.flatFactor o = 1 := by
  rw [flatFactor, h, Bool.false_and]
  rfl

/-- Without doubling it matters only whether the hit enlarges the component. -/
theorem expression_of_not_doubled {c : Component} (hscales : c.scalesOn o = c.scalesOn o')
    (h : (c.scalesOn o && o.doubleStatic) = false)
    (h' : (c.scalesOn o' && o'.doubleStatic) = false) : c.expression o = c.expression o' := by
  refine expression_congr ?_ ?_
  · rw [takesBonus, takesBonus, hscales]
  · rw [flatFactor_of_not_doubled h, flatFactor_of_not_doubled h']

/-- No hit changes the expression of damage that does not scale. -/
theorem expression_of_not_scales {c : Component} (h : c.category.scales = false)
    (o o' : HitOptions) : c.expression o = c.expression o' := by
  have hscales : ∀ o, c.scalesOn o = false := fun o => by rw [scalesOn, h, Bool.and_false]
  exact expression_of_not_doubled ((hscales o).trans (hscales o').symm)
    (by rw [hscales, Bool.false_and]) (by rw [hscales, Bool.false_and])

end Component

/-! ## Entries that apply -/

/-- No entry is dealt on a critical hit only. -/
structure Structure.NoCriticalOnly (s : Structure) : Prop where
  base : ∀ c ∈ s.base, c.criticalOnly = false
  modifiers : ∀ m ∈ s.modifiers, m.criticalOnly = false
  extraDice : ∀ e ∈ s.extraDice, e.criticalOnly = false

namespace Assembly

variable {s : Structure}

theorem portions_congr (s : Structure) (h : o.critical = o'.critical) :
    portions s o = portions s o' := by
  have happlies : applies o = applies o' := funext fun criticalOnly => by
    rw [applies, applies, h]
  simp only [portions, placed, appliedBase, appliedModifiers, appliedDice, happlies]

theorem portions_of_noCriticalOnly (h : s.NoCriticalOnly) (o o' : HitOptions) :
    portions s o = portions s o' := by
  have hbase : appliedBase s o = appliedBase s o' :=
    List.filter_congr fun c hc => by rw [h.base c hc, applies_false, applies_false]
  have hmodifiers : appliedModifiers s o = appliedModifiers s o' :=
    List.filter_congr fun m hm => by rw [h.modifiers m hm, applies_false, applies_false]
  have hdice : appliedDice s o = appliedDice s o' :=
    List.filter_congr fun e he => by rw [h.extraDice e he, applies_false, applies_false]
  rw [portions, portions, placed, placed, hbase, hmodifiers, hdice]

end Assembly

open Assembly

theorem assemble_congr {s : Structure} (hportions : portions s o = portions s o')
    (h : ∀ c : Component, c.expression o = c.expression o') : s.assemble o = s.assemble o' := by
  rw [Structure.assemble, Structure.assemble, hportions]
  exact List.map_congr_left fun p _ => by rw [Portion.part, Portion.part, h]

/-- The settings of a hit reach only what may scale. On a normal hit they do not matter, on a
critical hit without doubling the scope of doubling does not, and where no entry is critical-only
the persistent and splash parts are the same on every hit. -/
theorem assemble_same_under_settings (s : Structure) :
    (∀ o o' : HitOptions, o.critical = false → o'.critical = false →
      s.assemble o = s.assemble o') ∧
    (∀ o o' : HitOptions, o.critical = true → o'.critical = true → o.doubleStatic = false →
      o'.doubleStatic = false → s.assemble o = s.assemble o') ∧
    (s.NoCriticalOnly → ∀ o o' : HitOptions,
      (s.assemble o).filter (fun p => p.category = .persistent ∨ p.category = .splash) =
        (s.assemble o').filter fun p => p.category = .persistent ∨ p.category = .splash) := by
  refine ⟨fun o o' ho ho' => ?_, fun o o' ho ho' hdouble hdouble' => ?_, fun hnone o o' => ?_⟩
  · refine assemble_congr (portions_congr s (ho.trans ho'.symm)) fun c => ?_
    have hscales : ∀ o : HitOptions, o.critical = false → c.scalesOn o = false := fun o ho => by
      rw [Component.scalesOn, ho, Bool.false_and]
    exact Component.expression_of_not_doubled ((hscales o ho).trans (hscales o' ho').symm)
      (by rw [hscales o ho, Bool.false_and]) (by rw [hscales o' ho', Bool.false_and])
  · have hcritical : o.critical = o'.critical := ho.trans ho'.symm
    refine assemble_congr (portions_congr s hcritical) fun c => ?_
    exact Component.expression_of_not_doubled
      (by rw [Component.scalesOn, Component.scalesOn, hcritical])
      (by rw [hdouble, Bool.and_false]) (by rw [hdouble', Bool.and_false])
  · rw [Structure.assemble, Structure.assemble, portions_of_noCriticalOnly hnone o o',
      List.filter_map, List.filter_map]
    refine List.map_congr_left fun p hp => ?_
    have hscales : p.component.category.scales = false := by
      rw [← Bool.not_eq_true, Component.scales_iff, ← not_or, not_not]
      simpa [Portion.part] using (List.mem_filter.mp hp).2
    rw [Portion.part, Portion.part, Component.expression_of_not_scales hscales o o']

/-- The sword's dice and strength grow on a critical hit, its persistent fire does not. -/
theorem assemble_same_under_settings_burningSword :
    let normal : HitOptions := default
    let doubled : HitOptions := ⟨true, true, .allStatic⟩
    let persistent := fun p : Part => decide (p.category = .persistent ∨ p.category = .splash)
    burningSword.NoCriticalOnly ∧ burningSword.assemble doubled ≠ burningSword.assemble normal ∧
    burningSword.assemble { normal with doubleStatic := true } = burningSword.assemble normal ∧
    burningSword.assemble ⟨true, false, .allStatic⟩ =
      burningSword.assemble ⟨true, false, .flatParts⟩ ∧
    ((burningSword.assemble normal).filter persistent).length = 1 ∧
    (burningSword.assemble doubled).filter persistent =
      (burningSword.assemble normal).filter persistent := by
  intro normal doubled persistent
  have hnone : burningSword.NoCriticalOnly :=
    ⟨by decide +kernel, by decide +kernel, by decide +kernel⟩
  obtain ⟨hnormal, hscope, hunscaled⟩ := assemble_same_under_settings burningSword
  exact ⟨hnone, by decide +kernel, hnormal _ _ rfl rfl, hscope _ _ rfl rfl rfl rfl,
    by decide +kernel, hunscaled hnone doubled normal⟩

end CriticalDamage
