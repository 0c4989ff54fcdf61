import CriticalDamage.Proofs.Conservation

/-!
# The order of modifiers

Modifiers are placed one after another, and yet their order does not matter while no sum saturates.
A base component takes its own modifiers out of the list, and what it ends with is their sum
(`addAll_perm`). The others fall into groups. These stand in the order in which their first
modifiers come, but there is one group at most for each pair of a type and a category, and its total
is a sum again: so another order of the modifiers is another order of the groups
(`foldl_group_perm`), and of the modifier parts of the assembly, and nothing more
(`assemble_perm_modifiers`).
-/

namespace CriticalDamage

namespace Assembly

variable {primary : DamageType} {ms ms' : List Modifier}

/-! ## Sums -/

theorem valueSum_perm (h : ms.Perm ms') : valueSum ms = valueSum ms' := (h.map _).sum_eq

theorem addAll_perm {a : Amount} (h : ms.Perm ms') (hfit : AddsUp a.val ms)
    (hfit' : AddsUp a.val ms') : addAll a ms = addAll a ms' := by
  apply Amount.ext
  rw [val_addAll hfit, val_addAll hfit', valueSum_perm h]

/-! ## Groups -/

theorem perm_of_filter_pair {gs gs' : List Group}
    (h : ∀ pair, gs.filter (·.pair = pair) = gs'.filter (·.pair = pair)) : gs.Perm gs' := by
  apply List.perm_iff_count.mpr
  intro g
  have hcount (gs : List Group) : (gs.filter (·.pair = g.pair)).count g = gs.count g :=
    List.count_filter (p := fun x : Group => x.pair = g.pair) (decide_eq_true rfl)
  rw [← hcount gs, h, hcount gs']

theorem foldl_group_perm (h : ms.Perm ms')
    (hfit : ∀ pair, AddsUp 0 (ms.filter fun m => ownPair primary m = pair))
    (hfit' : ∀ pair, AddsUp 0 (ms'.filter fun m => ownPair primary m = pair)) :
    (ms.foldl (group primary) []).Perm (ms'.foldl (group primary) []) := by
  apply perm_of_filter_pair
  intro pair
  have hown := h.filter fun m => ownPair primary m = pair
  have hpair : ∀ ms : List Modifier,
      ∀ m ∈ ms.filter fun m => ownPair primary m = pair, ownPair primary m = pair :=
    fun ms m hm => of_decide_eq_true (List.mem_filter.mp hm).2
  rw [filter_foldl_group, filter_foldl_group, List.filter_nil]
  by_cases hnil : ms.filter (fun m => ownPair primary m = pair) = []
  · rw [hnil] at hown ⊢
    rw [hown.nil_eq]
  · have hnil' : ms'.filter (fun m => ownPair primary m = pair) ≠ [] := by
      intro hnil'
      rw [hnil'] at hown
      exact hnil hown.eq_nil
    rw [foldl_group_of_pair hnil (hpair ms), foldl_group_of_pair hnil' (hpair ms'),
      addAll_perm hown (hfit pair) (hfit' pair)]

/-! ## Placing modifiers -/

/-- Modifiers in another order leave the same components and the same groups in another order. -/
theorem foldl_place_perm {base : List Component} (h : ms.Perm ms')
    (hfit : Unsaturated primary base ms) (hfit' : Unsaturated primary base ms') :
    (ms.foldl (place primary) ⟨base, []⟩).base = (ms'.foldl (place primary) ⟨base, []⟩).base ∧
    (ms.foldl (place primary) ⟨base, []⟩).groups.Perm
      (ms'.foldl (place primary) ⟨base, []⟩).groups := by
  induction base generalizing ms ms' with
  | nil =>
    rw [foldl_place_nil, foldl_place_nil]
    refine ⟨rfl, foldl_group_perm h (fun pair => ?_) fun pair => ?_⟩
    · simpa [target] using hfit.grouped pair
    · simpa [target] using hfit'.grouped pair
  | cons c cs ih =>
    -- The first component's own modifiers and the rest are each the same up to their order.
    have hown : addAll c.flat (ms.filter fun m => Belongs m c) =
        addAll c.flat (ms'.filter fun m => Belongs m c) :=
      addAll_perm (h.filter _) hfit.head hfit'.head
    obtain ⟨hbase, hgroups⟩ := ih (h.filter fun m => ¬Belongs m c) hfit.tail hfit'.tail
    rw [foldl_place_cons, foldl_place_cons]
    exact ⟨congrArg₂ (withFlat c · :: ·) hown hbase, hgroups⟩

/-! ## Parts by kind -/

theorem filter_base_assemble (s : Structure) (o : HitOptions) :
    (s.assemble o).filter (·.kind = .base) =
      (placed s o).base.map fun c => Portion.part o ⟨c, .base⟩ := by
  simp [Structure.assemble, portions, Portion.part, List.filter_map, Function.comp_def]

theorem filter_modifier_assemble (s : Structure) (o : HitOptions) :
    (s.assemble o).filter (·.kind = .modifier) =
      (groupComponents (placed s o).groups).map fun c => Portion.part o ⟨c, .modifier⟩ := by
  simp [Structure.assemble, portions, Portion.part, List.filter_map, Function.comp_def,
    groupComponents]

theorem filter_extraDice_assemble (s : Structure) (o : HitOptions) :
    (s.assemble o).filter (·.kind = .extraDice) =
      (appliedDice s o).map fun e => Portion.part o ⟨e.component, .extraDice⟩ := by
  simp [Structure.assemble, portions, Portion.part, List.filter_map, Function.comp_def]

end Assembly

open Assembly

/-- A structure with its modifiers in another order has the same base parts and the same parts of
extra dice, and its modifier parts are the same in another order, if no sum of modifiers saturates
in either order. -/
theorem assemble_perm_modifiers {s : Structure} {ms : List Modifier} {o : HitOptions}
    (h : s.modifiers.Perm ms)
    (hfit : Unsaturated s.primaryType (appliedBase s o) (appliedModifiers s o))
    (hfit' : Unsaturated s.primaryType (appliedBase s o)
      (appliedModifiers { s with modifiers := ms } o)) :
    let t : Structure := { s with modifiers := ms }
    (t.assemble o).filter (·.kind = .base) = (s.assemble o).filter (·.kind = .base) ∧
    (t.assemble o).filter (·.kind = .extraDice) = (s.assemble o).filter (·.kind = .extraDice) ∧
    ((t.assemble o).filter (·.kind = .modifier)).Perm
      ((s.assemble o).filter (·.kind = .modifier)) := by
  intro t
  have happlied : (appliedModifiers t o).Perm (appliedModifiers s o) := h.symm.filter _
  obtain ⟨hbase, hgroups⟩ := foldl_place_perm happlied hfit' hfit
  rw [filter_base_assemble, filter_base_assemble, filter_extraDice_assemble,
    filter_extraDice_assemble, filter_modifier_assemble, filter_modifier_assemble]
  refine ⟨congrArg _ hbase, rfl, ?_⟩
  exact ((hgroups.filter _).map _).map _

/-- The burning sword with frost as well: in the reverse order the cold part comes before the
persistent fire, and the strength goes into the dice as before. -/
theorem assemble_perm_modifiers_frost :
    let frost : Modifier :=
      { Modifier.new "frost" (.saturate 3) with type := some (.ofName ['C', 'o', 'l', 'd']) }
    let s : Structure := { burningSword with modifiers := burningSword.modifiers ++ [frost] }
    let t : Structure := { s with modifiers := s.modifiers.reverse }
    let o : HitOptions := ⟨true, true, .allStatic⟩
    Unsaturated s.primaryType (appliedBase s o) (appliedModifiers s o) ∧
    Unsaturated s.primaryType (appliedBase s o) (appliedModifiers t o) ∧
    t.assemble o ≠ s.assemble o ∧
    (t.assemble o).filter (·.kind = .base) = (s.assemble o).filter (·.kind = .base) ∧
    ((t.assemble o).filter (·.kind = .modifier)).length = 2 ∧
    ((t.assemble o).filter (·.kind = .modifier)).Perm
      ((s.assemble o).filter (·.kind = .modifier)) := by
  intro frost s t o
  have hfit : Unsaturated s.primaryType (appliedBase s o) (appliedModifiers s o) :=
    .of_natAbs (by decide +kernel)
  have hfit' : Unsaturated s.primaryType (appliedBase s o) (appliedModifiers t o) :=
    .of_natAbs (by decide +kernel)
  obtain ⟨hbase, -, hmodifiers⟩ :=
    assemble_perm_modifiers s.modifiers.reverse_perm.symm hfit hfit'
  exact ⟨hfit, hfit', by decide +kernel, hbase, by decide +kernel, hmodifiers⟩

end CriticalDamage
