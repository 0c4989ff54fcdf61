import CriticalDamage.Proofs.ExpressionRange
import CriticalDamage.Proofs.WrittenStructures

/-!
# Tags of a part

The expression of a component, read back, is meant to name the damage type outermost and the
category inside it (`Component.tagNames`). It does so wherever its tags enclose the whole value
(`Component.tags_formula`). A negative flat value without dice and without a category stands between
no parentheses; there the minus sign takes the tagged number for its term, and the formula has no
tags at all.
-/

namespace CriticalDamage.Component

variable (c : Component) (o : HitOptions)

/-- The tags that are meant, from the outermost inwards. -/
def tagNames : List String := c.type.text :: (c.category.tag?.map String.ofList).toList

/-- The tags stand after a number that a minus sign stands before. -/
def TagsAfterMinus : Prop := ¬c.RollsDice ∧ c.category = .plain ∧ c.flat.val < 0

instance : Decidable c.TagsAfterMinus := inferInstanceAs (Decidable (_ ∧ _))

theorem flatValue_neg_iff : c.flatValue o < 0 ↔ c.flat.val < 0 := by
  rw [flatValue, flatFactor]
  split <;> omega

theorem tags_signedTerm (n : Int) : (signedTerm n).tags = [] := by
  rw [signedTerm]
  split <;> rfl

theorem tags_bodyFormula : (c.bodyFormula o).tags = [] := by
  rw [bodyFormula]
  split
  · rfl
  · exact tags_signedTerm _

theorem bodyFormula_of_tagsAfterMinus (h : c.TagsAfterMinus) :
    c.bodyFormula o = .negate (.constant (c.flatValue o).natAbs) := by
  obtain ⟨hdice, -, hflat⟩ := h
  rw [bodyFormula, c.rolledDie?_of_not_rollsDice hdice]
  exact if_pos ((c.flatValue_neg_iff o).mpr hflat)

theorem bodyFormula_ne_negate (hcategory : c.category = .plain) (h : ¬c.TagsAfterMinus)
    (f : Formula) : c.bodyFormula o ≠ .negate f := by
  intro hbody
  rw [bodyFormula] at hbody
  by_cases hdice : c.RollsDice
  · obtain ⟨die, hdie, -⟩ := c.rolledDie?_of_rollsDice hdice
    rw [hdie] at hbody
    cases hbody
  · have hflat : ¬c.flatValue o < 0 :=
      fun hneg => h ⟨hdice, hcategory, (c.flatValue_neg_iff o).mp hneg⟩
    rw [c.rolledDie?_of_not_rollsDice hdice] at hbody
    simp only [signedTerm, if_neg hflat] at hbody
    cases hbody

theorem tags_formula : (c.formula o).tags = if c.TagsAfterMinus then [] else c.tagNames := by
  have hbody := c.tags_bodyFormula o
  rw [formula, tagNames]
  cases hcategory : c.category.tag? with
  | some cs =>
    have hplain : ¬c.TagsAfterMinus := by
      rintro ⟨-, hplain, -⟩
      rw [hplain] at hcategory
      cases hcategory
    rw [if_neg hplain]
    simp only [Formula.tags, hbody]
    rfl
  | none =>
    have hplain := Category.eq_plain_of_tag? hcategory
    by_cases h : c.TagsAfterMinus
    · rw [if_pos h, c.bodyFormula_of_tagsAfterMinus o h]
      rfl
    · rw [if_neg h]
      simp only
      split
      · next f hf => exact absurd hf (c.bodyFormula_ne_negate o hplain h f)
      · simp only [Formula.tags, hbody]
        rfl

theorem eq_formula_of_read {f : Formula} (h : Formula.read (c.expression o) = .ok f) :
    f = c.formula o := by
  by_cases hfaults : c.TagsLex ∧ c.BonusFits o
  · rw [c.read_expression o hfaults.1 hfaults.2] at h
    exact (Except.ok.inj h).symm
  · obtain ⟨e, he⟩ := c.read_expression_of_faults o hfaults
    cases he.symm.trans h

/-- An expression that is read back names its type outermost and then its category, if it has one,
just when it has dice, a category or a flat value that is not negative. Otherwise it names
nothing. -/
theorem tags_eq_tagNames_iff {f : Formula} (h : Formula.read (c.expression o) = .ok f) :
    (f.tags = c.tagNames ↔ c.RollsDice ∨ c.category ≠ .plain ∨ 0 ≤ c.flat.val) ∧
      (¬(c.RollsDice ∨ c.category ≠ .plain ∨ 0 ≤ c.flat.val) → f.tags = []) := by
  have hminus : c.TagsAfterMinus ↔ ¬(c.RollsDice ∨ c.category ≠ .plain ∨ 0 ≤ c.flat.val) := by
    rw [TagsAfterMinus, not_or, not_or, not_not, Int.not_le]
  rw [c.eq_formula_of_read o h, tags_formula]
  by_cases hcase : c.TagsAfterMinus
  · rw [if_pos hcase]
    exact ⟨iff_of_false (List.cons_ne_nil _ _).symm (hminus.mp hcase), fun _ => rfl⟩
  · rw [if_neg hcase]
    have hnamed := not_not.mp (mt hminus.mpr hcase)
    exact ⟨iff_of_true rfl hnamed, fun hnot => absurd hnamed hnot⟩

/-- A bare negative number with a category is grouped before it is tagged, and names both. -/
theorem tags_eq_tagNames_iff_grouped :
    let type := DamageType.ofName ['C', 'o', 'l', 'd', ' ', 'I', 'r', 'o', 'n']
    let category := Category.ofName ['T', 'i', 'e', 'r', ' ', '2']
    let c : Component := ⟨0, none, ⟨-3, by decide, by decide⟩, type, category, false⟩
    let o : HitOptions := default
    ∃ f, Formula.read (c.expression o) = .ok f ∧ f.tags = ["cold-iron", "tier-2"] := by
  intro type category c o
  have htags : c.TagsLex := by decide +kernel
  have hfit : c.BonusFits o := (c.bonusFits_iff o).mpr (by decide +kernel)
  have hread := c.read_expression o htags hfit
  have hcategory : c.category ≠ .plain := by decide +kernel
  have hnames := (c.tags_eq_tagNames_iff o hread).1.mpr (.inr (.inl hcategory))
  exact ⟨c.formula o, hread, hnames.trans (by decide +kernel)⟩

/-- The minus sign of `-2[fire]` stands outside the tag. -/
theorem exists_part_without_tags :
    ¬∀ (c : Component) (o : HitOptions) (f : Formula),
      Formula.read (c.expression o) = .ok f → f.tags = c.tagNames := by
  intro hall
  let type := DamageType.ofName ['f', 'i', 'r', 'e']
  let c : Component := ⟨0, none, ⟨-2, by decide, by decide⟩, type, .plain, false⟩
  have htags : c.TagsLex := by decide +kernel
  have hfit : c.BonusFits default := (c.bonusFits_iff default).mpr (by decide +kernel)
  have hnames := hall c default _ (c.read_expression default htags hfit)
  rw [tags_formula, if_pos (by decide : c.TagsAfterMinus)] at hnames
  exact (List.cons_ne_nil _ _).symm hnames

end CriticalDamage.Component
