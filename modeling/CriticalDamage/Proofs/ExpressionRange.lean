import CriticalDamage.Proofs.ExpressionReading

/-!
# The range of a damage expression

What the expression of a component is meant to give is stated by itself: the range of the dice
(`lowestDice`, `highestDice`), what a critical hit adds to it (`criticalBonus`) and what the flat
value is multiplied by (`staticFactor`). `expression_range` says that an expression whose tags can
be scanned is read back with exactly this range, and that no other is read back. Not every tag can
be scanned: a point after a digit stands in no lexeme, so `expression_read_iff` names the condition
under which an expression is read back at all.
-/

namespace CriticalDamage.Component

variable (c : Component) (o : HitOptions)

/-! ## What is meant -/

/-- There are dice, and they have a size. -/
def RollsDice : Prop := 0 < c.count.val ∧ c.die.isSome = true

instance : Decidable c.RollsDice := inferInstanceAs (Decidable (_ ∧ _))

def sides : Nat :=
  match c.die with
  | some die => die.sides
  | none => 0

def lowestDice : Int := if c.RollsDice then c.count.val else 0

def highestDice : Int := if c.RollsDice then c.count.val * c.sides else 0

/-- What a critical hit adds to the dice: their maximum, unless the damage is persistent or splash
or dealt on a critical hit only. -/
def criticalBonus : Int :=
  if c.RollsDice ∧ o.critical = true ∧ c.category ≠ .persistent ∧ c.category ≠ .splash ∧
      c.criticalOnly = false then c.highestDice
  else 0

/-- What the flat value is multiplied by: two on a critical hit that doubles flat values, unless
the damage is persistent or splash or the flat value belongs to dice and these are left out. -/
def staticFactor : Int :=
  if o.critical = true ∧ o.doubleStatic = true ∧ c.category ≠ .persistent ∧
      c.category ≠ .splash ∧ (¬c.RollsDice ∨ o.scope = .allStatic) then 2
  else 1

/-! ## What is written -/

theorem rolledDie?_of_rollsDice (h : c.RollsDice) :
    ∃ die, c.rolledDie? = some die ∧ die.sides = c.sides := by
  obtain ⟨hcount, hdie⟩ := h
  obtain ⟨die, hdie⟩ := Option.isSome_iff_exists.mp hdie
  exact ⟨die, by rw [rolledDie?, if_pos hcount, hdie], by rw [sides, hdie]⟩

theorem rolledDie?_of_not_rollsDice (h : ¬c.RollsDice) : c.rolledDie? = none := by
  rw [rolledDie?]
  split
  · next hcount =>
    cases hd : c.die with
    | none => rfl
    | some die => exact absurd ⟨hcount, by rw [hd]; rfl⟩ h
  · rfl

theorem scales_iff {g : Category} : g.scales = true ↔ g ≠ .persistent ∧ g ≠ .splash := by
  cases g <;> simp [Category.scales]

theorem flatFactor_eq : c.flatFactor o = c.staticFactor o := by
  rw [flatFactor, staticFactor]
  by_cases h : c.RollsDice
  · obtain ⟨die, hdie, -⟩ := c.rolledDie?_of_rollsDice h
    simp [scalesOn, scales_iff, hdie, h, and_comm, and_left_comm]
  · simp [scalesOn, scales_iff, c.rolledDie?_of_not_rollsDice h, h, and_comm, and_left_comm]

theorem maxDice_eq : (c.maxDice : Int) = c.highestDice := by
  rw [maxDice, highestDice]
  by_cases h : c.RollsDice
  · obtain ⟨die, hdie, hsides⟩ := c.rolledDie?_of_rollsDice h
    simp [hdie, h, hsides]
  · simp [c.rolledDie?_of_not_rollsDice h, h]

theorem criticalBonus_eq : c.criticalBonus o =
    if c.rolledDie?.isSome ∧ c.takesBonus o = true then (c.maxDice : Int) else 0 := by
  rw [criticalBonus, maxDice_eq]
  by_cases h : c.RollsDice
  · obtain ⟨die, hdie, -⟩ := c.rolledDie?_of_rollsDice h
    simp [takesBonus, scalesOn, scales_iff, hdie, h, and_assoc]
  · simp [c.rolledDie?_of_not_rollsDice h, h]

theorem bonusFits_iff : c.BonusFits o ↔ c.criticalBonus o < Width.signed64 := by
  rw [BonusFits, criticalBonus_eq]
  split
  · next h => simp [h.1, h.2]
  · next h =>
    refine iff_of_true (fun hdie hbonus => absurd ⟨hdie, hbonus⟩ h) (by decide)

/-! ## Ranges of formulas -/

theorem range_signedTerm (n : Int) : (signedTerm n).range = .point n := by
  rw [signedTerm]
  split
  · simp only [Formula.range, Range.neg, Range.point, Range.mk.injEq]
    omega
  · simp only [Formula.range, Range.point, Range.mk.injEq]
    omega

theorem range_diceTerms {die : Die} (h : c.rolledDie? = some die) :
    Formula.rangeSum (c.diceTerms o die) =
      ⟨c.count.val + c.criticalBonus o + c.flatValue o,
        c.maxDice + c.criticalBonus o + c.flatValue o⟩ := by
  have hmax : c.maxDice = c.count.val * die.sides := by rw [maxDice, h]
  rw [criticalBonus_eq, h, diceTerms]
  by_cases hb : c.takesBonus o = true
  · simp [hb, hmax, Formula.rangeSum, Formula.range, range_signedTerm, Range.add, Range.point,
      Int.add_assoc]
  · simp [hb, hmax, Formula.rangeSum, Formula.range, range_signedTerm, Range.add, Range.point]

theorem range_bodyFormula :
    (c.bodyFormula o).range =
      ⟨c.lowestDice + c.criticalBonus o + c.flatValue o,
        c.highestDice + c.criticalBonus o + c.flatValue o⟩ := by
  rw [← maxDice_eq]
  by_cases h : c.RollsDice
  · obtain ⟨die, hdie, -⟩ := c.rolledDie?_of_rollsDice h
    rw [bodyFormula, hdie, lowestDice, if_pos h]
    exact c.range_diceTerms o hdie
  · have hdie := c.rolledDie?_of_not_rollsDice h
    simp [bodyFormula, hdie, range_signedTerm, Range.point, lowestDice, h, criticalBonus, maxDice]

/-- The formula of a component has the range that is meant. -/
theorem range_formula :
    (c.formula o).range =
      ⟨c.lowestDice + c.criticalBonus o + c.staticFactor o * c.flat.val,
        c.highestDice + c.criticalBonus o + c.staticFactor o * c.flat.val⟩ := by
  have htags : (c.formula o).range = (c.bodyFormula o).range := by
    rw [formula]
    split
    · rfl
    · split
      · next h => rw [h]; rfl
      · rfl
  rw [htags, range_bodyFormula, flatValue, flatFactor_eq, Int.mul_comm]

/-! ## Reading back -/

/-- An expression is read back with exactly the range that is meant if both of its tags can be
scanned, and refused if one cannot. The maximum of the dice is the only number of it that can be
too large. -/
theorem expression_range (hfit : c.criticalBonus o < Width.signed64) :
    (c.TagsLex → ∃ f, Formula.read (c.expression o) = .ok f ∧
      f.min = c.lowestDice + c.criticalBonus o + c.staticFactor o * c.flat.val ∧
      f.max = c.highestDice + c.criticalBonus o + c.staticFactor o * c.flat.val) ∧
    (¬c.TagsLex → ∃ e, Formula.read (c.expression o) = .error e) := by
  constructor
  · intro htags
    refine ⟨c.formula o, c.read_expression o htags ((c.bonusFits_iff o).mpr hfit), ?_⟩
    rw [Formula.min, Formula.max, range_formula]
    exact ⟨rfl, rfl⟩
  · intro htags
    exact c.read_expression_of_faults o fun h => htags h.1

/-- Two dice of type `cold-iron` and category `tier-2`, and the least flat value there is, on a
critical hit that doubles it. -/
theorem expression_range_least_flat :
    let type := DamageType.ofName ['C', 'o', 'l', 'd', ' ', 'I', 'r', 'o', 'n']
    let category := Category.ofName ['T', 'i', 'e', 'r', ' ', '2']
    let c : Component := ⟨⟨2, by decide⟩, some ⟨6, by decide, by decide⟩,
      ⟨-2147483648, by decide, by decide⟩, type, category, false⟩
    let o : HitOptions := ⟨true, true, .allStatic⟩
    c.criticalBonus o < Width.signed64 ∧ c.TagsLex ∧
      ∃ f, Formula.read (c.expression o) = .ok f ∧ f.min = 2 + 12 - 4294967296 ∧
        f.max = 12 + 12 - 4294967296 := by
  intro type category c o
  have hfit : c.criticalBonus o < Width.signed64 := by decide +kernel
  have htags : c.TagsLex := by decide +kernel
  obtain ⟨f, hread, hmin, hmax⟩ := (c.expression_range o hfit).1 htags
  exact ⟨hfit, htags, f, hread, hmin.trans (by decide +kernel), hmax.trans (by decide +kernel)⟩

/-- An expression is read back just when both of its tags can be scanned and the maximum of the
dice fits where it is added. -/
theorem expression_read_iff :
    (∃ f, Formula.read (c.expression o) = .ok f) ↔
      c.TagsLex ∧ c.criticalBonus o < Width.signed64 := by
  rw [← bonusFits_iff]
  constructor
  · rintro ⟨f, hf⟩
    by_contra h
    obtain ⟨e, he⟩ := c.read_expression_of_faults o h
    rw [hf] at he
    cases he
  · rintro ⟨htags, hfit⟩
    exact ⟨_, c.read_expression o htags hfit⟩

/-- Not every name of a host gives a tag that can be scanned: `Tier 2.5` gives `tier-2.5`, where the
point after the digit is in no lexeme. -/
theorem exists_name_not_read :
    ¬∀ (count : Count) (die : Option Die) (flat : Amount) (type category : List Char)
      (criticalOnly : Bool) (o : HitOptions),
      let c : Component :=
        ⟨count, die, flat, DamageType.ofName type, Category.ofName category, criticalOnly⟩
      c.maxDice < Width.signed64 → ∃ f, Formula.read (c.expression o) = .ok f := by
  intro h
  let c : Component := ⟨1, some ⟨6, by decide, by decide⟩, 0,
    DamageType.ofName ['T', 'i', 'e', 'r', ' ', '2', '.', '5'], Category.ofName [], false⟩
  have htags : ¬c.TagsLex := by decide +kernel
  obtain ⟨f, hf⟩ := h 1 (some ⟨6, by decide, by decide⟩) 0
    ['T', 'i', 'e', 'r', ' ', '2', '.', '5'] [] false default (by decide +kernel)
  obtain ⟨e, he⟩ := c.read_expression_of_faults default fun h => htags h.1
  exact absurd (hf.symm.trans he) nofun

end CriticalDamage.Component
