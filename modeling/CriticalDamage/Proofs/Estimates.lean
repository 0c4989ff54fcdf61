import CriticalDamage.Proofs.SessionHistory
import CriticalDamage.Proofs.WeaponTypes
import CriticalDamage.Session.Resolution

/-!
# Estimates and the damage of items

An estimate starts from the same description as the damage of an item's own fields and brings it
into canonical form in the same way, since an added strength modifier is active
(`Structure.canonical_append_modifiers`). So an item has an estimate just when its fields are flat
and give base dice, and the estimate is that damage and the modifier (`estimate_eq_ok_iff`). Of a
weapon with base dice this leaves one component, to which the bonuses and the strength belong, and
the dice of its traits, which are rolled on a critical hit only: its assembly is one part of a known
range and, on a critical hit, these dice (`assemble_estimate`).
-/

namespace CriticalDamage

/-! ## Strength -/

/-- The strength that an item adds in the hands of an actor; none without an actor. -/
def ownerStrength (item : Item) (actor : Option Actor) : Amount :=
  match actor with
  | some a => strengthBonus item a
  | none => 0

/-- The modifier of the strength, if there is any. -/
def strengthModifiers (item : Item) (actor : Option Actor) : List Modifier :=
  if 0 < (ownerStrength item actor).val then
    [⟨"strength", ownerStrength item actor, .plain, none, true, false, false⟩]
  else []

theorem strengthBonus_mem_range (item : Item) (a : Actor) :
    0 ≤ (strengthBonus item a).val ∧
      (strengthBonus item a).val ≤ max 0 (a.modifier .strength).val := by
  have hzero : (0 : Int) ≤ (0 : Amount).val ∧
      (0 : Amount).val ≤ max 0 (a.modifier .strength).val := ⟨Int.le_refl 0, Int.le_max_left ..⟩
  simp only [strengthBonus]
  split
  · exact hzero
  · next h =>
    have hpos : 0 < (a.modifier .strength).val := by
      simp only [Bool.or_eq_true, decide_eq_true_eq, not_or] at h
      omega
    split
    · exact ⟨Int.le_of_lt hpos, Int.le_max_right ..⟩
    · split
      · simp only [Amount.saturate]
        omega
      · exact hzero

theorem ownerStrength_nonneg (item : Item) (actor : Option Actor) :
    0 ≤ (ownerStrength item actor).val := by
  cases actor with
  | none => exact Int.le_refl 0
  | some a => exact (strengthBonus_mem_range item a).1

theorem mem_strengthModifiers {item : Item} {actor : Option Actor} {m : Modifier}
    (h : m ∈ strengthModifiers item actor) :
    m.isActive = true ∧ m.criticalOnly = false ∧ m.category = .plain ∧ m.type = none := by
  rw [strengthModifiers] at h
  split at h
  · rw [List.mem_singleton.mp h]
    exact ⟨rfl, rfl, rfl, rfl⟩
  · cases h

/-! ## Canonical form -/

theorem Structure.canonical_append_modifiers (s : Structure) {ms : List Modifier}
    (h : ∀ m ∈ ms, m.isActive = true) :
    { s with modifiers := s.modifiers ++ ms }.canonical =
      { s.canonical with modifiers := s.canonical.modifiers ++ ms } := by
  rw [canonical, canonical, List.filter_append, List.filter_eq_self.mpr h]

/-- The estimate of a flat description with base dice is its canonical form and the strength. -/
theorem estimate_of_structure? {item : Item} {place : Place} {found : Structure}
    (hshape : item.system.shape? = some ⟨.flat, place⟩)
    (hfound : WeaponDice.structure? (item.system.at place) item.system = some found)
    (hdice : found.hasBaseDice = true) (actor : Option Actor) :
    estimate item actor = .ok { found.canonical with
      modifiers := found.canonical.modifiers ++ strengthModifiers item actor } := by
  rw [← found.canonical_append_modifiers fun m hm => (mem_strengthModifiers hm).1]
  simp only [estimate, hshape, hfound, hdice, if_true]
  rfl

theorem exists_structure?_of_estimate {item : Item} {actor : Option Actor} {s : Structure}
    (h : estimate item actor = .ok s) :
    ∃ place found, item.system.shape? = some ⟨.flat, place⟩ ∧
      WeaponDice.structure? (item.system.at place) item.system = some found ∧
      found.hasBaseDice = true := by
  unfold estimate at h
  split at h
  · next place hshape =>
    split at h
    · cases h
    · next found hfound =>
      split at h
      · next hdice => exact ⟨place, found, hshape, hfound, hdice⟩
      · cases h
  · cases h

theorem Document.damage_of_structure? {d : Document} {place : Place} {found : Structure}
    (hshape : d.shape? = some ⟨.flat, place⟩)
    (hfound : WeaponDice.structure? (d.at place) d = some found)
    (hdice : found.hasBaseDice = true) : d.damage = .ok found.canonical := by
  refine damage_eq_ok_iff.mpr ⟨_, found, hshape, ?_, ?_, rfl⟩
  · simp only [Shape.read, hfound]
  · exact Structure.isEmpty_eq_false_of_hasBaseDice (found.hasBaseDice_canonical.trans hdice)

/-! ## Estimates and item fields -/

theorem estimate_eq_ok_iff_exists_damage {item : Item} {actor : Option Actor} {s : Structure} :
    estimate item actor = .ok s ↔
      ∃ place found, item.system.shape? = some ⟨.flat, place⟩ ∧ item.system.damage = .ok found ∧
        found.hasBaseDice = true ∧
        s = { found with modifiers := found.modifiers ++ strengthModifiers item actor } := by
  constructor
  · intro h
    obtain ⟨place, found, hshape, hfound, hdice⟩ := exists_structure?_of_estimate h
    rw [estimate_of_structure? hshape hfound hdice] at h
    exact ⟨place, found.canonical, hshape, Document.damage_of_structure? hshape hfound hdice,
      found.hasBaseDice_canonical.trans hdice, (Except.ok.inj h).symm⟩
  · rintro ⟨place, s₀, hshape, hdamage, hdice, rfl⟩
    obtain ⟨found, hfound, rfl⟩ := exists_structure?_of_damage hshape hdamage
    rw [Structure.hasBaseDice_canonical] at hdice
    exact estimate_of_structure? hshape hfound hdice actor

/-- An item has an estimate just when its data is flat and the damage found in it has base dice. The
estimate is that damage with the strength, if there is any, as one more modifier at the end, so it
has all entries of the damage in the item's fields. The strength is never negative and never more
than the actor's. -/
theorem estimate_eq_ok_iff (item : Item) (actor : Option Actor) :
    (∀ s, estimate item actor = .ok s ↔
      ∃ place found, item.system.shape? = some ⟨.flat, place⟩ ∧ item.system.damage = .ok found ∧
        found.hasBaseDice = true ∧
        s = { found with modifiers := found.modifiers ++ strengthModifiers item actor }) ∧
    (∀ captures now s, Session.structureFrom captures now item actor .estimated = some s →
      ∃ found, Session.structureFrom captures now item actor .itemFields = some found ∧
        s.base = found.base ∧ found.modifiers <+: s.modifiers ∧ s.extraDice = found.extraDice) ∧
    ∀ a, 0 ≤ (strengthBonus item a).val ∧
      (strengthBonus item a).val ≤ max 0 (a.modifier .strength).val := by
  refine ⟨fun s => estimate_eq_ok_iff_exists_damage, fun captures now s hs => ?_,
    strengthBonus_mem_range item⟩
  obtain ⟨place, found, -, hdamage, -, rfl⟩ :=
    estimate_eq_ok_iff_exists_damage.mp ((Session.structureFrom_estimated_eq_some_iff ..).mp hs)
  exact ⟨found, (Session.structureFrom_itemFields_eq_some_iff ..).mpr hdamage, rfl,
    List.prefix_append _ _, rfl⟩

/-- An actor of strength 4. -/
def fighter : Actor := (Actor.new "Fighter").withAbility .strength (.saturate 4)

/-- The longsword in the hands of the fighter has its own damage and a strength of 4. -/
theorem estimate_eq_ok_iff_longsword :
    ∃ s, estimate longsword (some fighter) = .ok s ∧
      s = { longswordDamage with
        modifiers := longswordDamage.modifiers ++ [.new "strength" (.saturate 4)] } ∧
      ∃ found, Session.structureFrom (Session.begin .usual) 0 longsword (some fighter) .itemFields =
          some found ∧
        s.base = found.base ∧ found.modifiers <+: s.modifiers ∧ s.extraDice = found.extraDice := by
  obtain ⟨hok, htiers, -⟩ := estimate_eq_ok_iff longsword (some fighter)
  have hestimate := (hok _).mpr ⟨.damage, longswordDamage, by decide +kernel, by decide +kernel,
    by decide +kernel, rfl⟩
  exact ⟨_, hestimate, by decide +kernel, htiers (Session.begin .usual) 0 _
    ((Session.structureFrom_estimated_eq_some_iff ..).mpr hestimate)⟩

/-! ## Assemblies of one component -/

namespace Assembly

variable {s : Structure} {c : Component} {o : HitOptions}

/-- Extra dice of which all are critical-only apply just on a critical hit. -/
theorem appliedDice_of_criticalOnly
    (h : ∀ e ∈ s.extraDice, e.isActive = true ∧ e.criticalOnly = true) :
    appliedDice s o = if o.critical = true then s.extraDice else [] := by
  split
  · next ho =>
    refine List.filter_eq_self.mpr fun e he => ?_
    rw [(h e he).1, (h e he).2, applies_true, ho, Bool.and_self]
  · next ho =>
    refine List.filter_eq_nil_iff.mpr fun e he => ?_
    rw [(h e he).2, applies_true, Bool.and_eq_true]
    exact fun hand => ho hand.2

/-- A single component that takes all modifiers is the one part beside the extra dice. -/
theorem assemble_of_single (hbase : s.base = [c]) (hc : c.criticalOnly = false)
    (hmodifiers : ∀ m ∈ s.modifiers, m.isActive = true ∧ m.criticalOnly = false ∧ Belongs m c)
    (hdice : ∀ e ∈ s.extraDice, e.isActive = true ∧ e.criticalOnly = true) :
    s.assemble o = Portion.part o ⟨withFlat c (addAll c.flat s.modifiers), .base⟩ ::
      if o.critical = true then s.extraDice.map fun e => Portion.part o ⟨e.component, .extraDice⟩
      else [] := by
  have happlied : appliedBase s o = [c] := by
    rw [appliedBase, hbase, List.filter_cons_of_pos (by rw [hc, applies_false]), List.filter_nil]
  have hactive : appliedModifiers s o = s.modifiers :=
    List.filter_eq_self.mpr fun m hm => by
      rw [(hmodifiers m hm).1, (hmodifiers m hm).2.1, applies_false, Bool.and_self]
  have hown : s.modifiers.filter (fun m => Belongs m c) = s.modifiers :=
    List.filter_eq_self.mpr fun m hm => decide_eq_true (hmodifiers m hm).2.2
  have hothers : s.modifiers.filter (fun m => ¬Belongs m c) = [] :=
    List.filter_eq_nil_iff.mpr fun m hm => by simpa using (hmodifiers m hm).2.2
  have hplaced : placed s o = ⟨[withFlat c (addAll c.flat s.modifiers)], []⟩ := by
    rw [placed, hactive, happlied, foldl_place_cons, hown, hothers]
    rfl
  rw [Structure.assemble, portions, hplaced, appliedDice_of_criticalOnly hdice]
  split
  · simp [Function.comp_def]
  · rfl

end Assembly

open Assembly

/-! ## Weapons -/

namespace WeaponDice

/-- The dice of an item's traits that have a count. -/
def countedTraitDice (type : DamageType) (system : Document) : List ExtraDice :=
  (traitEntries type (traitsOf system)).filter fun e => 0 < e.component.count.val

end WeaponDice

theorem ExtraDice.isEmpty_repair_onCritical (label : String) (count : Count) (die : Die)
    (type : DamageType) :
    (onCritical label (.ofDice count die type)).repair.component.isEmpty =
      !decide (0 < count.val) := by
  have hrepair : (onCritical label (.ofDice count die type)).repair.component.isEmpty =
      (Component.ofDice count die type).isEmpty :=
    (onCritical label (.ofDice count die type)).component.isEmpty_repair
  rw [hrepair, Component.isEmpty, Component.rolledDie?, Component.ofDice]
  by_cases h : 0 < count.val <;> simp [h]

theorem ExtraDice.isProper_onCritical {count : Count} (h : 0 < count.val) (label : String)
    (die : Die) (type : DamageType) : (onCritical label (.ofDice count die type)).IsProper where
  active := ⟨rfl, rfl⟩
  criticalOnly_eq := rfl
  component := ⟨iff_of_true h rfl, .inl ⟨h, rfl⟩, fun die _ => die.two_le⟩

theorem canonical_extraDice_of_traits (base : List Component) (modifiers : List Modifier)
    (type : DamageType) (system : Document) :
    (Structure.canonical ⟨base, modifiers, traitEntries type (traitsOf system)⟩).extraDice =
      WeaponDice.countedTraitDice type system := by
  have hactive : (traitEntries type (traitsOf system)).filter ExtraDice.isActive =
      traitEntries type (traitsOf system) := List.filter_eq_self.mpr fun e he => by
    obtain ⟨token, count, die, rfl⟩ := exists_of_mem_traitEntries he
    rfl
  have hcounted : (traitEntries type (traitsOf system)).filter
      ((fun e => !e.component.isEmpty) ∘ ExtraDice.repair) =
      WeaponDice.countedTraitDice type system := List.filter_congr fun e he => by
    obtain ⟨token, count, die, rfl⟩ := exists_of_mem_traitEntries he
    rw [Function.comp_apply, ExtraDice.isEmpty_repair_onCritical, Bool.not_not]
    rfl
  simp only [Structure.canonical, hactive, List.filter_map, hcounted]
  refine (List.map_congr_left fun e he => ?_).trans (List.map_id _)
  obtain ⟨hmem, hcount⟩ := List.mem_filter.mp he
  obtain ⟨token, count, die, rfl⟩ := exists_of_mem_traitEntries hmem
  exact ExtraDice.repair_eq_self
    (ExtraDice.isProper_onCritical (of_decide_eq_true hcount) token die type)

/-! ## Ranges of plain dice -/

namespace Component

variable {count : Count} {die : Die} {type : DamageType} {o : HitOptions} (flat : Amount)

theorem criticalBonus_of_plain (hcount : 0 < count.val) :
    criticalBonus ⟨count, some die, flat, type, .plain, false⟩ o =
      if o.critical = true then (count.val * die.sides : Int) else 0 := by
  have hdice : RollsDice ⟨count, some die, flat, type, .plain, false⟩ := ⟨hcount, rfl⟩
  simp [criticalBonus, highestDice, hdice, sides]

theorem staticFactor_of_plain (hcount : 0 < count.val) :
    staticFactor ⟨count, some die, flat, type, .plain, false⟩ o =
      if o.critical = true ∧ o.doubleStatic = true ∧ o.scope = .allStatic then 2 else 1 := by
  have hdice : RollsDice ⟨count, some die, flat, type, .plain, false⟩ := ⟨hcount, rfl⟩
  simp [staticFactor, hdice]

/-- Plain dice and a flat value are read back with their range, to which a critical hit adds the
maximum of the dice. -/
theorem exists_read_of_plain (hcount : 0 < count.val) (htag : type.Lexes)
    (hfit : o.critical = true → count.val * die.sides < Width.signed64) :
    let bonus : Int := if o.critical = true then count.val * die.sides else 0
    let factor : Int :=
      if o.critical = true ∧ o.doubleStatic = true ∧ o.scope = .allStatic then 2 else 1
    ∃ f, Formula.read (expression ⟨count, some die, flat, type, .plain, false⟩ o) = .ok f ∧
      f.min = count.val + bonus + factor * flat.val ∧
      f.max = count.val * die.sides + bonus + factor * flat.val := by
  intro bonus factor
  let c : Component := ⟨count, some die, flat, type, .plain, false⟩
  have hdice : c.RollsDice := ⟨hcount, rfl⟩
  have hbonus : c.criticalBonus o = bonus := criticalBonus_of_plain flat hcount
  have hfactor : c.staticFactor o = factor := staticFactor_of_plain flat hcount
  have hbonusFits : c.BonusFits o := (c.bonusFits_iff o).mpr <| by
    rw [hbonus]
    by_cases ho : o.critical = true
    · simpa only [bonus, if_pos ho, ← Int.natCast_mul] using Int.ofNat_lt.mpr (hfit ho)
    · simp only [bonus, if_neg ho]
      decide
  have hcategory : c.category.Lexes := fun _ h => absurd h (Option.not_mem_none _)
  have hrange := c.range_formula o
  rw [hbonus, hfactor, lowestDice, highestDice, if_pos hdice, if_pos hdice] at hrange
  refine ⟨c.formula o, c.read_expression o ⟨htag, hcategory⟩ hbonusFits, ?_, ?_⟩
  · rw [Formula.min, hrange]
  · rw [Formula.max, hrange]
    rfl

end Component

namespace WeaponDice

variable {damage system : Document}

theorem structure?_of_diceCount_pos (hcount : 0 < (diceCount damage system).val) :
    structure? damage system = some ⟨[base damage system],
      [.new "modifier" (bonusTotal bonusPaths system)],
      traitEntries (type damage) (traitsOf system)⟩ :=
  if_neg fun h => Nat.ne_of_gt hcount h.1

/-- Canonical form keeps the base component of a weapon if it has dice, and its traits' dice if they
have a count. -/
theorem canonical_of_structure? {found : Structure} (h : structure? damage system = some found) :
    found.canonical =
      ⟨if (diceCount damage system).val = 0 then [] else [base damage system],
        [.new "modifier" (bonusTotal bonusPaths system)],
        countedTraitDice (type damage) system⟩ := by
  have hbase := canonical_base_of_structure? h
  obtain ⟨-, rfl⟩ := eq_of_structure? h
  have htraits := canonical_extraDice_of_traits [base damage system]
    [.new "modifier" (bonusTotal bonusPaths system)] (type damage) system
  rw [← hbase, ← htraits]
  rfl

theorem canonical_of_diceCount_pos {found : Structure} (h : structure? damage system = some found)
    (hcount : 0 < (diceCount damage system).val) :
    found.canonical = ⟨[base damage system], [.new "modifier" (bonusTotal bonusPaths system)],
      countedTraitDice (type damage) system⟩ := by
  rw [canonical_of_structure? h, if_neg (Nat.ne_of_gt hcount)]

theorem hasBaseDice_of_diceCount_pos {found : Structure}
    (h : structure? damage system = some found) (hcount : 0 < (diceCount damage system).val) :
    found.hasBaseDice = true := by
  obtain ⟨-, rfl⟩ := eq_of_structure? h
  obtain ⟨die, hdie⟩ := base_of_diceCount_pos hcount
  simp [Structure.hasBaseDice, hdie, Component.rolledDie?, Component.ofDice, hcount]

theorem base_of_die? {die : Die} (hdie : die? (damage.field "die") = some die)
    (hcount : 0 < (diceCount damage system).val) :
    base damage system = .ofDice (diceCount damage system) die (type damage) := by
  rw [base, hdie]
  exact if_neg (Nat.ne_of_gt hcount)

theorem criticalOnly_of_mem_countedTraitDice {type : DamageType} {e : ExtraDice}
    (h : e ∈ countedTraitDice type system) : e.isActive = true ∧ e.criticalOnly = true := by
  obtain ⟨token, count, die, rfl⟩ := exists_of_mem_traitEntries (List.mem_filter.mp h).1
  exact ⟨rfl, rfl⟩

end WeaponDice

open WeaponDice

/-- The estimate of a weapon with base dice: these dice, the bonuses and the strength, and the
counted dice of its traits. -/
theorem estimate_of_die? {item : Item} {place : Place} {die : Die}
    (hshape : item.system.shape? = some ⟨.flat, place⟩)
    (hdie : die? ((item.system.at place).field "die") = some die)
    (hcount : 0 < (diceCount (item.system.at place) item.system).val) (actor : Option Actor) :
    estimate item actor = .ok
      ⟨[.ofDice (diceCount (item.system.at place) item.system) die (type (item.system.at place))],
        .new "modifier" (bonusTotal bonusPaths item.system) :: strengthModifiers item actor,
        countedTraitDice (type (item.system.at place)) item.system⟩ := by
  have hfound := structure?_of_diceCount_pos hcount
  have hbase := base_of_die? hdie hcount
  rw [estimate_of_structure? hshape hfound (hasBaseDice_of_diceCount_pos hfound hcount),
    canonical_of_diceCount_pos hfound hcount, hbase]
  rfl

/-- The bonuses of an item and the strength, added to no flat value. -/
theorem val_addAll_strength (bonus : Amount) (item : Item) (actor : Option Actor) :
    (addAll 0 (.new "modifier" bonus :: strengthModifiers item actor)).val =
      min 2147483647 (bonus.val + (ownerStrength item actor).val) := by
  have hstrength := ownerStrength_nonneg item actor
  have hlow := bonus.le
  have hhigh := bonus.lt
  rw [strengthModifiers]
  split
  · change ((Amount.add 0 bonus).add (ownerStrength item actor)).val = _
    rw [Amount.zero_add]
    simp only [Amount.add, Amount.saturate]
    omega
  · change (Amount.add 0 bonus).val = _
    rw [Amount.zero_add]
    omega

/-- A weapon with base dice has an estimate in the hands of every actor. Its assembly is one part,
of the weapon's type and of no category, and on a critical hit the counted dice of its traits. The
part has the range of the dice, moved by their maximum on a critical hit and by the bonuses and the
strength, which are doubled on a critical hit that doubles all flat values. The sum of the bonuses
is exact, as it is where it fits (`Document.BonusesFit`). -/
theorem assemble_estimate {item : Item} {place : Place} {die : Die}
    (hshape : item.system.shape? = some ⟨.flat, place⟩)
    (hdie : die? ((item.system.at place).field "die") = some die)
    (hcount : 0 < (diceCount (item.system.at place) item.system).val)
    (htag : (type (item.system.at place)).Lexes) (actor : Option Actor) (o : HitOptions)
    (hfit : o.critical = true →
      (diceCount (item.system.at place) item.system).val * die.sides < Width.signed64) :
    let damage := item.system.at place
    let count : Int := (diceCount damage item.system).val
    let bonus : Int := if o.critical = true then count * die.sides else 0
    let flat : Int :=
      min 2147483647 ((bonusTotal bonusPaths item.system).val + (ownerStrength item actor).val)
    let factor : Int :=
      if o.critical = true ∧ o.doubleStatic = true ∧ o.scope = .allStatic then 2 else 1
    ∃ s expression f, estimate item actor = .ok s ∧
      s.assemble o = ⟨expression, type damage, .plain, .base⟩ ::
        (if o.critical = true then (countedTraitDice (type damage) item.system).map fun e =>
          Portion.part o ⟨e.component, .extraDice⟩
        else []) ∧
      Formula.read expression = .ok f ∧
      f.min = count + bonus + factor * flat ∧
      f.max = count * die.sides + bonus + factor * flat := by
  intro damage count bonus flat factor
  let modifiers := Modifier.new "modifier" (bonusTotal bonusPaths item.system) ::
    strengthModifiers item actor
  let c : Component := .ofDice (diceCount damage item.system) die (type damage)
  let s : Structure := ⟨[c], modifiers, countedTraitDice (type damage) item.system⟩
  have hestimate : estimate item actor = .ok s := estimate_of_die? hshape hdie hcount actor
  have hmodifiers : ∀ m ∈ modifiers, m.isActive = true ∧ m.criticalOnly = false ∧ Belongs m c := by
    refine List.forall_mem_cons.mpr ⟨⟨rfl, rfl, rfl, rfl, .inl rfl⟩, fun m hm => ?_⟩
    obtain ⟨hactive, happlies, hplain, htype⟩ := mem_strengthModifiers hm
    exact ⟨hactive, happlies, hplain, rfl, .inl htype⟩
  have hassemble := assemble_of_single (s := s) (o := o) rfl rfl hmodifiers
    fun e he => criticalOnly_of_mem_countedTraitDice he
  have hflat : (addAll 0 modifiers).val = flat := val_addAll_strength _ item actor
  obtain ⟨f, hread, hmin, hmax⟩ :=
    Component.exists_read_of_plain (addAll 0 modifiers) hcount htag hfit
  rw [hflat] at hmin hmax
  exact ⟨s, _, f, hestimate, hassemble, hread, hmin, hmax⟩

/-- A striking rapier with a bonus of 3, of whose two deadly traits one has no dice. -/
def rapier : Item where
  id := "rapier"
  name := "Rapier"
  kind := .weapon
  system := .record [
    ("damage", .record [("dice", .whole 1), ("die", .text "d6"), ("damageType", .text "piercing")]),
    ("runes", .record [("striking", .whole 1)]),
    ("bonus", .whole 3),
    ("traits", .list [.text "deadly-d8", .text "deadly-0d12"])]

/-- In the hands of the fighter it deals piercing damage of `2d6+12+14` on a critical hit that
doubles all flat values, and its deadly die. -/
theorem assemble_estimate_rapier :
    let d6 : Die := ⟨6, by decide, by decide⟩
    let o : HitOptions := ⟨true, true, .allStatic⟩
    let piercing := DamageType.ofName ['p', 'i', 'e', 'r', 'c', 'i', 'n', 'g']
    rapier.system.shape? = some ⟨.flat, .damage⟩ ∧
    die? ((rapier.system.at .damage).field "die") = some d6 ∧
    (diceCount (rapier.system.at .damage) rapier.system).val = 2 ∧
    (type (rapier.system.at .damage) = piercing ∧ piercing.Lexes) ∧
    ∃ s expression f, estimate rapier (some fighter) = .ok s ∧ (s.assemble o).length = 2 ∧
      (s.assemble o).head? = some ⟨expression, piercing, .plain, .base⟩ ∧
      Formula.read expression = .ok f ∧ f.min = 28 ∧ f.max = 38 := by
  intro d6 o piercing
  have hshape : rapier.system.shape? = some ⟨.flat, .damage⟩ := by decide +kernel
  have hdie : die? ((rapier.system.at .damage).field "die") = some d6 := by decide +kernel
  have hcount : (diceCount (rapier.system.at .damage) rapier.system).val = 2 := by decide +kernel
  have htype : type (rapier.system.at .damage) = piercing := by decide +kernel
  have htag : piercing.Lexes := by decide +kernel
  obtain ⟨s, expression, f, hestimate, hassemble, hread, hmin, hmax⟩ :=
    assemble_estimate hshape hdie (hcount ▸ Nat.zero_lt_two) (htype ▸ htag) (some fighter) o
      (fun _ => by decide +kernel)
  refine ⟨hshape, hdie, hcount, ⟨htype, htag⟩, s, expression, f, hestimate, ?_, ?_, hread, ?_, ?_⟩
  · rw [hassemble, List.length_cons]
    decide +kernel
  · rw [hassemble, List.head?_cons, htype]
  · rw [hmin]
    decide +kernel
  · rw [hmax]
    decide +kernel

end CriticalDamage
