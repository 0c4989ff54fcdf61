import CriticalDamage.HostDamage.Normal
import CriticalDamage.Proofs.CanonicalForm
import CriticalDamage.Proofs.Conservation
import Mathlib

/-!
# Damage of instances

A record of damage instances is carried through without loss. What one instance deals is stated on
its expression alone (`Instances.range`): the counts of its dice and its flat value at least, the
maxima of its dice and its flat value at most, and one to four where the expression is no sum. Its
components deal just that on a normal hit (`componentsDamage_ofEntry`), and they are in canonical
form as they are (`isCanonical_toStructure`), so nothing is lost between the record and the
assembly (`damage_of_instances`).
-/

namespace CriticalDamage

namespace Dice.Additive

/-- What a sum deals, its dice counted by `side`. -/
def total (side : Count × Die → Int) (a : Additive) : Int := (a.dice.map side).sum + a.flat.val

/-- The least and the greatest total of a sum. -/
def range (a : Additive) : Range :=
  ⟨a.total fun p => p.1.val, a.total fun p => p.1.val * p.2.sides⟩

/-- Dice without a count are no part of a sum. -/
theorem count_pos_of_readTerms {sign : Option Bool} {flat : Amount} {ts : List Token}
    {a : Additive} (h : readTerms sign flat ts = .ok a) : ∀ p ∈ a.dice, 0 < p.1.val := by
  fun_induction readTerms sign flat ts generalizing a with
  | case1 | case8 | case9 | case10 | case12 | case13 => cases h
  | case2 =>
    cases h
    exact nofun
  | case3 _ _ ih | case4 _ _ ih => exact ih h
  | case5 _ _ _ ih | case6 _ _ _ ih => exact ih h
  | case7 _ _ _ _ _ _ ih => exact ih h
  | case11 _ _ count sides die _ rest hrest ih =>
    cases h
    intro p hp
    split at hp
    · exact ih hrest p hp
    · next hcount =>
      rcases List.mem_cons.mp hp with rfl | hp
      · exact Nat.pos_of_ne_zero hcount
      · exact ih hrest p hp

theorem count_pos_of_read {expression : String} {a : Additive} (h : read expression = .ok a) :
    ∀ p ∈ a.dice, 0 < p.1.val := by
  rw [read] at h
  split at h
  · next hchars =>
    cases h
    rw [readChars] at hchars
    split at hchars
    · cases hchars
    · cases hchars
    · exact count_pos_of_readTerms hchars
  · cases h

end Dice.Additive

namespace Instances

open Dice (Additive)

/-- What an instance deals: the range of its sum, and that of one four-sided die if its expression
is no sum. -/
def range (entry : Document) : Range :=
  match entry.expression? with
  | some expression =>
    match Additive.read expression with
    | .ok a => a.range
    | .error _ => ⟨1, 4⟩
  | none => .point 0

/-- The expression of an instance is a sum of no dice and of total zero. -/
def AddsNothing (entry : Document) : Prop :=
  ∃ expression a, entry.expression? = some expression ∧ Additive.read expression = .ok a ∧
    a.dice = [] ∧ a.flat = 0

/-! ## Components of an instance -/

theorem count_pos_of_parts (expression : String) :
    ∀ p ∈ (parts expression).dice, 0 < p.1.val := by
  rw [parts]
  split
  · next h => exact Additive.count_pos_of_read h
  · exact List.forall_mem_singleton.mpr Nat.zero_lt_one

theorem components_of_nil {a : Additive} (h : a.dice = []) (type : DamageType)
    (category : Category) :
    components type category a =
      if a.flat = 0 then [] else [⟨0, none, a.flat, type, category, false⟩] := by
  rw [components, h]
  rfl

theorem components_of_cons {a : Additive} {count : Count} {die : Die} {rest : List (Count × Die)}
    (h : a.dice = (count, die) :: rest) (type : DamageType) (category : Category) :
    components type category a =
      ⟨count, some die, a.flat, type, category, false⟩ ::
        rest.map fun p => ⟨p.1, some p.2, 0, type, category, false⟩ := by
  rw [components, h]
  rfl

theorem components_eq_nil_iff {type : DamageType} {category : Category} {a : Additive} :
    components type category a = [] ↔ a.dice = [] ∧ a.flat = 0 := by
  cases h : a.dice with
  | nil => simp [components_of_nil h]
  | cons p rest => simp [components_of_cons h]

theorem ofEntry_eq_nil_iff {entry : Document} (h : entry.expression?.isSome = true) :
    ofEntry entry = [] ↔ AddsNothing entry := by
  obtain ⟨expression, hexpression⟩ := Option.isSome_iff_exists.mp h
  rw [ofEntry, hexpression]
  dsimp only
  rw [components_eq_nil_iff, parts]
  constructor
  · rintro ⟨hdice, hflat⟩
    split at hdice
    · next a ha =>
      rw [ha] at hflat
      exact ⟨expression, a, hexpression, ha, hdice, hflat⟩
    · cases hdice
  · rintro ⟨expression', a, hexpression', ha, hdice, hflat⟩
    cases hexpression.symm.trans hexpression'
    rw [ha]
    exact ⟨hdice, hflat⟩

theorem isProper_of_die {c : Component} {die : Die} (hcount : 0 < c.count.val)
    (hdie : c.die = some die) : c.IsProper where
  count_pos_iff := iff_of_true hcount (by rw [hdie]; rfl)
  contributes := .inl ⟨hcount, by rw [hdie]; rfl⟩
  two_le_sides d _ := d.two_le

/-- What holds of the components of a sum: they are proper, they are dealt on every hit, and they
have the type and the category of the instance. -/
structure IsPart (type : DamageType) (category : Category) (c : Component) : Prop where
  proper : c.IsProper
  pair : (c.type, c.category) = (type, category)
  always : c.criticalOnly = false

theorem isPart_of_mem_components {type : DamageType} {category : Category} {a : Additive}
    (ha : ∀ p ∈ a.dice, 0 < p.1.val) {c : Component} (hc : c ∈ components type category a) :
    IsPart type category c := by
  cases h : a.dice with
  | nil =>
    rw [components_of_nil h] at hc
    split at hc
    · cases hc
    · next hflat =>
      rw [List.mem_singleton.mp hc]
      refine ⟨⟨iff_of_false (Nat.lt_irrefl 0) nofun, .inr ?_, nofun⟩, rfl, rfl⟩
      exact fun hval => hflat (Amount.ext hval)
  | cons p rest =>
    rw [h] at ha
    rw [components_of_cons h] at hc
    rcases List.mem_cons.mp hc with rfl | hc
    · exact ⟨isProper_of_die (ha p List.mem_cons_self) rfl, rfl, rfl⟩
    · obtain ⟨q, hq, rfl⟩ := List.mem_map.mp hc
      exact ⟨isProper_of_die (ha q (.tail p hq)) rfl, rfl, rfl⟩

theorem isPart_of_mem_ofEntry {entry : Document} {c : Component} (hc : c ∈ ofEntry entry) :
    IsPart (type entry) (category entry) c := by
  rw [ofEntry] at hc
  split at hc
  · next expression _ => exact isPart_of_mem_components (count_pos_of_parts expression) hc
  · cases hc

/-! ## What components deal on a normal hit -/

open Assembly Component

/-- The count of a component's dice is that of the dice of a sum. -/
structure CountsAs (dice : Component → Int) (side : Count × Die → Int) : Prop where
  of_die : ∀ (c : Component) (die : Die), 0 < c.count.val → c.die = some die →
    dice c = side (c.count, die)
  of_not_rollsDice : ∀ c : Component, ¬c.RollsDice → dice c = 0

theorem countsAs_lowestDice : CountsAs lowestDice fun p => p.1.val where
  of_die c die hcount hdie := if_pos ⟨hcount, by rw [hdie]; rfl⟩
  of_not_rollsDice _ h := if_neg h

theorem countsAs_highestDice : CountsAs highestDice fun p => p.1.val * p.2.sides where
  of_die c die hcount hdie := by
    rw [highestDice, if_pos ⟨hcount, by rw [hdie]; rfl⟩, sides, hdie]
  of_not_rollsDice _ h := if_neg h

variable {dice : Component → Int} {side : Count × Die → Int} {o : HitOptions}

theorem componentDamage_of_not_critical (ho : o.critical = false) (c : Component) :
    componentDamage dice o c = dice c + c.flat.val := by
  have hcritical : o.critical ≠ true := ho ▸ Bool.false_ne_true
  have hbonus : c.criticalBonus o = 0 := if_neg fun h => hcritical h.2.1
  have hfactor : c.staticFactor o = 1 := if_neg fun h => hcritical h.1
  rw [componentDamage, hbonus, hfactor, Int.add_zero, Int.one_mul]

theorem sum_components (hcounts : CountsAs dice side) (ho : o.critical = false)
    {type : DamageType} {category : Category} {a : Additive} (ha : ∀ p ∈ a.dice, 0 < p.1.val) :
    ((components type category a).map (componentDamage dice o)).sum = a.total side := by
  rw [List.map_congr_left fun c _ => componentDamage_of_not_critical ho c, Additive.total]
  -- The flat value is that of the first dice, or of a component without dice if there are none.
  cases h : a.dice with
  | nil =>
    rw [components_of_nil h]
    split
    · next hflat =>
      rw [hflat]
      rfl
    · have hnone := hcounts.of_not_rollsDice ⟨0, none, a.flat, type, category, false⟩
        fun hroll => Nat.lt_irrefl 0 hroll.1
      simp [hnone]
  | cons p rest =>
    rw [h] at ha
    have hfirst := hcounts.of_die ⟨p.1, some p.2, a.flat, type, category, false⟩ p.2
      (ha p List.mem_cons_self) rfl
    have hrest : ∀ q ∈ rest, dice ⟨q.1, some q.2, 0, type, category, false⟩ + 0 = side q := by
      intro q hq
      rw [Int.add_zero]
      exact hcounts.of_die _ q.2 (ha q (.tail p hq)) rfl
    rw [components_of_cons h, List.map_cons, List.sum_cons, hfirst, List.map_map, List.map_cons,
      List.sum_cons, ← List.map_congr_left hrest]
    exact Int.add_right_comm _ _ _

/-- What an instance deals, its dice counted by `side`. -/
def dealt (side : Count × Die → Int) (entry : Document) : Int :=
  match entry.expression? with
  | some expression => (parts expression).total side
  | none => 0

theorem range_eq (entry : Document) :
    range entry = ⟨dealt (fun p => p.1.val) entry, dealt (fun p => p.1.val * p.2.sides) entry⟩ := by
  rw [range, dealt, dealt]
  cases entry.expression? with
  | none => rfl
  | some expression =>
    dsimp only
    rw [parts]
    cases Additive.read expression <;> rfl

/-- The components of an instance deal what the instance does. -/
theorem componentsDamage_ofEntry (hcounts : CountsAs dice side) (ho : o.critical = false)
    (pair : DamageType × Category) (entry : Document) :
    componentsDamage dice o pair (ofEntry entry) =
      if (type entry, category entry) = pair then dealt side entry else 0 := by
  have hpair : ∀ c ∈ ofEntry entry, (c.type, c.category) = (type entry, category entry) :=
    fun c hc => (isPart_of_mem_ofEntry hc).pair
  have hsum : ((ofEntry entry).map (componentDamage dice o)).sum = dealt side entry := by
    rw [ofEntry, dealt]
    cases entry.expression? with
    | none => rfl
    | some expression => exact sum_components hcounts ho (count_pos_of_parts expression)
  -- The components of one instance are of one type and category: all of them count, or none does.
  rw [componentsDamage]
  split
  · next h =>
    rw [List.filter_eq_self.mpr fun c hc => by simp [hpair c hc, h], hsum]
  · next h =>
    rw [List.filter_eq_nil_iff.mpr fun c hc => by simp [hpair c hc, h]]
    rfl

theorem componentsDamage_flatMap (hcounts : CountsAs dice side) (ho : o.critical = false)
    (pair : DamageType × Category) (fields : List (String × Document)) :
    componentsDamage dice o pair (fields.flatMap fun f => ofEntry f.2) =
      ((fields.filter fun f => (type f.2, category f.2) = pair).map fun f =>
        dealt side f.2).sum := by
  induction fields with
  | nil => rfl
  | cons f fields ih =>
    rw [List.flatMap_cons, componentsDamage_append, ih, componentsDamage_ofEntry hcounts ho]
    by_cases h : (type f.2, category f.2) = pair <;> simp [h]

/-! ## The structure of a record -/

variable {fields : List (String × Document)}

theorem toStructure_record (fields : List (String × Document)) :
    toStructure (.record fields) = ⟨(sorted fields).flatMap fun f => ofEntry f.2, [], []⟩ := rfl

theorem sorted_perm (fields : List (String × Document)) : (sorted fields).Perm fields :=
  List.mergeSort_perm _ _

theorem exists_isPart_of_mem_base {c : Component}
    (hc : c ∈ (toStructure (.record fields)).base) :
    ∃ f ∈ fields, IsPart (type f.2) (category f.2) c := by
  obtain ⟨f, hf, hcf⟩ := List.mem_flatMap.mp hc
  exact ⟨f, (sorted_perm fields).mem_iff.mp hf, isPart_of_mem_ofEntry hcf⟩

theorem isCanonical_toStructure (fields : List (String × Document)) :
    (toStructure (.record fields)).IsCanonical where
  base c hc := by
    obtain ⟨f, -, hpart⟩ := exists_isPart_of_mem_base hc
    exact hpart.proper
  modifiers m hm := by
    rw [toStructure_record] at hm
    cases hm
  extraDice e he := by
    rw [toStructure_record] at he
    cases he

/-- Nothing is left of a record just when no instance adds anything. -/
theorem isEmpty_toStructure_iff (h : ∀ f ∈ fields, f.2.expression?.isSome = true) :
    (toStructure (.record fields)).isEmpty = true ↔ ∀ f ∈ fields, AddsNothing f.2 := by
  rw [toStructure_record, Structure.isEmpty, Bool.and_eq_true, Bool.and_eq_true]
  simp only [List.isEmpty_iff, List.flatMap_eq_nil_iff, and_true, (sorted_perm fields).mem_iff]
  exact forall₂_congr fun f hf => ofEntry_eq_nil_iff (h f hf)

theorem assemble_toStructure (fields : List (String × Document)) (o : HitOptions) :
    (toStructure (.record fields)).assemble o =
      (toStructure (.record fields)).base.map fun c => Portion.part o ⟨c, .base⟩ := by
  have hbase : appliedBase (toStructure (.record fields)) o =
      (toStructure (.record fields)).base := by
    refine List.filter_eq_self.mpr fun c hc => ?_
    obtain ⟨f, -, hpart⟩ := exists_isPart_of_mem_base hc
    rw [applies, hpart.always]
    rfl
  rw [Structure.assemble, portions, placed, hbase]
  simp [appliedModifiers, appliedDice, toStructure_record]

/-- The parts of one type and category are read back and deal what their components do. -/
theorem exists_formulas_of_toStructure (ho : o.critical = false) {type : DamageType}
    {category : Category}
    (hlex : ∀ f ∈ fields, (Instances.type f.2, Instances.category f.2) = (type, category) →
      type.Lexes ∧ category.Lexes) :
    ∃ formulas,
      List.Forall₂ (fun (p : Part) f => Formula.read p.expression = .ok f)
        (((toStructure (.record fields)).assemble o).filter fun p =>
          (p.type, p.category) = (type, category)) formulas ∧
      (formulas.map Formula.min).sum =
        componentsDamage lowestDice o (type, category) (toStructure (.record fields)).base ∧
      (formulas.map Formula.max).sum =
        componentsDamage highestDice o (type, category) (toStructure (.record fields)).base := by
  refine ⟨((toStructure (.record fields)).base.filter fun c =>
    (c.type, c.category) = (type, category)).map (·.formula o), ?_, ?_, ?_⟩
  · rw [assemble_toStructure, List.filter_map, List.forall₂_map_left_iff,
      List.forall₂_map_right_iff]
    refine List.forall₂_same.mpr fun c hc => ?_
    obtain ⟨hc, hpair⟩ := List.mem_filter.mp hc
    have hpair : (c.type, c.category) = (type, category) := of_decide_eq_true hpair
    obtain ⟨f, hf, hpart⟩ := exists_isPart_of_mem_base hc
    obtain ⟨htype, hcategory⟩ := hlex f hf (hpart.pair.symm.trans hpair)
    obtain ⟨hctype, hccategory⟩ := Prod.mk.inj hpair
    refine c.read_expression o ⟨hctype ▸ htype, hccategory ▸ hcategory⟩ fun _ hbonus => ?_
    rw [takesBonus, scalesOn, ho] at hbonus
    cases hbonus
  · rw [componentsDamage, List.map_map]
    exact congrArg _ (List.map_congr_left fun c _ => congrArg Range.low (c.range_formula o))
  · rw [componentsDamage, List.map_map]
    exact congrArg _ (List.map_congr_left fun c _ => congrArg Range.high (c.range_formula o))

theorem componentsDamage_toStructure (hcounts : CountsAs dice side) (ho : o.critical = false)
    (pair : DamageType × Category) (fields : List (String × Document)) :
    componentsDamage dice o pair (toStructure (.record fields)).base =
      ((fields.filter fun f => (type f.2, category f.2) = pair).map fun f =>
        dealt side f.2).sum := by
  rw [toStructure_record, componentsDamage_flatMap hcounts ho]
  exact (((sorted_perm fields).filter _).map _).sum_eq

end Instances

open Instances

theorem exists_fields_of_hasShape {d : Document} {place : Place}
    (hshape : d.hasShape ⟨.keyed, place⟩ = true) :
    ∃ fields, d.at place = .record fields ∧
      ∀ f ∈ fields, f.2.expression?.isSome = true := by
  have hkeyed : (d.at place).isKeyed = true := hshape
  unfold Document.isKeyed at hkeyed
  split at hkeyed
  · next fields hfields =>
    exact ⟨fields, hfields, List.all_eq_true.mp (Bool.and_eq_true_iff.mp hkeyed).2⟩
  · cases hkeyed

theorem exists_fields_of_shape? {d : Document} {place : Place}
    (hshape : d.shape? = some ⟨.keyed, place⟩) :
    ∃ fields, d.at place = .record fields ∧
      ∀ f ∈ fields, f.2.expression?.isSome = true :=
  exists_fields_of_hasShape (List.find?_some hshape)

theorem damage_of_shape? {d : Document} {place : Place} {fields : List (String × Document)}
    (hshape : d.shape? = some ⟨.keyed, place⟩) (hfields : d.at place = .record fields) :
    d.damage =
      if (toStructure (.record fields)).isEmpty then .error .noDamage
      else .ok (toStructure (.record fields)) := by
  simp only [Document.damage, hshape, Shape.read, hfields,
    Structure.canonical_eq_self (isCanonical_toStructure fields)]

/-- A record of instances gives no damage just when all of its expressions are sums of no dice and
of total zero. Otherwise every normal hit deals, for every type and category, what the instances of
that type and category deal together, if there are none or their tags can be scanned. -/
theorem damage_of_instances {d : Document} {place : Place}
    (hshape : d.shape? = some ⟨.keyed, place⟩) :
    ∃ fields, d.at place = .record fields ∧
      (d.damage = .error .noDamage ↔ ∀ f ∈ fields, AddsNothing f.2) ∧
      (¬(∀ f ∈ fields, AddsNothing f.2) → ∃ s, d.damage = .ok s ∧
        ∀ o : HitOptions, o.critical = false →
        ∀ (type : DamageType) (category : Category),
          (∀ f ∈ fields, (Instances.type f.2, Instances.category f.2) = (type, category) →
            type.Lexes ∧ category.Lexes) →
          ∃ formulas,
            List.Forall₂ (fun (p : Part) f => Formula.read p.expression = .ok f)
              ((s.assemble o).filter fun p => (p.type, p.category) = (type, category)) formulas ∧
            (formulas.map Formula.min).sum = ((fields.filter fun f =>
              (Instances.type f.2, Instances.category f.2) = (type, category)).map fun f =>
                (range f.2).low).sum ∧
            (formulas.map Formula.max).sum = ((fields.filter fun f =>
              (Instances.type f.2, Instances.category f.2) = (type, category)).map fun f =>
                (range f.2).high).sum) := by
  obtain ⟨fields, hfields, hexpressions⟩ := exists_fields_of_shape? hshape
  have hdamage := damage_of_shape? hshape hfields
  have hempty := isEmpty_toStructure_iff hexpressions
  refine ⟨fields, hfields, ?_, fun hadds => ?_⟩
  · rw [hdamage, ← hempty]
    split
    · next h => exact iff_of_true rfl h
    · next h => exact iff_of_false nofun h
  · rw [← hempty] at hadds
    refine ⟨toStructure (.record fields), hdamage.trans (if_neg hadds), ?_⟩
    intro o ho type category hlex
    obtain ⟨formulas, hread, hmin, hmax⟩ := exists_formulas_of_toStructure ho hlex
    simp only [range_eq]
    exact ⟨formulas, hread, hmin.trans (componentsDamage_toStructure countsAs_lowestDice ho _ _),
      hmax.trans (componentsDamage_toStructure countsAs_highestDice ho _ _)⟩

/-- A spell of two fire instances, one of which is no sum and counts as one four-sided die, and of
persistent fire: its plain fire damage is six to nineteen. -/
theorem damage_of_instances_fireball :
    let instances : List (String × Document) :=
      [("0", .record [("formula", .text "2d6+3"), ("type", .text "fire")]),
        ("1", .record [("formula", .text "(1d6)*2"), ("type", .text "fire")]),
        ("2", .record [("value", .text "1d4-1"),
          ("type", .record [("value", .text "fire"), ("subtype", .text "persistent")])])]
    let d : Document := .record [("damage", .record instances)]
    let fire := DamageType.ofName ['f', 'i', 'r', 'e']
    d.shape? = some ⟨.keyed, .damage⟩ ∧ ¬(∀ f ∈ instances, AddsNothing f.2) ∧ fire.Lexes ∧
    ∃ s, d.damage = .ok s ∧ ∃ formulas,
      List.Forall₂ (fun (p : Part) f => Formula.read p.expression = .ok f)
        ((s.assemble default).filter fun p => (p.type, p.category) = (fire, .plain)) formulas ∧
      (formulas.map Formula.min).sum = 6 ∧ (formulas.map Formula.max).sum = 19 := by
  intro instances d fire
  have hshape : d.shape? = some ⟨.keyed, .damage⟩ := by decide +kernel
  have hadds : ¬(∀ f ∈ instances, AddsNothing f.2) := by
    intro h
    obtain ⟨expression, a, hexpression, ha, hdice, -⟩ := h _ List.mem_cons_self
    cases hexpression
    have hread : Dice.Additive.read "2d6+3" =
        .ok ⟨[(.saturate 2, ⟨6, by decide, by decide⟩)], .saturate 3⟩ := by decide +kernel
    cases hread.symm.trans ha
    cases hdice
  have hfire : fire.Lexes := by decide +kernel
  obtain ⟨fields, hfields, -, hsome⟩ := damage_of_instances hshape
  cases hfields
  obtain ⟨s, hs, hnormal⟩ := hsome hadds
  obtain ⟨formulas, hread, hmin, hmax⟩ :=
    hnormal default rfl fire .plain fun _ _ _ => ⟨hfire, nofun⟩
  exact ⟨hshape, hadds, hfire, s, hs, formulas, hread, hmin.trans (by decide +kernel),
    hmax.trans (by decide +kernel)⟩

end CriticalDamage
