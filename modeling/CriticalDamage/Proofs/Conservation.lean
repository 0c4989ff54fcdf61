import CriticalDamage.Critical.Assembly
import CriticalDamage.Proofs.ExpressionRange
import Mathlib

/-!
# Conservation of damage

An assembly deals what the entries of its structure deal, for each pair of a type and a category.
What is meant is stated on the entries alone: those that count are told by their flags (`Counts`), a
modifier belongs to a base component (`target`) or to a pair of its own, it is dealt under the pair
`owner` and multiplied by `factor`, and `dealt` sums over all entries that count. Modifiers are
placed one after another, and the first base component takes its own out of them
(`foldl_place_cons`), so `componentsDamage_foldl_place` follows the list of base components; what is
left falls into groups (`filter_foldl_group`).
-/

namespace CriticalDamage.Assembly

open Component

/-! ## What is meant -/

/-- An entry counts on a critical hit, or if it is not flagged critical-only. -/
def Counts (o : HitOptions) (criticalOnly : Bool) : Prop :=
  criticalOnly = false ∨ o.critical = true

instance (o : HitOptions) : DecidablePred (Counts o) := fun _ =>
  inferInstanceAs (Decidable (_ ∨ _))

def countedBase (s : Structure) (o : HitOptions) : List Component :=
  s.base.filter fun c => Counts o c.criticalOnly

/-- A modifier counts only if it is enabled and not ignored, and so do extra dice. -/
def countedModifiers (s : Structure) (o : HitOptions) : List Modifier :=
  s.modifiers.filter fun m => m.enabled = true ∧ m.ignored = false ∧ Counts o m.criticalOnly

def countedDice (s : Structure) (o : HitOptions) : List ExtraDice :=
  s.extraDice.filter fun e => e.enabled = true ∧ e.ignored = false ∧ Counts o e.criticalOnly

/-- The components that count, those of extra dice at the end. -/
def countedComponents (s : Structure) (o : HitOptions) : List Component :=
  countedBase s o ++ (countedDice s o).map (·.component)

/-- The type of the first base component, whether or not that counts. -/
def firstType (s : Structure) : DamageType := (s.base.head?.map (·.type)).getD .untyped

/-- A plain modifier belongs to a plain component of its type, or of any type if it has none. -/
def Belongs (m : Modifier) (c : Component) : Prop :=
  m.category = .plain ∧ c.category = .plain ∧ (m.type = none ∨ m.type = some c.type)

instance (m : Modifier) (c : Component) : Decidable (Belongs m c) :=
  inferInstanceAs (Decidable (_ ∧ _))

/-- The component that a modifier goes into: the first one that it belongs to. -/
def target (base : List Component) (m : Modifier) : Option Component := base.find? (Belongs m ·)

/-- The pair of a modifier that goes into no component. -/
def ownPair (primary : DamageType) (m : Modifier) : DamageType × Category :=
  (m.type.getD primary, m.category)

/-- The pair under which a modifier is dealt. -/
def owner (primary : DamageType) (base : List Component) (m : Modifier) : DamageType × Category :=
  match target base m with
  | some c => (c.type, c.category)
  | none => ownPair primary m

/-- What a flat value without dice is multiplied by. -/
def looseFactor (o : HitOptions) (g : Category) : Int :=
  if o.critical = true ∧ o.doubleStatic = true ∧ g ≠ .persistent ∧ g ≠ .splash then 2 else 1

/-- What a modifier is multiplied by: as the flat value of its component, or as one without dice. -/
def factor (o : HitOptions) (base : List Component) (m : Modifier) : Int :=
  match target base m with
  | some c => c.staticFactor o
  | none => looseFactor o m.category

/-- What a component deals, its dice counted by `dice`. -/
def componentDamage (dice : Component → Int) (o : HitOptions) (c : Component) : Int :=
  dice c + c.criticalBonus o + c.staticFactor o * c.flat.val

/-- What components deal of one pair. -/
def componentsDamage (dice : Component → Int) (o : HitOptions) (pair : DamageType × Category)
    (cs : List Component) : Int :=
  ((cs.filter fun c => (c.type, c.category) = pair).map (componentDamage dice o)).sum

/-- What modifiers of these base components deal of one pair. -/
def modifiersDamage (o : HitOptions) (primary : DamageType) (base : List Component)
    (pair : DamageType × Category) (ms : List Modifier) : Int :=
  ((ms.filter fun m => owner primary base m = pair).map fun m =>
    factor o base m * m.value.val).sum

/-- What the entries of a structure that count deal of one pair. -/
def dealt (dice : Component → Int) (s : Structure) (o : HitOptions)
    (pair : DamageType × Category) : Int :=
  componentsDamage dice o pair (countedComponents s o) +
    modifiersDamage o (firstType s) (countedBase s o) pair (countedModifiers s o)

/-- The expressions of the parts are read, and the least and the greatest totals of the formulas add
up to these numbers. -/
def Totals (parts : List Part) (low high : Int) : Prop :=
  ∃ formulas, List.Forall₂ (fun (p : Part) f => Formula.read p.expression = .ok f) parts formulas ∧
    (formulas.map Formula.min).sum = low ∧ (formulas.map Formula.max).sum = high

def valueSum (ms : List Modifier) : Int := (ms.map (·.value.val)).sum

/-- The values of modifiers can be added to `start` one after another without leaving the range of
an amount. -/
def AddsUp (start : Int) (ms : List Modifier) : Prop :=
  ∀ run, run <+: ms → -2147483648 ≤ start + valueSum run ∧ start + valueSum run < 2147483648

/-- No sum of modifiers saturates, neither one in a base component nor one in a group. -/
structure Unsaturated (primary : DamageType) (base : List Component) (ms : List Modifier) :
    Prop where
  folded : ∀ c ∈ base, AddsUp c.flat.val (ms.filter fun m => target base m = some c)
  grouped : ∀ pair,
    AddsUp 0 (ms.filter fun m => target base m = none ∧ ownPair primary m = pair)

/-- All tags of a structure are scanned without faults. -/
structure AllTagsLex (s : Structure) : Prop where
  base : ∀ c ∈ s.base, c.TagsLex
  modifiers : ∀ m ∈ s.modifiers, (∀ t ∈ m.type, t.Lexes) ∧ m.category.Lexes
  extraDice : ∀ e ∈ s.extraDice, e.component.TagsLex

/-! ## Entries that count -/

theorem counts_iff_applies (o : HitOptions) (criticalOnly : Bool) :
    Counts o criticalOnly ↔ applies o criticalOnly = true := by
  simp [Counts, applies]

theorem countedBase_eq (s : Structure) (o : HitOptions) : countedBase s o = appliedBase s o :=
  List.filter_congr fun c _ => by simp [counts_iff_applies]

theorem countedModifiers_eq (s : Structure) (o : HitOptions) :
    countedModifiers s o = appliedModifiers s o :=
  List.filter_congr fun m _ => by simp [counts_iff_applies, Modifier.isActive, Bool.and_assoc]

theorem countedDice_eq (s : Structure) (o : HitOptions) : countedDice s o = appliedDice s o :=
  List.filter_congr fun e _ => by simp [counts_iff_applies, ExtraDice.isActive, Bool.and_assoc]

theorem firstType_eq (s : Structure) : firstType s = s.primaryType := by
  rw [firstType, Structure.primaryType]
  cases s.base <;> rfl

/-! ## Sums of amounts -/

theorem val_add {a b : Amount} (hlow : -2147483648 ≤ a.val + b.val)
    (hhigh : a.val + b.val < 2147483648) : (a.add b).val = a.val + b.val := by
  simp only [Amount.add, Amount.saturate]
  omega

@[simp] theorem valueSum_nil : valueSum [] = 0 := rfl

@[simp] theorem valueSum_cons (m : Modifier) (ms : List Modifier) :
    valueSum (m :: ms) = m.value.val + valueSum ms := List.sum_cons

theorem AddsUp.nil (a : Amount) : AddsUp a.val [] := by
  intro run hrun
  rw [List.prefix_nil.mp hrun]
  have hlow := a.le
  have hhigh := a.lt
  simp only [valueSum_nil]
  omega

theorem AddsUp.head {start : Int} {m : Modifier} {ms : List Modifier}
    (h : AddsUp start (m :: ms)) :
    -2147483648 ≤ start + m.value.val ∧ start + m.value.val < 2147483648 := by
  have := h [m] ⟨ms, rfl⟩
  simpa using this

theorem AddsUp.tail {start : Int} {m : Modifier} {ms : List Modifier}
    (h : AddsUp start (m :: ms)) : AddsUp (start + m.value.val) ms := by
  intro run hrun
  have := h (m :: run) (List.cons_prefix_cons.mpr ⟨rfl, hrun⟩)
  rwa [valueSum_cons, ← Int.add_assoc] at this

/-- Modifiers whose sizes together fit add up in any order. -/
theorem AddsUp.of_natAbs {start : Int} {ms : List Modifier}
    (h : start.natAbs + (ms.map (·.value.val.natAbs)).sum < 2147483648) : AddsUp start ms := by
  intro run hrun
  induction run generalizing start ms with
  | nil =>
    simp only [valueSum_nil]
    omega
  | cons m run ih =>
    obtain ⟨rest, rfl⟩ := hrun
    simp only [List.cons_append, List.map_cons, List.sum_cons] at h
    have hrest : (start + m.value.val).natAbs +
        ((run ++ rest).map (·.value.val.natAbs)).sum < 2147483648 := by omega
    have hrun := ih hrest ⟨rest, rfl⟩
    rwa [valueSum_cons, ← Int.add_assoc]

/-- The values of modifiers added to an amount one after another. -/
def addAll (a : Amount) (ms : List Modifier) : Amount := ms.foldl (fun a m => a.add m.value) a

theorem val_addAll {a : Amount} {ms : List Modifier} (h : AddsUp a.val ms) :
    (addAll a ms).val = a.val + valueSum ms := by
  induction ms generalizing a with
  | nil => exact (Int.add_zero a.val).symm
  | cons m ms ih =>
    obtain ⟨hlow, hhigh⟩ := h.head
    have htail := h.tail
    rw [← val_add hlow hhigh] at htail
    calc (addAll a (m :: ms)).val = (addAll (a.add m.value) ms).val := rfl
      _ = (a.add m.value).val + valueSum ms := ih htail
      _ = a.val + valueSum (m :: ms) := by
        rw [val_add hlow hhigh, valueSum_cons, Int.add_assoc]

/-! ## Placing modifiers -/

def withFlat (c : Component) (a : Amount) : Component := { c with flat := a }

@[simp] theorem flat_withFlat (c : Component) (a : Amount) : (withFlat c a).flat = a := rfl

@[simp] theorem withFlat_withFlat (c : Component) (a b : Amount) :
    withFlat (withFlat c a) b = withFlat c b := rfl

@[simp] theorem belongs_withFlat (m : Modifier) (c : Component) (a : Amount) :
    Belongs m (withFlat c a) ↔ Belongs m c := Iff.rfl

theorem belongs_iff (m : Modifier) (c : Component) :
    Belongs m c ↔ (m.category.isPlain && fits m c) = true := by
  simp only [Belongs, fits, Category.isPlain, Bool.and_eq_true, beq_iff_eq]
  cases m.type with
  | none => simp
  | some t => simp

/-- The groups after a modifier that goes into no component. -/
def group (primary : DamageType) (gs : List Group) (m : Modifier) : List Group :=
  addToGroup (m.type.getD primary) m.category m.value gs

theorem place_nil (primary : DamageType) (gs : List Group) (m : Modifier) :
    place primary ⟨[], gs⟩ m = ⟨[], group primary gs m⟩ := by
  simp only [place, fold?, ite_self]
  rfl

theorem place_cons_of_belongs (primary : DamageType) {m : Modifier} {c : Component}
    (h : Belongs m c) (cs : List Component) (gs : List Group) :
    place primary ⟨c :: cs, gs⟩ m = ⟨withFlat c (c.flat.add m.value) :: cs, gs⟩ := by
  rw [belongs_iff, Bool.and_eq_true] at h
  simp only [place, fold?, h.1, h.2, if_true]
  rfl

theorem place_cons_of_not_belongs (primary : DamageType) {m : Modifier} {c : Component}
    (h : ¬Belongs m c) (cs : List Component) (gs : List Group) :
    place primary ⟨c :: cs, gs⟩ m =
      ⟨c :: (place primary ⟨cs, gs⟩ m).base, (place primary ⟨cs, gs⟩ m).groups⟩ := by
  rw [belongs_iff, Bool.and_eq_true, not_and] at h
  by_cases hm : m.category.isPlain = true
  · simp only [place, fold?, hm, h hm, if_true]
    cases fold? (fits m) m.value cs <;> rfl
  · simp only [place, hm]
    rfl

/-- The first component takes the modifiers that belong to it, the others take the rest. -/
theorem foldl_place_cons (primary : DamageType) (c : Component) (cs : List Component)
    (gs : List Group) (ms : List Modifier) :
    ms.foldl (place primary) ⟨c :: cs, gs⟩ =
      let rest := (ms.filter fun m => ¬Belongs m c).foldl (place primary) ⟨cs, gs⟩
      ⟨withFlat c (addAll c.flat (ms.filter fun m => Belongs m c)) :: rest.base, rest.groups⟩ := by
  induction ms generalizing c cs gs with
  | nil => rfl
  | cons m ms ih =>
    by_cases h : Belongs m c
    · rw [List.foldl_cons, place_cons_of_belongs primary h, ih]
      simp [h, addAll]
    · rw [List.foldl_cons, place_cons_of_not_belongs primary h, ih]
      simp [h]

theorem foldl_place_nil (primary : DamageType) (gs : List Group) (ms : List Modifier) :
    ms.foldl (place primary) ⟨[], gs⟩ = ⟨[], ms.foldl (group primary) gs⟩ := by
  induction ms generalizing gs with
  | nil => rfl
  | cons m ms ih => rw [List.foldl_cons, place_nil, ih, List.foldl_cons]

/-! ## Targets -/

theorem target_cons_of_belongs {m : Modifier} {c : Component} (h : Belongs m c)
    (cs : List Component) : target (c :: cs) m = some c :=
  List.find?_cons_of_pos (decide_eq_true h)

theorem target_cons_of_not_belongs {m : Modifier} {c : Component} (h : ¬Belongs m c)
    (cs : List Component) : target (c :: cs) m = target cs m :=
  List.find?_cons_of_neg (by simpa using h)

theorem belongs_of_target {m : Modifier} {c : Component} {cs : List Component}
    (h : target cs m = some c) : Belongs m c := by
  simpa using List.find?_some h

theorem target_cons_eq_some_self {m : Modifier} {c : Component} {cs : List Component} :
    target (c :: cs) m = some c ↔ Belongs m c :=
  ⟨belongs_of_target, fun h => target_cons_of_belongs h cs⟩

theorem Unsaturated.head {primary : DamageType} {c : Component} {cs : List Component}
    {ms : List Modifier} (h : Unsaturated primary (c :: cs) ms) :
    AddsUp c.flat.val (ms.filter fun m => Belongs m c) := by
  have := h.folded c List.mem_cons_self
  simpa only [target_cons_eq_some_self] using this

theorem Unsaturated.tail {primary : DamageType} {c : Component} {cs : List Component}
    {ms : List Modifier} (h : Unsaturated primary (c :: cs) ms) :
    Unsaturated primary cs (ms.filter fun m => ¬Belongs m c) := by
  constructor
  · intro d hd
    rw [List.filter_filter]
    by_cases hdc : d = c
    · -- An equal component further on gets nothing, since the first one takes it all.
      have hnone :
          ms.filter (fun m => decide (target cs m = some d) && decide ¬Belongs m c) = [] := by
        refine List.filter_eq_nil_iff.mpr fun m _ hm => ?_
        simp only [Bool.and_eq_true, decide_eq_true_eq] at hm
        exact hm.2 (hdc ▸ belongs_of_target hm.1)
      rw [hnone]
      exact .nil d.flat
    · refine cast (congrArg _ (List.filter_congr fun m _ => ?_)) (h.folded d (.tail c hd))
      by_cases hm : Belongs m c
      · simp [target_cons_of_belongs hm, hm, Ne.symm hdc]
      · simp [target_cons_of_not_belongs hm, hm]
  · intro pair
    rw [List.filter_filter]
    refine cast (congrArg _ (List.filter_congr fun m _ => ?_)) (h.grouped pair)
    by_cases hm : Belongs m c
    · simp [target_cons_of_belongs hm, hm]
    · simp [target_cons_of_not_belongs hm, hm]

/-- No sum saturates if all values of modifiers and any one flat value together fit. -/
theorem Unsaturated.of_natAbs {primary : DamageType} {base : List Component} {ms : List Modifier}
    (h : ∀ start ∈ 0 :: base.map (·.flat.val),
      start.natAbs + (ms.map (·.value.val.natAbs)).sum < 2147483648) :
    Unsaturated primary base ms := by
  have hsome : ∀ start ∈ 0 :: base.map (·.flat.val), ∀ p, AddsUp start (ms.filter p) := by
    intro start hstart p
    have hle : ((ms.filter p).map (·.value.val.natAbs)).sum ≤ (ms.map (·.value.val.natAbs)).sum :=
      (List.filter_sublist.map _).sum_le_sum fun _ _ => Nat.zero_le _
    have := h start hstart
    exact .of_natAbs (by omega)
  exact ⟨fun c hc => hsome _ (.tail _ (List.mem_map_of_mem hc)) _,
    fun pair => hsome 0 List.mem_cons_self _⟩

/-! ## Groups -/

def Group.pair (g : Group) : DamageType × Category := (g.type, g.category)

/-- A value goes into the group of its pair and leaves the others alone. -/
theorem filter_addToGroup (type : DamageType) (category : Category) (value : Amount)
    (gs : List Group) (pair : DamageType × Category) :
    (addToGroup type category value gs).filter (fun g => g.pair = pair) =
      if (type, category) = pair then
        addToGroup type category value (gs.filter fun g => g.pair = pair)
      else gs.filter fun g => g.pair = pair := by
  induction gs with
  | nil =>
    by_cases h : (type, category) = pair <;> simp [addToGroup, Group.pair, h]
  | cons g gs ih =>
    rw [addToGroup]
    by_cases hg : g.type = type ∧ g.category = category
    · rw [if_pos hg]
      obtain ⟨rfl, rfl⟩ := hg
      by_cases h : (g.type, g.category) = pair <;> simp [addToGroup, Group.pair, h]
    · rw [if_neg hg, List.filter_cons, ih]
      by_cases h : (type, category) = pair
      · have hne : g.pair ≠ pair := by
          rintro hp
          rw [← h] at hp
          exact hg (Prod.mk.inj hp)
        simp [h, hne]
      · simp [h, List.filter_cons]

theorem filter_foldl_group (primary : DamageType) (ms : List Modifier) (gs : List Group)
    (pair : DamageType × Category) :
    (ms.foldl (group primary) gs).filter (fun g => g.pair = pair) =
      (ms.filter fun m => ownPair primary m = pair).foldl (group primary)
        (gs.filter fun g => g.pair = pair) := by
  induction ms generalizing gs with
  | nil => rfl
  | cons m ms ih =>
    rw [List.foldl_cons, ih, group, filter_addToGroup, ← ownPair]
    by_cases h : ownPair primary m = pair
    · rw [if_pos h, List.filter_cons_of_pos (by simpa using h)]
      rfl
    · rw [if_neg h, List.filter_cons_of_neg (by simpa using h)]

/-- Modifiers of one pair fall into one group. -/
theorem foldl_group_singleton (primary : DamageType) {pair : DamageType × Category}
    {ms : List Modifier} (h : ∀ m ∈ ms, ownPair primary m = pair) (a : Amount) :
    ms.foldl (group primary) [⟨pair.1, pair.2, a⟩] = [⟨pair.1, pair.2, addAll a ms⟩] := by
  induction ms generalizing a with
  | nil => rfl
  | cons m ms ih =>
    have hm := h m List.mem_cons_self
    have hgroup : group primary [⟨pair.1, pair.2, a⟩] m = [⟨pair.1, pair.2, a.add m.value⟩] := by
      rw [← hm]
      exact if_pos ⟨rfl, rfl⟩
    rw [List.foldl_cons, hgroup, ih fun m' hm' => h m' (.tail m hm')]
    rfl

theorem foldl_group_of_pair {primary : DamageType} {pair : DamageType × Category}
    {ms : List Modifier} (hne : ms ≠ []) (h : ∀ m ∈ ms, ownPair primary m = pair) :
    ms.foldl (group primary) [] = [⟨pair.1, pair.2, addAll 0 ms⟩] := by
  cases ms with
  | nil => exact absurd rfl hne
  | cons m ms =>
    have hfirst : group primary [] m = [⟨pair.1, pair.2, Amount.add 0 m.value⟩] := by
      rw [← h m List.mem_cons_self, Amount.zero_add]
      rfl
    rw [List.foldl_cons, hfirst]
    exact foldl_group_singleton primary (fun m' hm' => h m' (.tail m hm')) _

/-! ## Damage of components and groups -/

/-- A count of dice: it does not look at the flat value, and is zero where no dice are rolled. -/
structure CountsDice (dice : Component → Int) : Prop where
  withFlat : ∀ c a, dice (withFlat c a) = dice c
  of_not_rollsDice : ∀ c, ¬c.RollsDice → dice c = 0

theorem countsDice_lowestDice : CountsDice lowestDice :=
  ⟨fun _ _ => rfl, fun _ h => if_neg h⟩

theorem countsDice_highestDice : CountsDice highestDice :=
  ⟨fun _ _ => rfl, fun _ h => if_neg h⟩

variable {dice : Component → Int} (hdice : CountsDice dice) (o : HitOptions)
  (pair : DamageType × Category)

include hdice in
theorem componentDamage_withFlat (c : Component) (a : Amount) :
    componentDamage dice o (withFlat c a) =
      componentDamage dice o c + c.staticFactor o * (a.val - c.flat.val) := by
  rw [componentDamage, componentDamage, hdice.withFlat, Int.mul_sub]
  change dice c + c.criticalBonus o + c.staticFactor o * a.val = _
  omega

include hdice in
theorem componentDamage_component (g : Group) :
    componentDamage dice o g.component = looseFactor o g.category * g.total.val := by
  have hroll : ¬g.component.RollsDice := fun h => Nat.not_lt_zero 0 h.1
  have hfactor : g.component.staticFactor o = looseFactor o g.category := by
    simp only [staticFactor, hroll, not_false_eq_true, true_or, and_true]
    rfl
  rw [componentDamage, hdice.of_not_rollsDice _ hroll, criticalBonus, if_neg fun h => hroll h.1,
    hfactor, Int.zero_add, Int.zero_add]
  rfl

theorem componentsDamage_append (cs ds : List Component) :
    componentsDamage dice o pair (cs ++ ds) =
      componentsDamage dice o pair cs + componentsDamage dice o pair ds := by
  rw [componentsDamage, List.filter_append, List.map_append, List.sum_append]
  rfl

theorem componentsDamage_cons (c : Component) (cs : List Component) :
    componentsDamage dice o pair (c :: cs) =
      (if (c.type, c.category) = pair then componentDamage dice o c else 0) +
        componentsDamage dice o pair cs := by
  rw [componentsDamage, List.filter_cons]
  by_cases h : (c.type, c.category) = pair <;> simp [h, componentsDamage]

/-- The components of the groups, those of total zero left out. -/
def groupComponents (gs : List Group) : List Component :=
  (gs.filter fun g => g.total ≠ 0).map (·.component)

theorem componentsDamage_groupComponents (gs : List Group) :
    componentsDamage dice o pair (groupComponents gs) =
      ((groupComponents (gs.filter fun g => g.pair = pair)).map (componentDamage dice o)).sum := by
  rw [componentsDamage, groupComponents, groupComponents, List.filter_map, List.filter_filter,
    List.filter_filter]
  refine congrArg (fun l => ((List.map _ l).map _).sum) (List.filter_congr fun g _ => ?_)
  exact Bool.and_comm _ _

include hdice in
/-- The groups deal what their modifiers add up to, whether or not that is zero. -/
theorem componentsDamage_foldl_group (primary : DamageType) {ms : List Modifier}
    (h : AddsUp 0 (ms.filter fun m => ownPair primary m = pair)) :
    componentsDamage dice o pair (groupComponents (ms.foldl (group primary) [])) =
      looseFactor o pair.2 * valueSum (ms.filter fun m => ownPair primary m = pair) := by
  have hown : ∀ m ∈ ms.filter fun m => ownPair primary m = pair, ownPair primary m = pair :=
    fun m hm => by simpa using (List.mem_filter.mp hm).2
  rw [componentsDamage_groupComponents, filter_foldl_group, List.filter_nil]
  generalize ms.filter (fun m => ownPair primary m = pair) = own at h hown
  have hsum : (addAll 0 own).val = valueSum own := (val_addAll (a := 0) h).trans (Int.zero_add _)
  by_cases hnil : own = []
  · rw [hnil]
    exact (Int.mul_zero _).symm
  · rw [foldl_group_of_pair hnil hown, ← hsum]
    by_cases hzero : addAll 0 own = 0
    · rw [hzero]
      exact (Int.mul_zero _).symm
    · simp [groupComponents, hzero, componentDamage_component hdice]

/-! ## Damage of modifiers -/

theorem sum_map_of_factor {base : List Component} {k : Int} {ms : List Modifier}
    (h : ∀ m ∈ ms, factor o base m = k) :
    (ms.map fun m => factor o base m * m.value.val).sum = k * valueSum ms := by
  induction ms with
  | nil => exact (Int.mul_zero k).symm
  | cons m ms ih =>
    rw [List.map_cons, List.sum_cons, h m List.mem_cons_self, ih fun m' hm' => h m' (.tail m hm'),
      valueSum_cons, Int.mul_add]

variable (primary : DamageType)

theorem modifiersDamage_filter_add_filter_not (base : List Component) (ms : List Modifier)
    (p : Modifier → Prop) [DecidablePred p] :
    modifiersDamage o primary base pair (ms.filter fun m => p m) +
        modifiersDamage o primary base pair (ms.filter fun m => ¬p m) =
      modifiersDamage o primary base pair ms := by
  refine Eq.trans ?_ (List.sum_map_filter_add_sum_map_filter_not p _ _)
  simp only [modifiersDamage, List.filter_filter, Bool.and_comm]

theorem modifiersDamage_nil (ms : List Modifier) :
    modifiersDamage o primary [] pair ms =
      looseFactor o pair.2 * valueSum (ms.filter fun m => ownPair primary m = pair) := by
  refine sum_map_of_factor o fun m hm => ?_
  have hpair : owner primary [] m = pair := by simpa using (List.mem_filter.mp hm).2
  rw [← hpair]
  rfl

/-- The modifiers of the first component share its pair and its factor. -/
theorem modifiersDamage_cons_of_belongs (c : Component) (cs : List Component) (ms : List Modifier) :
    modifiersDamage o primary (c :: cs) pair (ms.filter fun m => Belongs m c) =
      if (c.type, c.category) = pair then
        c.staticFactor o * valueSum (ms.filter fun m => Belongs m c)
      else 0 := by
  have htarget : ∀ m ∈ ms.filter fun m => Belongs m c, target (c :: cs) m = some c :=
    fun m hm => target_cons_of_belongs (by simpa using (List.mem_filter.mp hm).2) cs
  generalize ms.filter (fun m => Belongs m c) = own at htarget
  have howner : ∀ m ∈ own, owner primary (c :: cs) m = (c.type, c.category) :=
    fun m hm => by rw [owner, htarget m hm]
  split
  · next h =>
    rw [modifiersDamage, List.filter_eq_self.mpr fun m hm => by simp [howner m hm, h]]
    exact sum_map_of_factor o fun m hm => by rw [factor, htarget m hm]
  · next h =>
    rw [modifiersDamage, List.filter_eq_nil_iff.mpr fun m hm => by simp [howner m hm, h]]
    rfl

/-- The others are dealt as if the first component were not there. -/
theorem modifiersDamage_cons_of_not_belongs (c : Component) (cs : List Component)
    (ms : List Modifier) :
    modifiersDamage o primary (c :: cs) pair (ms.filter fun m => ¬Belongs m c) =
      modifiersDamage o primary cs pair (ms.filter fun m => ¬Belongs m c) := by
  have htarget : ∀ m ∈ ms.filter fun m => ¬Belongs m c, target (c :: cs) m = target cs m :=
    fun m hm => target_cons_of_not_belongs (by simpa using (List.mem_filter.mp hm).2) cs
  generalize ms.filter (fun m => ¬Belongs m c) = others at htarget
  have howner : ∀ m ∈ others, owner primary (c :: cs) m = owner primary cs m :=
    fun m hm => by rw [owner, owner, htarget m hm]
  have hfactor : ∀ m ∈ others, factor o (c :: cs) m = factor o cs m :=
    fun m hm => by rw [factor, factor, htarget m hm]
  rw [modifiersDamage, modifiersDamage, List.filter_congr fun m hm => by rw [howner m hm]]
  exact congrArg _ (List.map_congr_left fun m hm => by rw [hfactor m (List.mem_filter.mp hm).1])

def State.components (st : State) : List Component := st.base ++ groupComponents st.groups

include hdice in
/-- Placing modifiers conserves damage. -/
theorem componentsDamage_foldl_place {base : List Component} {ms : List Modifier}
    (h : Unsaturated primary base ms) :
    componentsDamage dice o pair (ms.foldl (place primary) ⟨base, []⟩).components =
      componentsDamage dice o pair base + modifiersDamage o primary base pair ms := by
  induction base generalizing ms with
  | nil =>
    rw [foldl_place_nil, modifiersDamage_nil]
    refine (componentsDamage_foldl_group hdice o pair primary ?_).trans (Int.zero_add _).symm
    simpa [target] using h.grouped pair
  | cons c cs ih =>
    have hrest := ih h.tail
    have hflat : (addAll c.flat (ms.filter fun m => Belongs m c)).val =
        c.flat.val + valueSum (ms.filter fun m => Belongs m c) := val_addAll h.head
    rw [foldl_place_cons, State.components, List.cons_append, componentsDamage_cons,
      ← State.components, hrest, componentsDamage_cons, componentDamage_withFlat hdice, hflat,
      ← modifiersDamage_filter_add_filter_not o pair primary (c :: cs) ms (Belongs · c),
      modifiersDamage_cons_of_belongs, modifiersDamage_cons_of_not_belongs]
    change (if (c.type, c.category) = pair then _ else _) + _ = _
    split
    · rw [add_sub_cancel_left]
      omega
    · omega

/-! ## Reading an assembly back -/

/-- A placed component differs from one of the structure in its flat value at most. -/
theorem exists_of_mem_base {primary : DamageType} {base : List Component} {ms : List Modifier}
    {d : Component} (h : d ∈ (ms.foldl (place primary) ⟨base, []⟩).base) :
    ∃ c ∈ base, ∃ a, d = withFlat c a := by
  induction base generalizing ms with
  | nil =>
    rw [foldl_place_nil] at h
    cases h
  | cons c cs ih =>
    rw [foldl_place_cons] at h
    rcases List.mem_cons.mp h with rfl | h
    · exact ⟨c, List.mem_cons_self, _, rfl⟩
    · obtain ⟨c', hc', ha⟩ := ih h
      exact ⟨c', .tail c hc', ha⟩

theorem exists_of_mem_groups {primary : DamageType} {base : List Component} {ms : List Modifier}
    {g : Group} (h : g ∈ (ms.foldl (place primary) ⟨base, []⟩).groups) :
    ∃ m ∈ ms, ownPair primary m = g.pair := by
  induction base generalizing ms with
  | nil =>
    rw [foldl_place_nil] at h
    by_contra hnone
    have hown : ms.filter (fun m => ownPair primary m = g.pair) = [] :=
      List.filter_eq_nil_iff.mpr fun m hm hpair => hnone ⟨m, hm, by simpa using hpair⟩
    have hg : g ∈ (ms.foldl (group primary) []).filter fun x => x.pair = g.pair :=
      List.mem_filter.mpr ⟨h, decide_eq_true rfl⟩
    rw [filter_foldl_group, hown] at hg
    cases hg
  | cons c cs ih =>
    rw [foldl_place_cons] at h
    obtain ⟨m, hm, hpair⟩ := ih h
    exact ⟨m, (List.mem_filter.mp hm).1, hpair⟩

variable {s : Structure} {o : HitOptions}

theorem lexes_primaryType (h : AllTagsLex s) : s.primaryType.Lexes := by
  rw [Structure.primaryType]
  split
  · next c cs hbase => exact (h.base c (hbase ▸ List.mem_cons_self)).1
  · exact Tag.faults_of_no_digit (by decide)

theorem map_component_portions :
    (portions s o).map (·.component) =
      (placed s o).components ++ (appliedDice s o).map (·.component) := by
  simp only [portions, State.components, groupComponents, List.map_append, List.map_map]
  congr 2
  exact List.map_id _

/-- A portion is that of a base component with another flat value, of a group of modifiers, or of
extra dice. -/
theorem origin_of_mem_portions {p : Portion} (hp : p ∈ portions s o) :
    (∃ c ∈ appliedBase s o, ∃ a, p.component = withFlat c a) ∨
    (∃ m ∈ appliedModifiers s o, ∃ g : Group, ownPair s.primaryType m = g.pair ∧
      p.component = g.component) ∨
    ∃ e ∈ appliedDice s o, p.component = e.component := by
  have hmem : p.component ∈ (placed s o).components ++ (appliedDice s o).map (·.component) := by
    rw [← map_component_portions]
    exact List.mem_map_of_mem hp
  rcases List.mem_append.mp hmem with hplaced | hextra
  · rcases List.mem_append.mp hplaced with hbase | hgroup
    · exact .inl (exists_of_mem_base hbase)
    · obtain ⟨g, hg, hcomponent⟩ := List.mem_map.mp hgroup
      obtain ⟨m, hm, hpair⟩ := exists_of_mem_groups (List.mem_filter.mp hg).1
      exact .inr (.inl ⟨m, hm, g, hpair, hcomponent.symm⟩)
  · obtain ⟨e, he, hcomponent⟩ := List.mem_map.mp hextra
    exact .inr (.inr ⟨e, he, hcomponent.symm⟩)

theorem read_expression_of_mem_portions (htags : AllTagsLex s)
    (hfit : ∀ c ∈ countedComponents s o, c.criticalBonus o < Width.signed64)
    {p : Portion} (hp : p ∈ portions s o) :
    Formula.read (p.component.expression o) = .ok (p.component.formula o) := by
  suffices h : p.component.TagsLex ∧ p.component.criticalBonus o < Width.signed64 from
    p.component.read_expression o h.1 ((p.component.bonusFits_iff o).mpr h.2)
  rw [countedComponents, countedBase_eq, countedDice_eq] at hfit
  rcases origin_of_mem_portions hp with ⟨c, hc, a, hbase⟩ | ⟨m, hm, g, hpair, hgroup⟩ |
    ⟨e, he, hextra⟩
  · rw [hbase]
    exact ⟨htags.base c (List.mem_filter.mp hc).1, hfit c (List.mem_append_left _ hc)⟩
  · obtain ⟨htype, hcategory⟩ := htags.modifiers m (List.mem_filter.mp hm).1
    obtain ⟨hgtype, hgcategory⟩ := Prod.mk.inj hpair
    rw [hgroup]
    refine ⟨⟨?_, ?_⟩, ?_⟩
    · change g.type.Lexes
      rw [← hgtype]
      cases ht : m.type with
      | none => exact lexes_primaryType htags
      | some t => exact htype t ht
    · change g.category.Lexes
      rwa [← hgcategory]
    · rw [criticalBonus, if_neg fun h => Nat.not_lt_zero 0 h.1.1]
      decide
  · rw [hextra]
    exact ⟨htags.extraDice e (List.mem_filter.mp he).1,
      hfit _ (List.mem_append_right _ (List.mem_map_of_mem he))⟩

theorem sum_map_portions {dice : Component → Int} (hdice : CountsDice dice)
    (hexact : Unsaturated (firstType s) (countedBase s o) (countedModifiers s o))
    (pair : DamageType × Category) :
    (((portions s o).filter fun p => (p.component.type, p.component.category) = pair).map
      fun p => componentDamage dice o p.component).sum = dealt dice s o pair := by
  rw [firstType_eq, countedBase_eq, countedModifiers_eq] at hexact
  have hplaced := componentsDamage_foldl_place hdice o pair s.primaryType hexact
  calc _ = componentsDamage dice o pair ((portions s o).map (·.component)) := by
        rw [componentsDamage, List.filter_map, List.map_map]
        rfl
    _ = componentsDamage dice o pair (placed s o).components +
        componentsDamage dice o pair ((appliedDice s o).map (·.component)) := by
        rw [map_component_portions, componentsDamage_append]
    _ = dealt dice s o pair := by
        rw [placed, hplaced, dealt, countedComponents, firstType_eq, countedBase_eq,
          countedModifiers_eq, countedDice_eq, componentsDamage_append, Int.add_right_comm]

/-- An assembly conserves damage. For every type and category the parts that carry them are read
back, and their least and their greatest totals add up to what the entries of the structure deal,
if all tags are scanned without faults, the maxima of dice fit where they are added, and no sum of
modifiers saturates. -/
theorem assemble_conserves (htags : AllTagsLex s)
    (hfit : ∀ c ∈ countedComponents s o, c.criticalBonus o < Width.signed64)
    (hexact : Unsaturated (firstType s) (countedBase s o) (countedModifiers s o))
    (type : DamageType) (category : Category) :
    Totals ((s.assemble o).filter fun p => (p.type, p.category) = (type, category))
      (dealt lowestDice s o (type, category)) (dealt highestDice s o (type, category)) := by
  refine ⟨((portions s o).filter fun p =>
    (p.component.type, p.component.category) = (type, category)).map (·.component.formula o),
    ?_, ?_, ?_⟩
  · rw [Structure.assemble, List.filter_map, List.forall₂_map_left_iff,
      List.forall₂_map_right_iff]
    refine List.forall₂_same.mpr fun p hp => ?_
    exact read_expression_of_mem_portions htags hfit (List.mem_filter.mp hp).1
  · rw [← sum_map_portions countsDice_lowestDice hexact, List.map_map]
    refine congrArg _ (List.map_congr_left fun p _ => ?_)
    exact congrArg Range.low (p.component.range_formula o)
  · rw [← sum_map_portions countsDice_highestDice hexact, List.map_map]
    refine congrArg _ (List.map_congr_left fun p _ => ?_)
    exact congrArg Range.high (p.component.range_formula o)

/-- A sword that burns: dice and a strength bonus of one type, persistent fire, precision dice. -/
def burningSword : Structure :=
  let slashing := DamageType.ofName ['S', 'l', 'a', 's', 'h', 'i', 'n', 'g']
  let fire := DamageType.ofName ['F', 'i', 'r', 'e']
  { base := [⟨.saturate 2, Die.ofSides? 6, .saturate 1, slashing, .plain, false⟩]
    modifiers := [.new "strength" (.saturate 4),
      { Modifier.new "flaming" (.saturate 5) with category := .persistent, type := some fire }]
    extraDice := [.new "sneak attack" ⟨1, Die.ofSides? 6, 0, slashing, .precision, false⟩] }

theorem allTagsLex_burningSword : AllTagsLex burningSword where
  base := by decide +kernel
  modifiers := by decide +kernel
  extraDice := by decide +kernel

/-- On a critical hit that doubles all flat values the plain slashing damage is `2d6+12+10`, the
precision dice are `1d6+6`, and the persistent fire is 5 as on every hit. -/
theorem assemble_conserves_burningSword :
    let o : HitOptions := ⟨true, true, .allStatic⟩
    let slashing := DamageType.ofName ['S', 'l', 'a', 's', 'h', 'i', 'n', 'g']
    let fire := DamageType.ofName ['F', 'i', 'r', 'e']
    let carrying (type : DamageType) (category : Category) : List Part :=
      (burningSword.assemble o).filter fun p => (p.type, p.category) = (type, category)
    AllTagsLex burningSword ∧
    (∀ c ∈ countedComponents burningSword o, c.criticalBonus o < Width.signed64) ∧
    Unsaturated (firstType burningSword) (countedBase burningSword o)
      (countedModifiers burningSword o) ∧
    Totals (carrying slashing .plain) 24 34 ∧ Totals (carrying slashing .precision) 7 12 ∧
      Totals (carrying fire .persistent) 5 5 := by
  intro o slashing fire carrying
  have hfit : ∀ c ∈ countedComponents burningSword o, c.criticalBonus o < Width.signed64 := by
    decide +kernel
  have hexact : Unsaturated (firstType burningSword) (countedBase burningSword o)
      (countedModifiers burningSword o) := .of_natAbs (by decide +kernel)
  have htotals (type : DamageType) (category : Category) {low high : Int}
      (hlow : dealt lowestDice burningSword o (type, category) = low)
      (hhigh : dealt highestDice burningSword o (type, category) = high) :
      Totals (carrying type category) low high :=
    hlow ▸ hhigh ▸ assemble_conserves allTagsLex_burningSword hfit hexact type category
  refine ⟨allTagsLex_burningSword, hfit, hexact, htotals _ _ ?_ ?_, htotals _ _ ?_ ?_,
    htotals _ _ ?_ ?_⟩ <;> decide +kernel

end CriticalDamage.Assembly
