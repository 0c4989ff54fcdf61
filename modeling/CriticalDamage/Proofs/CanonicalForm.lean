import CriticalDamage.Estimate
import CriticalDamage.HostDamage.Normal

/-!
# Canonical structures

What bringing a structure into canonical form achieves is stated on its entries (`IsCanonical`). The
canonical form of a structure has such entries (`isCanonical_canonical`), and a structure with such
entries is its own canonical form (`canonical_eq_self`). The repair of a component changes neither
the dice it rolls nor its flat value, so a base component that rolls dice stays. The damage found in
a document and every estimate are in canonical form and have entries.
-/

namespace CriticalDamage

namespace Component

/-- There is a die, of at least two sides, just when there is a count, and there are dice or a flat
value. -/
structure IsProper (c : Component) : Prop where
  count_pos_iff : 0 < c.count.val ↔ c.die.isSome = true
  contributes : (0 < c.count.val ∧ c.die.isSome = true) ∨ c.flat.val ≠ 0
  two_le_sides : ∀ die ∈ c.die, 2 ≤ die.sides

theorem isValid_iff {c : Component} :
    c.isValid = true ↔ (0 < c.count.val ↔ c.die.isSome = true) := by
  rw [isValid, beq_iff_eq, Bool.eq_iff_iff, decide_eq_true_iff]

theorem isEmpty_iff {c : Component} : c.isEmpty = true ↔ c.rolledDie? = none ∧ c.flat = 0 := by
  rw [isEmpty, Bool.and_eq_true, beq_iff_eq, Option.isNone_iff_eq_none]

theorem IsProper.isValid {c : Component} (h : c.IsProper) : c.isValid = true :=
  isValid_iff.mpr h.count_pos_iff

theorem IsProper.isEmpty_eq {c : Component} (h : c.IsProper) : c.isEmpty = false := by
  rw [← Bool.not_eq_true, isEmpty_iff]
  rintro ⟨hdie, hflat⟩
  rcases h.contributes with ⟨hcount, hsome⟩ | hne
  · rw [rolledDie?, if_pos hcount] at hdie
    rw [hdie] at hsome
    cases hsome
  · rw [hflat] at hne
    exact hne rfl

theorem isProper_of_isValid {c : Component} (hvalid : c.isValid = true)
    (hne : c.isEmpty = false) : c.IsProper where
  count_pos_iff := isValid_iff.mp hvalid
  contributes := by
    by_cases hcount : 0 < c.count.val
    · exact .inl ⟨hcount, (isValid_iff.mp hvalid).mp hcount⟩
    · refine .inr fun hflat => ?_
      have hdie : c.rolledDie? = none := if_neg hcount
      rw [isEmpty_iff.mpr ⟨hdie, Amount.ext hflat⟩] at hne
      cases hne
  two_le_sides die _ := die.two_le

theorem isValid_repair (c : Component) : c.repair.isValid = true := by
  rw [isValid_iff, repair]
  cases hdie : c.die with
  | none => exact iff_of_false (Nat.lt_irrefl 0) (by simp)
  | some die =>
    by_cases hcount : c.count.val = 0
    · simp [hcount]
    · simp [hcount, hdie, Nat.pos_of_ne_zero hcount]

theorem repair_eq_self {c : Component} (h : c.isValid = true) : c.repair = c := by
  rw [isValid_iff] at h
  obtain ⟨count, die, flat, type, category, criticalOnly⟩ := c
  cases die with
  | none =>
    have hcount : count = 0 :=
      Count.ext (Nat.eq_zero_of_not_pos fun hpos => by simpa using h.mp hpos)
    rw [hcount]
    rfl
  | some die => exact if_neg (Nat.ne_of_gt (h.mpr rfl))

theorem rolledDie?_repair (c : Component) : c.repair.rolledDie? = c.rolledDie? := by
  rw [repair]
  cases hdie : c.die with
  | none => simp [rolledDie?, hdie]
  | some die =>
    by_cases hcount : c.count.val = 0
    · simp [rolledDie?, hcount]
    · simp only [if_neg hcount]

theorem flat_repair (c : Component) : c.repair.flat = c.flat := by
  rw [repair]
  split
  · split <;> rfl
  · rfl

theorem isEmpty_repair (c : Component) : c.repair.isEmpty = c.isEmpty := by
  rw [isEmpty, isEmpty, rolledDie?_repair, flat_repair]

/-- Being critical-only has no part in a repair. -/
theorem repair_withCriticalOnly (c : Component) (criticalOnly : Bool) :
    { c with criticalOnly }.repair = { c.repair with criticalOnly } := by
  simp only [repair]
  split
  · split <;> rfl
  · rfl

end Component

theorem Modifier.isActive_iff {m : Modifier} :
    m.isActive = true ↔ m.enabled = true ∧ m.ignored = false := by
  rw [isActive, Bool.and_eq_true, Bool.not_eq_true']

theorem ExtraDice.isActive_iff {e : ExtraDice} :
    e.isActive = true ↔ e.enabled = true ∧ e.ignored = false := by
  rw [isActive, Bool.and_eq_true, Bool.not_eq_true']

/-- Active dice that agree with their component on being critical-only, and whose component is
proper. -/
structure ExtraDice.IsProper (e : ExtraDice) : Prop where
  active : e.enabled = true ∧ e.ignored = false
  criticalOnly_eq : e.criticalOnly = e.component.criticalOnly
  component : e.component.IsProper

theorem ExtraDice.repair_eq_self {e : ExtraDice} (h : e.IsProper) : e.repair = e := by
  obtain ⟨label, component, criticalOnly, enabled, ignored⟩ := e
  have hflag : criticalOnly = component.criticalOnly := h.criticalOnly_eq
  have hcomponent : component.repair = component := Component.repair_eq_self h.component.isValid
  simp only [repair, hcomponent, hflag, Bool.or_self]

/-- The repaired component of active extra dice is proper, unless it is empty. -/
theorem ExtraDice.isProper_repair {e : ExtraDice} (hactive : e.isActive = true)
    (hne : e.repair.component.isEmpty = false) : e.repair.IsProper where
  active := isActive_iff.mp hactive
  criticalOnly_eq := rfl
  component := Component.isProper_of_isValid (c := { e.component.repair with
    criticalOnly := e.criticalOnly || e.component.criticalOnly })
    (Component.isValid_repair e.component) hne

namespace Structure

/-- All entries are active and proper. -/
structure IsCanonical (s : Structure) : Prop where
  base : ∀ c ∈ s.base, c.IsProper
  modifiers : ∀ m ∈ s.modifiers, m.enabled = true ∧ m.ignored = false
  extraDice : ∀ e ∈ s.extraDice, e.IsProper

theorem isCanonical_canonical (s : Structure) : s.canonical.IsCanonical where
  base c hc := by
    obtain ⟨hmem, hne⟩ := List.mem_filter.mp hc
    obtain ⟨d, -, rfl⟩ := List.mem_map.mp hmem
    exact Component.isProper_of_isValid d.isValid_repair (by simpa using hne)
  modifiers m hm := Modifier.isActive_iff.mp (List.mem_filter.mp hm).2
  extraDice e he := by
    obtain ⟨hmem, hne⟩ := List.mem_filter.mp he
    obtain ⟨d, hd, rfl⟩ := List.mem_map.mp hmem
    exact ExtraDice.isProper_repair (List.mem_filter.mp hd).2 (by simpa using hne)

theorem canonical_eq_self {s : Structure} (h : s.IsCanonical) : s.canonical = s := by
  have hbase : s.base.map Component.repair = s.base :=
    (List.map_congr_left fun c hc => Component.repair_eq_self (h.base c hc).isValid).trans
      (List.map_id _)
  have hdice : s.extraDice.map ExtraDice.repair = s.extraDice :=
    (List.map_congr_left fun e he => ExtraDice.repair_eq_self (h.extraDice e he)).trans
      (List.map_id _)
  have hactive : s.extraDice.filter ExtraDice.isActive = s.extraDice :=
    List.filter_eq_self.mpr fun e he => ExtraDice.isActive_iff.mpr (h.extraDice e he).active
  obtain ⟨base, modifiers, extraDice⟩ := s
  rw [canonical, hbase, hactive, hdice, mk.injEq]
  refine ⟨List.filter_eq_self.mpr fun c hc => ?_,
    List.filter_eq_self.mpr fun m hm => Modifier.isActive_iff.mpr (h.modifiers m hm),
    List.filter_eq_self.mpr fun e he => ?_⟩
  · rw [(h.base c hc).isEmpty_eq, Bool.not_false]
  · rw [(h.extraDice e he).component.isEmpty_eq, Bool.not_false]

theorem canonical_canonical (s : Structure) : s.canonical.canonical = s.canonical :=
  canonical_eq_self s.isCanonical_canonical

/-- No entry that takes part in a roll adds anything. -/
structure AddsNothing (s : Structure) : Prop where
  base : ∀ c ∈ s.base, c.isEmpty = true
  modifiers : ∀ m ∈ s.modifiers, m.isActive = false
  extraDice : ∀ e ∈ s.extraDice, e.isActive = true → e.component.isEmpty = true

theorem isEmpty_canonical_iff {s : Structure} :
    s.canonical.isEmpty = true ↔ s.AddsNothing := by
  have hdice : ∀ e : ExtraDice, e.repair.component.isEmpty = e.component.isEmpty :=
    fun e => e.component.isEmpty_repair
  simp only [isEmpty, canonical, Bool.and_eq_true, List.isEmpty_iff, List.filter_eq_nil_iff,
    List.forall_mem_map, Component.isEmpty_repair, hdice, List.mem_filter, Bool.not_eq_true',
    Bool.not_eq_false, Bool.not_eq_true]
  constructor
  · rintro ⟨⟨hbase, hmodifiers⟩, hextra⟩
    exact ⟨hbase, hmodifiers, fun e he hactive => hextra e ⟨he, hactive⟩⟩
  · rintro ⟨hbase, hmodifiers, hextra⟩
    exact ⟨⟨hbase, hmodifiers⟩, fun e he => hextra e he.1 he.2⟩

/-- Only base components without dice leave the structure. -/
theorem hasBaseDice_canonical (s : Structure) : s.canonical.hasBaseDice = s.hasBaseDice := by
  simp only [hasBaseDice, canonical, List.any_filter, List.any_map]
  refine List.any_congr rfl fun c => ?_
  rw [Function.comp_apply, Component.isEmpty, Component.rolledDie?_repair]
  cases c.rolledDie? <;> simp

end Structure

/-! ## Where canonical structures come from -/

/-- Damage is what canonical form leaves of the description of the first shape present. -/
theorem Document.damage_eq_ok_iff {d : Document} {s : Structure} :
    d.damage = .ok s ↔ ∃ shape found, d.shape? = some shape ∧ shape.read d = .ok found ∧
      found.canonical.isEmpty = false ∧ found.canonical = s := by
  rw [Document.damage]
  cases d.shape? with
  | none => simp
  | some shape =>
    dsimp only
    cases hread : shape.read d with
    | error e => simp [hread]
    | ok found => cases hempty : found.canonical.isEmpty <;> simp [hread, hempty]

theorem Document.canonical_of_damage {d : Document} {s : Structure} (h : d.damage = .ok s) :
    s.isEmpty = false ∧ s.IsCanonical := by
  obtain ⟨shape, found, -, -, hne, rfl⟩ := damage_eq_ok_iff.mp h
  exact ⟨hne, found.isCanonical_canonical⟩

theorem canonical_of_estimate {item : Item} {actor : Option Actor} {s : Structure}
    (h : estimate item actor = .ok s) : s.hasBaseDice = true ∧ s.IsCanonical := by
  unfold estimate at h
  split at h
  · split at h
    · cases h
    · split at h
      · next hdice =>
        cases h
        exact ⟨(Structure.hasBaseDice_canonical _).trans hdice, Structure.isCanonical_canonical _⟩
      · cases h
  · cases h

end CriticalDamage
