import CriticalDamage.HostDamage.Normal
import CriticalDamage.Proofs.CanonicalForm
import CriticalDamage.Proofs.Conservation
import CriticalDamage.Proofs.TraitDice
import Mathlib

/-!
# Damage types of weapons

A flat description names one damage type. Its base dice and the dice of its traits have that type,
and its bonus has none of its own. The bonus takes the type of the first base component, but a base
component without dice leaves with canonical form, and a bonus alone is then untyped. So all parts
have the type of the description just when it has base dice or names no type
(`type_of_parts_iff`).
-/

namespace CriticalDamage

theorem Component.type_repair (c : Component) : c.repair.type = c.type := by
  rw [repair]
  split
  · split <;> rfl
  · rfl

/-! ## Structures of one type -/

/-- All entries have the type, or none of their own, and so has what has none. -/
structure Structure.HasType (s : Structure) (type : DamageType) : Prop where
  primary : s.primaryType = type
  base : ∀ c ∈ s.base, c.type = type
  modifiers : ∀ m ∈ s.modifiers, m.type.getD type = type
  extraDice : ∀ e ∈ s.extraDice, e.component.type = type

/-- Every part of a structure of one type has that type. -/
theorem Structure.HasType.of_mem_assemble {s : Structure} {type : DamageType}
    (h : s.HasType type) {o : HitOptions} {p : Part} (hp : p ∈ s.assemble o) : p.type = type := by
  obtain ⟨q, hq, rfl⟩ := List.mem_map.mp hp
  change q.component.type = type
  rcases Assembly.origin_of_mem_portions hq with ⟨c, hc, a, hbase⟩ | ⟨m, hm, g, hpair, hgroup⟩ |
    ⟨e, he, hextra⟩
  · rw [hbase]
    exact h.base c (List.mem_filter.mp hc).1
  · have hgtype : m.type.getD s.primaryType = g.type := (Prod.mk.inj hpair).1
    rw [hgroup]
    change g.type = type
    rw [← hgtype, h.primary]
    exact h.modifiers m (List.mem_filter.mp hm).1
  · rw [hextra]
    exact h.extraDice e (List.mem_filter.mp he).1

theorem Structure.type_of_mem_canonical_extraDice {s : Structure} {type : DamageType}
    (h : ∀ e ∈ s.extraDice, e.component.type = type) :
    ∀ e ∈ s.canonical.extraDice, e.component.type = type := by
  intro e he
  obtain ⟨d, hd, rfl⟩ := List.mem_map.mp (List.mem_filter.mp he).1
  exact d.component.type_repair.trans (h d (List.mem_filter.mp hd).1)

/-- A bonus alone is untyped. -/
theorem exists_untyped_part {s : Structure} {label : String} {bonus : Amount}
    (hbase : s.base = []) (hmodifiers : s.modifiers = [.new label bonus]) (hne : bonus ≠ 0)
    (o : HitOptions) : ∃ p ∈ s.assemble o, p.type = .untyped := by
  have hplaced : Assembly.placed s o = ⟨[], [⟨.untyped, .plain, bonus⟩]⟩ := by
    rw [Assembly.placed, Assembly.appliedBase, Assembly.appliedModifiers, Structure.primaryType,
      hbase, hmodifiers]
    exact Assembly.place_nil .untyped [] (.new label bonus)
  refine ⟨Portion.part o ⟨(Assembly.Group.mk .untyped .plain bonus).component, .modifier⟩,
    List.mem_map_of_mem ?_, rfl⟩
  rw [Assembly.portions, hplaced]
  simp [hne]

theorem exists_of_mem_traitEntries {type : DamageType} {traits : List String} {e : ExtraDice}
    (h : e ∈ traitEntries type traits) :
    ∃ token count die, e = .onCritical token (.ofDice count die type) := by
  obtain ⟨token, -, he⟩ := List.mem_filterMap.mp h
  obtain ⟨suffix, count, die, -, -, he⟩ := criticalDice?_eq_some_iff.mp he
  exact ⟨token, count, die, he⟩

theorem type_of_mem_traitEntries {type : DamageType} {traits : List String} {e : ExtraDice}
    (h : e ∈ traitEntries type traits) : e.component.type = type := by
  obtain ⟨token, count, die, rfl⟩ := exists_of_mem_traitEntries h
  rfl

namespace WeaponDice

variable {damage system : Document}

/-! ## The structure of a weapon -/

theorem base_of_diceCount_pos (h : 0 < (diceCount damage system).val) :
    ∃ die, base damage system = .ofDice (diceCount damage system) die (type damage) := by
  cases hdie : die? (damage.field "die") with
  | none =>
    rw [diceCount, hdie] at h
    exact absurd h (Nat.lt_irrefl 0)
  | some die => exact ⟨die, by rw [base, hdie]; exact if_neg (Nat.ne_of_gt h)⟩

theorem base_of_diceCount_eq_zero (h : (diceCount damage system).val = 0) :
    base damage system = .ofFlat 0 (type damage) := by
  rw [base]
  split
  · exact if_pos h
  · rfl

theorem type_base : (base damage system).type = type damage := by
  rw [base]
  split
  · split <;> rfl
  · rfl

theorem eq_of_structure? {found : Structure} (h : structure? damage system = some found) :
    ¬((diceCount damage system).val = 0 ∧ bonusTotal bonusPaths system = 0) ∧
    found = ⟨[base damage system], [.new "modifier" (bonusTotal bonusPaths system)],
      traitEntries (type damage) (traitsOf system)⟩ := by
  rw [structure?] at h
  split at h
  · cases h
  · next hne => exact ⟨hne, (Option.some.inj h).symm⟩

/-- Canonical form keeps the base component of a weapon just when it has dice. -/
theorem canonical_base_of_structure? {found : Structure}
    (h : structure? damage system = some found) :
    found.canonical.base =
      if (diceCount damage system).val = 0 then [] else [base damage system] := by
  obtain ⟨-, rfl⟩ := eq_of_structure? h
  rw [Structure.canonical]
  split
  · next hcount =>
    rw [base_of_diceCount_eq_zero hcount]
    rfl
  · next hcount =>
    obtain ⟨die, hdie⟩ := base_of_diceCount_pos (Nat.pos_of_ne_zero hcount)
    simp [hdie, Component.ofDice, Component.repair, hcount, Component.isEmpty,
      Component.rolledDie?, Nat.pos_of_ne_zero hcount]

/-- With base dice, or where no type is named, the structure has the type of the description. -/
theorem hasType_canonical {found : Structure} (h : structure? damage system = some found)
    (htype : 0 < (diceCount damage system).val ∨ type damage = .untyped) :
    found.canonical.HasType (type damage) := by
  have hbase := canonical_base_of_structure? h
  obtain ⟨-, rfl⟩ := eq_of_structure? h
  refine ⟨?_, ?_, ?_, Structure.type_of_mem_canonical_extraDice fun e =>
    type_of_mem_traitEntries⟩
  · by_cases hcount : (diceCount damage system).val = 0
    · rw [if_pos hcount] at hbase
      rw [Structure.primaryType, hbase]
      exact (htype.resolve_left (Nat.not_lt_of_le (Nat.le_of_eq hcount))).symm
    · rw [if_neg hcount] at hbase
      rw [Structure.primaryType, hbase]
      exact type_base
  · intro c hc
    rw [hbase] at hc
    split at hc
    · cases hc
    · rw [List.mem_singleton.mp hc]
      exact type_base
  · exact List.forall_mem_singleton.mpr rfl

end WeaponDice

open WeaponDice

theorem exists_structure?_of_damage {d : Document} {place : Place} {s : Structure}
    (hshape : d.shape? = some ⟨.flat, place⟩) (h : d.damage = .ok s) :
    ∃ found, structure? (d.at place) d = some found ∧ s = found.canonical := by
  obtain ⟨shape, found, hshape', hread, -, rfl⟩ := Document.damage_eq_ok_iff.mp h
  cases hshape.symm.trans hshape'
  simp only [Shape.read] at hread
  split at hread
  · next hfound =>
    cases hread
    exact ⟨found, hfound, rfl⟩
  · cases hread

/-- All parts of a weapon have the type that its description names just when it has base dice or
the description names none. -/
theorem type_of_parts_iff {d : Document} {place : Place} {s : Structure}
    (hshape : d.shape? = some ⟨.flat, place⟩) (h : d.damage = .ok s) (o : HitOptions) :
    (∀ p ∈ s.assemble o, p.type = type (d.at place)) ↔
      0 < (diceCount (d.at place) d).val ∨ type (d.at place) = .untyped := by
  obtain ⟨found, hfound, rfl⟩ := exists_structure?_of_damage hshape h
  constructor
  · intro hall
    by_contra hnone
    obtain ⟨hcount, htype⟩ := not_or.mp hnone
    -- Without base dice the bonus is all that is left, and it is not zero as there is damage.
    have hzero : (diceCount (d.at place) d).val = 0 := Nat.eq_zero_of_not_pos hcount
    have hbase := canonical_base_of_structure? hfound
    rw [if_pos hzero] at hbase
    obtain ⟨hne, rfl⟩ := eq_of_structure? hfound
    have hbonus : bonusTotal bonusPaths d ≠ 0 := fun hbonus => hne ⟨hzero, hbonus⟩
    obtain ⟨p, hp, huntyped⟩ := exists_untyped_part hbase rfl hbonus o
    exact htype ((hall p hp).symm.trans huntyped)
  · exact fun htype _ hp => (hasType_canonical hfound htype).of_mem_assemble hp

/-- A rapier, whose deadly trait and bonus are piercing too on a critical hit. -/
theorem type_of_parts_iff_rapier :
    let d : Document := .record [("damage", .record [("dice", .whole 1), ("die", .text "d6"),
      ("damageType", .text "piercing")]), ("bonus", .whole 3), ("traits", .list [.text "deadly-d8"])]
    let o : HitOptions := ⟨true, false, .flatParts⟩
    d.shape? = some ⟨.flat, .damage⟩ ∧ 0 < (diceCount (d.at .damage) d).val ∧
    ∃ s, d.damage = .ok s ∧ (s.assemble o).length = 2 ∧
      ∀ p ∈ s.assemble o, p.type = type (d.at .damage) := by
  intro d o
  have hshape : d.shape? = some ⟨.flat, .damage⟩ := by decide +kernel
  have hcount : 0 < (diceCount (d.at .damage) d).val := by decide +kernel
  let piercing := type (d.at .damage)
  let s : Structure :=
    ⟨[.ofDice (.saturate 1) ⟨6, by decide, by decide⟩ piercing], [.new "modifier" (.saturate 3)],
      [.onCritical "deadly-d8" (.ofDice (.saturate 1) ⟨8, by decide, by decide⟩ piercing)]⟩
  have hs : d.damage = .ok s := by decide +kernel
  exact ⟨hshape, hcount, s, hs, by decide +kernel, (type_of_parts_iff hshape hs o).mpr (.inl hcount)⟩

/-- A torch without dice has a bonus to its fire damage, which is dealt untyped. -/
theorem exists_weapon_without_its_type :
    ¬∀ (d : Document) (place : Place) (s : Structure) (o : HitOptions),
      d.shape? = some ⟨.flat, place⟩ → d.damage = .ok s →
      ∀ p ∈ s.assemble o, p.type = type (d.at place) := by
  intro h
  let torch : Document := .record [("damage", .record [("dice", .whole 0), ("die", .null),
    ("damageType", .text "fire")]), ("bonus", .whole 3)]
  have hdamage : torch.damage = .ok ⟨[], [.new "modifier" (.saturate 3)], []⟩ := by
    decide +kernel
  exact absurd (h torch .damage _ default (by decide +kernel) hdamage) (by decide +kernel)

end CriticalDamage
