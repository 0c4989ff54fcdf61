import CriticalDamage.Proofs.InstanceDamage
import CriticalDamage.Proofs.WeaponTypes
import Mathlib

/-!
# Shapes that are passed over

A document may describe damage in several shapes, and the first one that is present is taken,
whatever is left of it. A description is barren if all its parts can be read and nothing is left of
them in canonical form (`isBarren_iff`). So a document gives no damage just when the first shape
present is barren, and then the shapes after it may still yield some (`damage_eq_noDamage_iff`).
-/

namespace CriticalDamage

/-- The shapes in which a document describes damage, in the order in which they are looked for. -/
def Document.shapes (d : Document) : List Shape := Shape.candidates.filter d.hasShape

theorem Document.shape?_eq_head? (d : Document) : d.shape? = d.shapes.head? :=
  List.head?_filter.symm

namespace Shape

/-- The description of the given shape is read, and canonical form leaves some of it. -/
def YieldsDamage (s : Shape) (d : Document) : Prop :=
  ∃ found, s.read d = .ok found ∧ found.canonical.isEmpty = false

/-- Nothing is left of the description of the given shape: of a detailed one no entry adds
anything, a flat one has neither dice nor a bonus, and every instance of a keyed one is a sum of no
dice and of total zero. -/
def IsBarren (s : Shape) (d : Document) : Prop :=
  match s.form with
  | .rich => ∃ found, Detailed.structure? (d.at s.place) = some found ∧ found.AddsNothing
  | .flat => (WeaponDice.diceCount (d.at s.place) d).val = 0 ∧ bonusTotal bonusPaths d = 0
  | .keyed => ∃ fields, d.at s.place = .record fields ∧ ∀ f ∈ fields, Instances.AddsNothing f.2

/-- The description of the given shape gives no damage. -/
def ReadsNothing (s : Shape) (d : Document) : Prop :=
  s.read d = .error .noDamage ∨ ∃ found, s.read d = .ok found ∧ found.canonical.isEmpty = true

theorem readsNothing_iff {s : Shape} {d : Document} :
    s.ReadsNothing d ↔ s.read d ≠ .error .malformed ∧ ¬s.YieldsDamage d := by
  rw [ReadsNothing, YieldsDamage]
  cases s.read d with
  | error e => cases e <;> simp
  | ok found => simp

variable {d : Document} {place : Place}

theorem readsNothing_rich_iff :
    ReadsNothing ⟨.rich, place⟩ d ↔ IsBarren ⟨.rich, place⟩ d := by
  rw [ReadsNothing, IsBarren, read]
  cases Detailed.structure? (d.at place) with
  | none => simp
  | some found => simp [Structure.isEmpty_canonical_iff]

/-- The bonus of a flat description that is read stays in canonical form, even a bonus of zero. -/
theorem readsNothing_flat_iff :
    ReadsNothing ⟨.flat, place⟩ d ↔ IsBarren ⟨.flat, place⟩ d := by
  rw [ReadsNothing, IsBarren, read]
  dsimp only
  cases hfound : WeaponDice.structure? (d.at place) d with
  | none =>
    refine iff_of_true (.inl rfl) ?_
    rw [WeaponDice.structure?] at hfound
    split at hfound
    · next h => exact h
    · cases hfound
  | some found =>
    obtain ⟨hne, rfl⟩ := WeaponDice.eq_of_structure? hfound
    refine iff_of_false ?_ hne
    rintro (h | ⟨found, h, hempty⟩)
    · cases h
    · cases h
      have hbonus := (Structure.isEmpty_canonical_iff.mp hempty).modifiers _ List.mem_cons_self
      cases hbonus

theorem readsNothing_keyed_iff (h : d.hasShape ⟨.keyed, place⟩ = true) :
    ReadsNothing ⟨.keyed, place⟩ d ↔ IsBarren ⟨.keyed, place⟩ d := by
  obtain ⟨fields, hfields, hexpressions⟩ := exists_fields_of_hasShape h
  have hempty := Instances.isEmpty_toStructure_iff hexpressions
  rw [ReadsNothing, IsBarren, read]
  simp [hfields, Structure.canonical_eq_self (Instances.isCanonical_toStructure fields), hempty]

/-- A description that is present is barren just when it can be read and yields no damage. -/
theorem isBarren_iff {s : Shape} (h : d.hasShape s = true) :
    s.IsBarren d ↔ s.read d ≠ .error .malformed ∧ ¬s.YieldsDamage d := by
  rw [← readsNothing_iff]
  obtain ⟨form, place⟩ := s
  cases form with
  | rich => exact readsNothing_rich_iff.symm
  | flat => exact readsNothing_flat_iff.symm
  | keyed => exact (readsNothing_keyed_iff h).symm

end Shape

theorem hasShape_of_mem_shapes {d : Document} {s : Shape} (h : s ∈ d.shapes) :
    d.hasShape s = true := (List.mem_filter.mp h).2

theorem damage_eq_noDamage_iff_readsNothing {d : Document} {s : Shape}
    (hshape : d.shape? = some s) : d.damage = .error .noDamage ↔ s.ReadsNothing d := by
  rw [Document.damage, hshape, Shape.ReadsNothing]
  dsimp only
  cases s.read d with
  | error e => simp
  | ok found => cases hempty : found.canonical.isEmpty <;> simp [hempty]

theorem damage_eq_noDamage_iff_head {d : Document} :
    d.damage = .error .noDamage ↔ ∀ s ∈ d.shapes.head?, s.IsBarren d := by
  cases hshapes : d.shapes with
  | nil =>
    have hnone : d.shape? = none := by rw [d.shape?_eq_head?, hshapes, List.head?_nil]
    refine iff_of_true ?_ nofun
    rw [Document.damage, hnone]
  | cons s rest =>
    have hsome : d.shape? = some s := by rw [d.shape?_eq_head?, hshapes, List.head?_cons]
    have hpresent : d.hasShape s = true :=
      hasShape_of_mem_shapes (hshapes ▸ List.mem_cons_self)
    rw [damage_eq_noDamage_iff_readsNothing hsome, Shape.readsNothing_iff,
      ← Shape.isBarren_iff hpresent]
    constructor
    · intro h t ht
      cases ht
      exact h
    · exact fun h => h s rfl

/-- A document gives no damage just when the first shape present, if there is one, is barren. Then
no shape yields damage just when none after the first does. -/
theorem damage_eq_noDamage_iff (d : Document) :
    (∀ s ∈ d.shapes, s.IsBarren d ↔ s.read d ≠ .error .malformed ∧ ¬s.YieldsDamage d) ∧
    (d.damage = .error .noDamage ↔ ∀ s ∈ d.shapes.head?, s.IsBarren d) ∧
    (d.damage = .error .noDamage →
      ((∀ s ∈ d.shapes, ¬s.YieldsDamage d) ↔ ∀ s ∈ d.shapes.tail, ¬s.YieldsDamage d)) := by
  have hbarren : ∀ s ∈ d.shapes, s.IsBarren d ↔
      s.read d ≠ .error .malformed ∧ ¬s.YieldsDamage d :=
    fun s hs => Shape.isBarren_iff (hasShape_of_mem_shapes hs)
  refine ⟨hbarren, damage_eq_noDamage_iff_head, fun hdamage => ?_⟩
  have hhead := damage_eq_noDamage_iff_head.mp hdamage
  cases hshapes : d.shapes with
  | nil => rfl
  | cons s rest =>
    rw [hshapes] at hbarren hhead
    have hfirst : ¬s.YieldsDamage d :=
      ((hbarren s List.mem_cons_self).mp (hhead s rfl)).2
    rw [List.forall_mem_cons, List.tail_cons]
    exact and_iff_right hfirst

/-- Neither the dice of a weapon nor its only instance add anything, and it gives no damage. -/
theorem damage_eq_noDamage_iff_harmless :
    let d : Document := .record [("damage", .record [("dice", .whole 0)]),
      ("damageRolls", .record [("0", .record [("damage", .text "0")])])]
    d.shapes = [⟨.flat, .damage⟩, ⟨.keyed, .damageRolls⟩] ∧
    d.damage = .error .noDamage ∧ ∀ s ∈ d.shapes, ¬s.YieldsDamage d := by
  intro d
  have hshapes : d.shapes = [⟨.flat, .damage⟩, ⟨.keyed, .damageRolls⟩] := by decide +kernel
  obtain ⟨hbarren, hdamage, hexhausted⟩ := damage_eq_noDamage_iff d
  rw [hshapes] at hbarren hdamage hexhausted
  have hflat : Shape.IsBarren ⟨.flat, .damage⟩ d := by
    rw [Shape.IsBarren]
    decide +kernel
  have hkeyed : Shape.IsBarren ⟨.keyed, .damageRolls⟩ d := by
    refine ⟨_, rfl, List.forall_mem_singleton.mpr ⟨"0", ⟨[], 0⟩, rfl, ?_, rfl, rfl⟩⟩
    decide +kernel
  have hnone : d.damage = .error .noDamage := by
    refine hdamage.mpr fun s hs => ?_
    cases hs
    exact hflat
  refine ⟨hshapes, hnone, ?_⟩
  rw [hshapes]
  refine (hexhausted hnone).mpr ?_
  exact List.forall_mem_singleton.mpr ((hbarren _ (.tail _ List.mem_cons_self)).mp hkeyed).2

/-- A weapon without dice is passed over with the fire damage it also describes. -/
theorem exists_damage_passed_over :
    ¬∀ d : Document, d.damage = .error .noDamage → ∀ s ∈ d.shapes, ¬s.YieldsDamage d := by
  intro h
  let fire : List (String × Document) :=
    [("0", .record [("damage", .text "2d6+3"), ("damageType", .text "fire")])]
  let d : Document := .record [("damage", .record [("dice", .whole 0)]),
    ("damageRolls", .record fire)]
  refine h d (by decide +kernel) ⟨.keyed, .damageRolls⟩ (by decide +kernel)
    ⟨Instances.toStructure (.record fire), rfl, ?_⟩
  rw [Structure.canonical_eq_self (Instances.isCanonical_toStructure fire), ← Bool.not_eq_true,
    Instances.isEmpty_toStructure_iff (by decide +kernel)]
  intro hadds
  obtain ⟨expression, a, hexpression, ha, hdice, -⟩ := hadds _ List.mem_cons_self
  cases hexpression
  have hread : Dice.Additive.read "2d6+3" =
      .ok ⟨[(.saturate 2, ⟨6, by decide, by decide⟩)], .saturate 3⟩ := by decide +kernel
  cases hread.symm.trans ha
  cases hdice

end CriticalDamage
