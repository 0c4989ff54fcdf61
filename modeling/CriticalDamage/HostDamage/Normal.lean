import CriticalDamage.HostDamage.Detailed
import CriticalDamage.HostDamage.Instances
import CriticalDamage.HostDamage.WeaponDice

/-!
# Damage found in host data

A document's description of damage is read according to its shape and brought into canonical form.
A description of which nothing is left counts as none.
-/

namespace CriticalDamage

/-- Why a document gives no damage. -/
inductive DamageError where
  | noDamage
  /-- A detailed description has a part that cannot be read. -/
  | malformed
deriving DecidableEq, Repr

/-- The structure of a description of the given shape, before it is brought into canonical form. -/
def Shape.read (s : Shape) (d : Document) : Except DamageError Structure :=
  match s.form with
  | .rich =>
    match Detailed.structure? (d.at s.place) with
    | some found => .ok found
    | none => .error .malformed
  | .flat =>
    match WeaponDice.structure? (d.at s.place) d with
    | some found => .ok found
    | none => .error .noDamage
  | .keyed => .ok (Instances.toStructure (d.at s.place))

/-- The damage that a document describes, where the sums of bonuses fit (`Document.BonusesFit`). -/
def Document.damage (d : Document) : Except DamageError Structure :=
  match d.shape? with
  | none => .error .noDamage
  | some shape =>
    match shape.read d with
    | .error e => .error e
    | .ok found => if found.canonical.isEmpty then .error .noDamage else .ok found.canonical

/-- The sums of bonuses fit that are formed when the document's damage is read, which is done for
flat descriptions. -/
def Document.BonusesFit (d : Document) : Prop :=
  ∀ shape ∈ d.shape?, shape.form = .flat → CriticalDamage.BonusesFit bonusPaths d

instance : DecidablePred Document.BonusesFit := fun d =>
  inferInstanceAs (Decidable (∀ shape ∈ d.shape?, _))

end CriticalDamage
