import CriticalDamage.Actor
import CriticalDamage.HostDamage.Normal
import CriticalDamage.Item

/-!
# Estimates

When no damage roll of an item is known, its damage is estimated from its weapon dice, its bonuses
and the strength of its owner. What else may add to the damage is not known, so an estimate may miss
something.
-/

namespace CriticalDamage

/-- The strength that a weapon adds to its damage: all of it for melee and thrown weapons, half of
it for propulsive ones, none for other ranged weapons and unarmed attacks, and never a negative
one. -/
def strengthBonus (item : Item) (actor : Actor) : Amount :=
  let strength := actor.modifier .strength
  if strength.val ≤ 0 || !item.kind.isWeapon || item.isUnarmed then 0
  else if item.traits.any (fun t => t == "thrown" || "thrown-".toList.isPrefixOf t.toList) ||
      !item.isRanged then
    strength
  else if item.hasTrait "propulsive" then .saturate (strength.val / 2)
  else 0

/-- The item has no weapon dice. -/
structure NoBaseDice where
deriving DecidableEq, Repr

def NoBaseDice.message (_ : NoBaseDice) : String := "no base dice found on item"

/-- The estimated damage of an item in the hands of an actor, where the sums of bonuses fit. -/
def estimate (item : Item) (actor : Option Actor) : Except NoBaseDice Structure :=
  match item.system.shape? with
  | some ⟨.flat, place⟩ =>
    match WeaponDice.structure? (item.system.at place) item.system with
    | none => .error ⟨⟩
    | some s =>
      if s.hasBaseDice then
        let strength := match actor with
          | some a => strengthBonus item a
          | none => 0
        let added := if 0 < strength.val then [Modifier.new "strength" strength] else []
        .ok (Structure.canonical { s with modifiers := s.modifiers ++ added })
      else .error ⟨⟩
  | _ => .error ⟨⟩

end CriticalDamage
