import CriticalDamage.HostDamage.BonusPath
import CriticalDamage.HostDamage.Traits

/-!
# Weapon dice

The flat shape: a number of dice, a die and a type. Striking runes add dice to the weapon's own, all
bonuses of the item's data make one modifier, and its traits may add extra dice.
-/

namespace CriticalDamage.WeaponDice

/-- Reads a die from a tag or a number of sides. -/
def die? : Document → Option Die
  | .text s => Die.ofTag? s.toList
  | .whole n => if 0 ≤ n then Die.ofSides? n.toNat else none
  | _ => none

/-- Reads a count from a bonus; a negative one counts as zero. -/
def count? (d : Document) : Option Count := do
  let n ← d.bonus?
  Count.ofNat? n.toNat

/-- The most dice that striking runes add. -/
def maxStriking : Nat := 3

/-- The dice of a named grade of striking rune. -/
def gradeDice (grade : List Char) : Nat :=
  let grade := String.ofList ((Text.trim grade).map Char.toLower)
  if grade = "striking" then 1
  else if grade = "greaterstriking" then 2
  else if grade = "majorstriking" then 3
  else 0

/-- The dice added by a striking rune: the number `runes.striking`, or else the grade
`strikingRune.value`. -/
def strikingDice (system : Document) : Nat :=
  let fromRunes := (count? ((system.field "runes").field "striking")).map (·.val)
  let fromGrade := ((system.field "strikingRune").field "value").text?.map fun s =>
    gradeDice s.toList
  min ((fromRunes.or fromGrade).getD 0) maxStriking

/-- The damage type that the description names. -/
def type (damage : Document) : DamageType :=
  match ["damageType", "type"].findSome? fun name => (damage.field name).text? with
  | some s => .ofName s.toList
  | none => .untyped

/-- The number of base dice, runes included; none without a die. -/
def diceCount (damage system : Document) : Count :=
  match die? (damage.field "die") with
  | some _ =>
    let listed := ((count? (damage.field "dice")).map (·.val)).getD 1
    .saturate (listed + strikingDice system)
  | none => 0

/-- The base component. -/
def base (damage system : Document) : Component :=
  match die? (damage.field "die") with
  | some die =>
    if (diceCount damage system).val = 0 then .ofFlat 0 (type damage)
    else .ofDice (diceCount damage system) die (type damage)
  | none => .ofFlat 0 (type damage)

/-- The structure of a flat description within an item's data, unless it has neither dice nor a
bonus. -/
def structure? (damage system : Document) : Option Structure :=
  let bonus := bonusTotal bonusPaths system
  if (diceCount damage system).val = 0 ∧ bonus = 0 then none
  else some {
    base := [base damage system]
    modifiers := [.new "modifier" bonus]
    extraDice := traitEntries (type damage) (traitsOf system) }

end CriticalDamage.WeaponDice
