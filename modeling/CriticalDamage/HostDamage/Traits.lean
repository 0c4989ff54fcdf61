import CriticalDamage.Damage.Structure
import CriticalDamage.Text.Split

/-!
# Traits

Items carry traits, short words such as `thrown` or `deadly-d8`. A deadly trait adds dice on a
critical hit: one die of the size after the hyphen, or as many as are counted before the `d`.
-/

namespace CriticalDamage

/-- The traits in an item's data, trimmed and in lowercase: the list `traits.value`, or `traits`
itself. -/
def traitsOf (system : Document) : List String :=
  let traits := system.field "traits"
  let listed := match (traits.get? "value").bind Document.items? with
    | some items => items
    | none => (traits.items?).getD []
  (listed.filterMap Document.text?).map fun s =>
    String.ofList (Text.lowercase (Text.trim s.toList))

/-- The traits whose dice are rolled on a critical hit. -/
def criticalDiceTraits : List (List Char) := [['d', 'e', 'a', 'd', 'l', 'y']]

/-- Reads the dice after the hyphen of a trait: a die, or a count and a die. -/
def traitDice? (suffix : List Char) : Option (Count × Die) :=
  match Text.splitOnce? 'd' suffix with
  | some ([], sides) => (Die.ofTag? sides).map (1, ·)
  | some (count, sides) => do
    let n ← Decimal.unsigned? Width.unsigned32 count
    let count ← Count.ofNat? n
    let die ← Die.ofTag? sides
    return (count, die)
  | none => (Die.ofTag? suffix).map (1, ·)

/-- The extra dice of a trait, if it has any. -/
def criticalDice? (type : DamageType) (token : String) : Option ExtraDice := do
  let (name, suffix) ← Text.splitOnce? '-' token.toList
  if !criticalDiceTraits.contains name then none
  let (count, die) ← traitDice? suffix
  return .onCritical token (.ofDice count die type)

/-- The extra dice of a list of traits, in order. -/
def traitEntries (type : DamageType) (traits : List String) : List ExtraDice :=
  traits.filterMap (criticalDice? type)

end CriticalDamage
