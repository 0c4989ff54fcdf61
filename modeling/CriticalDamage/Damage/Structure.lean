import CriticalDamage.Damage.Category
import CriticalDamage.Dice.Die

/-!
# Damage structures

The damage of one attack: base components, flat modifiers and extra dice, each with a damage type
and perhaps a category. `Structure.canonical` removes what takes no part in a roll and repairs the
rest: inactive entries go, a die without a count and a count without a die are cleared, a component
that contributes nothing goes, and extra dice agree with their component on being critical-only.
-/

namespace CriticalDamage

/-- Dice of one size and a flat value. Without a die, or without a count, no dice are rolled. -/
structure Component where
  count : Count
  die : Option Die
  flat : Amount
  type : DamageType
  category : Category
  /-- The damage is dealt on a critical hit only. -/
  criticalOnly : Bool
deriving DecidableEq, Repr

namespace Component

/-- Dice without a flat value. -/
def ofDice (count : Count) (die : Die) (type : DamageType) : Component :=
  ⟨count, some die, 0, type, .plain, false⟩

/-- A flat value without dice. -/
def ofFlat (flat : Amount) (type : DamageType) : Component :=
  ⟨0, none, flat, type, .plain, false⟩

/-- The die, if any dice are rolled. -/
def rolledDie? (c : Component) : Option Die := if 0 < c.count.val then c.die else none

/-- There is a die just when there is a count. -/
def isValid (c : Component) : Bool := (0 < c.count.val) == c.die.isSome

/-- The component adds neither dice nor a flat value. -/
def isEmpty (c : Component) : Bool := c.rolledDie?.isNone && c.flat == 0

/-- The highest total of the dice. An expression has it in 64 bits and a sign
(`Component.BonusFits`). -/
def maxDice (c : Component) : Nat :=
  match c.rolledDie? with
  | some die => c.count.val * die.sides
  | none => 0

/-- Clears a die without a count and a count without a die. -/
def repair (c : Component) : Component :=
  match c.die with
  | some _ => if c.count.val = 0 then { c with die := none } else c
  | none => { c with count := 0 }

end Component

/-- A flat modifier. Without a type of its own it has the type of the base damage. -/
structure Modifier where
  label : String
  value : Amount
  category : Category
  type : Option DamageType
  enabled : Bool
  ignored : Bool
  criticalOnly : Bool
deriving DecidableEq, Repr

namespace Modifier

/-- An enabled modifier of the base damage's type. -/
def new (label : String) (value : Amount) : Modifier :=
  ⟨label, value, .plain, none, true, false, false⟩

/-- The modifier takes part in rolls. -/
def isActive (m : Modifier) : Bool := m.enabled && !m.ignored

end Modifier

/-- Extra dice. -/
structure ExtraDice where
  label : String
  component : Component
  criticalOnly : Bool
  enabled : Bool
  ignored : Bool
deriving DecidableEq, Repr

namespace ExtraDice

/-- Enabled extra dice that are rolled on every hit. -/
def new (label : String) (component : Component) : ExtraDice :=
  ⟨label, component, false, true, false⟩

/-- Enabled extra dice that are rolled on a critical hit only. -/
def onCritical (label : String) (component : Component) : ExtraDice :=
  ⟨label, { component with criticalOnly := true }, true, true, false⟩

/-- The dice take part in rolls. -/
def isActive (e : ExtraDice) : Bool := e.enabled && !e.ignored

/-- Repairs the component; either flag makes both critical-only. -/
def repair (e : ExtraDice) : ExtraDice :=
  let criticalOnly := e.criticalOnly || e.component.criticalOnly
  { e with
    component := { e.component.repair with criticalOnly }
    criticalOnly }

end ExtraDice

/-- The damage of one attack. -/
structure Structure where
  base : List Component
  modifiers : List Modifier
  extraDice : List ExtraDice
deriving DecidableEq, Repr

namespace Structure

instance : Inhabited Structure := ⟨⟨[], [], []⟩⟩

/-- The structure has no entries. -/
def isEmpty (s : Structure) : Bool :=
  s.base.isEmpty && s.modifiers.isEmpty && s.extraDice.isEmpty

/-- The type of the first base component. -/
def primaryType (s : Structure) : DamageType :=
  match s.base with
  | c :: _ => c.type
  | [] => .untyped

/-- Some base component rolls dice. -/
def hasBaseDice (s : Structure) : Bool := s.base.any (·.rolledDie?.isSome)

/-- The structure with only the entries that contribute, each repaired. -/
def canonical (s : Structure) : Structure where
  base := (s.base.map Component.repair).filter fun c => !c.isEmpty
  modifiers := s.modifiers.filter Modifier.isActive
  extraDice := ((s.extraDice.filter ExtraDice.isActive).map ExtraDice.repair).filter
    fun e => !e.component.isEmpty

end Structure

end CriticalDamage
