import CriticalDamage.Damage.Codec

/-!
# Detailed damage

The detailed shape: base components, modifiers and extra dice under the names a host uses for them,
or under the names of a written structure. What is left out or `null` has its usual value; extra
dice without a type have that of the first base component.
-/

namespace CriticalDamage.Detailed

open Document

/-- A base component. -/
def component? (d : Document) : Option Component := do
  match ← d.slots [["diceNumber", "diceCount"], ["dieSize"], ["modifier", "flatModifier"],
      ["damageType"], ["category"], ["appliesOnCriticalOnly"]] with
  | [count, die, flat, type, category, criticalOnly] =>
    let count ← optional Count.ofDocument? count
    let die ← optional Die.ofDocument? die
    let flat ← optional Amount.ofDocument? flat
    let type ← optional text? type
    let category ← orDefault .plain Category.ofDocument? category
    let criticalOnly ← optional bool? criticalOnly
    return {
      count := count.getD 0
      die
      flat := flat.getD 0
      type := match type with
        | some s => .ofName s.toList
        | none => .untyped
      category
      criticalOnly := criticalOnly.getD false }
  | _ => none

/-- The type that a text names, unless the text is blank. -/
def namedType? (name : Option String) : Option DamageType :=
  match name with
  | some s => if (Text.trim s.toList).isEmpty then none else some (.ofName s.toList)
  | none => none

/-- A modifier, which must have a value. -/
def modifier? (d : Document) : Option Modifier := do
  match ← d.slots [["label"], ["slug"], ["modifier", "value"], ["damageType"],
      ["damageCategory"], ["category"], ["enabled"], ["ignored"], ["critical", "criticalOnly"]] with
  | [label, slug, value, type, damageCategory, category, enabled, ignored, critical] =>
    let label ← optional text? label
    let slug ← optional text? slug
    let value ← required Amount.ofDocument? value
    let type ← optional text? type
    let damageCategory ← optional text? damageCategory
    let category ← optional text? category
    let enabled ← optional bool? enabled
    let ignored ← optional bool? ignored
    let critical ← optional bool? critical
    return {
      label := (label.or slug).getD ""
      value
      category := match damageCategory.or category with
        | some s => .ofName s.toList
        | none => .plain
      type := namedType? type
      enabled := enabled.getD true
      ignored := ignored.getD false
      criticalOnly := critical.getD false }
  | _ => none

/-- Extra dice; `primary` is the type of dice that have none. -/
def extraDice? (d : Document) : Option (DamageType → ExtraDice) := do
  match ← d.slots [["label"], ["slug"], ["diceNumber", "diceCount"], ["dieSize"],
      ["modifier", "flatModifier"], ["damageType"], ["category"], ["critical", "criticalOnly"],
      ["appliesOnCriticalOnly"], ["enabled"], ["ignored"]] with
  | [label, slug, count, die, flat, type, category, critical, applies, enabled, ignored] =>
    let label ← optional text? label
    let slug ← optional text? slug
    let count ← optional Count.ofDocument? count
    let die ← optional Die.ofDocument? die
    let flat ← optional Amount.ofDocument? flat
    let type ← optional text? type
    let category ← orDefault .plain Category.ofDocument? category
    let critical ← optional bool? critical
    let applies ← optional bool? applies
    let enabled ← optional bool? enabled
    let ignored ← optional bool? ignored
    let criticalOnly := critical.getD false || applies.getD false
    return fun primary => {
      label := (label.or slug).getD ""
      component := {
        count := count.getD 0
        die
        flat := flat.getD 0
        type := (namedType? type).getD primary
        category
        criticalOnly }
      criticalOnly
      enabled := enabled.getD true
      ignored := ignored.getD false }
  | _ => none

/-- The structure of a detailed description, if all its parts can be read. -/
def structure? (d : Document) : Option Structure := do
  match ← d.slots [["base"], ["modifiers"], ["dice", "extraDice"]] with
  | [base, modifiers, dice] =>
    let base ← orDefault [] (listOf? component?) base
    let modifiers ← orDefault [] (listOf? modifier?) modifiers
    let dice ← orDefault [] (listOf? extraDice?) dice
    let primary := (Structure.mk base [] []).primaryType
    return ⟨base, modifiers, dice.map (· primary)⟩
  | _ => none

end CriticalDamage.Detailed
