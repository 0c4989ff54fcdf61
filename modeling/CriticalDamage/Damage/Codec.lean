import CriticalDamage.Damage.Structure

/-!
# Documents of damage structures

The written form of structures and their parts, and how it is read back. Extra dice are written as
the fields of their component beside their own, so they are read by name only.
-/

namespace CriticalDamage

open Document

def DamageType.toDocument (t : DamageType) : Document := .text t.text

/-- Reads a name, or `null` for the untyped. -/
def DamageType.ofDocument? : Document → Option DamageType
  | .text s => some (ofName s.toList)
  | .null => some untyped
  | _ => none

def Category.toDocument (c : Category) : Document := Document.ofText? (c.tag?.map String.ofList)

/-- Reads a name, or `null` for no category. -/
def Category.ofDocument? : Document → Option Category
  | .text s => some (ofName s.toList)
  | .null => some .plain
  | _ => none

namespace Component

/-- The fields of a written component. -/
def toFields (c : Component) : List (String × Document) :=
  [("diceCount", c.count.toDocument),
    ("dieSize", match c.die with
      | some die => die.toDocument
      | none => .null),
    ("flatModifier", c.flat.toDocument),
    ("damageType", c.type.toDocument),
    ("category", c.category.toDocument),
    ("appliesOnCriticalOnly", .bool c.criticalOnly)]

def toDocument (c : Component) : Document := .record c.toFields

/-- The fields of a component, in order. -/
def spellings : List (List String) :=
  [["diceCount"], ["dieSize"], ["flatModifier"], ["damageType"], ["category"],
    ["appliesOnCriticalOnly"]]

/-- Reads a component from its fields, all of which may be left out. -/
def ofSlots? : List (Option Document) → Option Component
  | [count, die, flat, type, category, criticalOnly] => do
    return {
      count := ← orDefault 0 Count.ofDocument? count
      die := ← optional Die.ofDocument? die
      flat := ← orDefault 0 Amount.ofDocument? flat
      type := ← orDefault .untyped DamageType.ofDocument? type
      category := ← orDefault .plain Category.ofDocument? category
      criticalOnly := ← orDefault false bool? criticalOnly }
  | _ => none

def ofDocument? (d : Document) : Option Component := d.slots spellings >>= ofSlots?

end Component

namespace Modifier

/-- The written form leaves out a type that is not given. -/
def toDocument (m : Modifier) : Document :=
  .record (
    [("label", .text m.label), ("value", m.value.toDocument),
      ("category", m.category.toDocument)] ++
    (match m.type with
      | some type => [("damageType", type.toDocument)]
      | none => []) ++
    [("enabled", .bool m.enabled), ("ignored", .bool m.ignored),
      ("criticalOnly", .bool m.criticalOnly)])

/-- Reads a modifier, which must have a value. -/
def ofDocument? (d : Document) : Option Modifier := do
  match ← d.slots [["label"], ["value"], ["category"], ["damageType"], ["enabled"], ["ignored"],
      ["criticalOnly"]] with
  | [label, value, category, type, enabled, ignored, criticalOnly] =>
    return {
      label := ← orDefault "" text? label
      value := ← required Amount.ofDocument? value
      category := ← orDefault .plain Category.ofDocument? category
      type := ← optional DamageType.ofDocument? type
      enabled := ← orDefault true bool? enabled
      ignored := ← orDefault false bool? ignored
      criticalOnly := ← orDefault false bool? criticalOnly }
  | _ => none

end Modifier

namespace ExtraDice

def toDocument (e : ExtraDice) : Document :=
  .record (("label", .text e.label) :: e.component.toFields ++
    [("criticalOnly", .bool e.criticalOnly), ("enabled", .bool e.enabled),
      ("ignored", .bool e.ignored)])

def ofDocument? (d : Document) : Option ExtraDice := do
  match ← d.namedSlots [["label"], ["criticalOnly"], ["enabled"], ["ignored"]] with
  | [label, criticalOnly, enabled, ignored] =>
    return {
      label := ← orDefault "" text? label
      component := ← d.namedSlots Component.spellings >>= Component.ofSlots?
      criticalOnly := ← orDefault false bool? criticalOnly
      enabled := ← orDefault true bool? enabled
      ignored := ← orDefault false bool? ignored }
  | _ => none

end ExtraDice

namespace Structure

def toDocument (s : Structure) : Document :=
  .record [("base", .list (s.base.map Component.toDocument)),
    ("modifiers", .list (s.modifiers.map Modifier.toDocument)),
    ("extraDice", .list (s.extraDice.map ExtraDice.toDocument))]

def ofDocument? (d : Document) : Option Structure := do
  match ← d.slots [["base"], ["modifiers"], ["extraDice"]] with
  | [base, modifiers, extraDice] =>
    return {
      base := ← orDefault [] (listOf? Component.ofDocument?) base
      modifiers := ← orDefault [] (listOf? Modifier.ofDocument?) modifiers
      extraDice := ← orDefault [] (listOf? ExtraDice.ofDocument?) extraDice }
  | _ => none

end Structure

end CriticalDamage
