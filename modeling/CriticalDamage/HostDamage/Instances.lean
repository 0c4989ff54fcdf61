import CriticalDamage.HostDamage.Shape
import CriticalDamage.Damage.Structure
import CriticalDamage.Dice.Additive

/-!
# Damage instances

The keyed shape: a record of separate instances of damage, each an expression with a type and a
category. They are taken in the order of their keys: those that are numbers in numeric order, then
the others by their characters. An expression that is no sum counts as one four-sided die.
-/

namespace CriticalDamage.Instances

/-- The damage type of an instance. -/
def type (entry : Document) : DamageType :=
  let kind := entry.field "type"
  match (kind.text?.or (entry.field "damageType").text?).or (kind.field "value").text? with
  | some s => .ofName s.toList
  | none => .untyped

/-- The category of an instance. -/
def category (entry : Document) : Category :=
  let named := (entry.field "category").text?.or ((entry.field "type").field "subtype").text?
  match named with
  | some s => .ofName s.toList
  | none => .plain

/-- The number a key writes, if it writes one within 64 bits. -/
def keyNumber? (key : String) : Option Nat := Decimal.unsigned? Width.unsigned64 key.toList

/-- The order of keys. Different spellings of one number are ordered by their characters. -/
def compareKeys (a b : String) : Ordering :=
  match keyNumber? a, keyNumber? b with
  | some x, some y => (compare x y).then (compare a b)
  | some _, none => .lt
  | none, some _ => .gt
  | none, none => compare a b

/-- A sum's dice and flat value; one four-sided die stands for an expression that is no sum. -/
def parts (expression : String) : Dice.Additive :=
  match Dice.Additive.read expression with
  | .ok a => a
  | .error _ => ⟨[(1, ⟨4, by decide, by decide⟩)], 0⟩

/-- The components of a sum. The first has the flat value. -/
def components (type : DamageType) (category : Category) (a : Dice.Additive) : List Component :=
  match a.dice with
  | [] => if a.flat = 0 then [] else [{ Component.ofFlat a.flat type with category }]
  | (count, die) :: rest =>
    { Component.ofDice count die type with category, flat := a.flat } ::
      rest.map fun p => { Component.ofDice p.1 p.2 type with category }

/-- The components of one instance. -/
def ofEntry (entry : Document) : List Component :=
  match entry.expression? with
  | some expression => components (type entry) (category entry) (parts expression)
  | none => []

/-- The instances in the order of their keys. -/
def sorted (fields : List (String × Document)) : List (String × Document) :=
  fields.mergeSort fun a b => compareKeys a.1 b.1 != .gt

/-- The structure of a record of damage instances. -/
def toStructure (d : Document) : Structure :=
  match d with
  | .record fields => ⟨(sorted fields).flatMap fun f => ofEntry f.2, [], []⟩
  | _ => default

end CriticalDamage.Instances
