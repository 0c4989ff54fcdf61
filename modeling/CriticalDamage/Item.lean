import CriticalDamage.Document.Record
import CriticalDamage.HostDamage.Traits

/-!
# Items

An item has an identifier, a name, a kind and its host data, in which damage, runes, traits and
bonuses are found.
-/

namespace CriticalDamage

/-- The kind of an item. The attacks of monsters are `strike`s, which hosts call `melee`. -/
inductive ItemKind where
  | weapon
  | strike
  | spell
  | consumable
  | custom (name : String)
deriving DecidableEq, Repr

namespace ItemKind

/-- The kind a name stands for, without regard to case and surrounding blanks. -/
def ofName (name : List Char) : ItemKind :=
  match String.ofList (Text.lowercase (Text.trim name)) with
  | "weapon" => .weapon
  | "melee" | "strike" => .strike
  | "spell" => .spell
  | "consumable" => .consumable
  | other => .custom other

def text : ItemKind → String
  | .weapon => "weapon"
  | .strike => "melee"
  | .spell => "spell"
  | .consumable => "consumable"
  | .custom name => name

/-- Attacks are made with items of this kind. -/
def isWeapon : ItemKind → Bool
  | .weapon | .strike => true
  | _ => false

def ofDocument? (d : Document) : Option ItemKind := d.text?.map fun s => ofName s.toList

def toDocument (k : ItemKind) : Document := .text k.text

end ItemKind

/-- An item of a host. -/
structure Item where
  id : String
  name : String
  kind : ItemKind
  system : Document

namespace Item

/-- Reads an item, which must have a type. One without an identifier is given `freshId`. -/
def ofDocument? (freshId : String) (d : Document) : Option Item := do
  match ← d.slots [["id", "_id"], ["name"], ["type"], ["system"]] with
  | [id, name, kind, system] =>
    return {
      id := ← Document.orDefault freshId Document.text? id
      name := ← Document.orDefault "" Document.text? name
      kind := ← Document.required ItemKind.ofDocument? kind
      system := ← Document.orDefault .null Document.any? system }
  | _ => none

def toDocument (i : Item) : Document :=
  .record [("id", .text i.id), ("name", .text i.name), ("type", i.kind.toDocument),
    ("system", i.system)]

/-- The item's traits, trimmed and in lowercase. -/
def traits (i : Item) : List String := traitsOf i.system

/-- The item has a trait, without regard to case. -/
def hasTrait (i : Item) (name : String) : Bool :=
  i.traits.contains (String.ofList (Text.lowercase name.toList))

/-- The item is an unarmed attack, by a trait or by its category. -/
def isUnarmed (i : Item) : Bool :=
  i.hasTrait "unarmed" ||
    match (i.system.field "category").text? with
    | some s => s.toList.map Char.toLower == "unarmed".toList
    | none => false

/-- A whole number within 64 bits and a sign. -/
def increment? : Document → Option Int
  | .whole n => if n < Width.signed64 then some n else none
  | _ => none

/-- The item is a ranged attack: it has a positive range increment, or a trait that begins with
`range-`. -/
def isRanged (i : Item) : Bool :=
  let range := i.system.field "range"
  let increment := (increment? range).or ((range.get? "increment").bind increment?)
  decide (0 < increment.getD 0) || i.traits.any fun t => "range-".toList.isPrefixOf t.toList

end Item

end CriticalDamage
