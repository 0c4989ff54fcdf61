import CriticalDamage.Number.Amount
import CriticalDamage.Text.Blank
import CriticalDamage.Text.Lowercase

/-!
# Actors

The actor who attacks has a name and modifiers for some of the six abilities.
-/

namespace CriticalDamage

/-- The six abilities. -/
inductive Ability where
  | strength
  | dexterity
  | constitution
  | intelligence
  | wisdom
  | charisma
deriving DecidableEq, Repr

namespace Ability

def all : List Ability := [.strength, .dexterity, .constitution, .intelligence, .wisdom, .charisma]

/-- The short name of an ability. -/
def text : Ability → String
  | .strength => "str"
  | .dexterity => "dex"
  | .constitution => "con"
  | .intelligence => "int"
  | .wisdom => "wis"
  | .charisma => "cha"

/-- The names of the abilities, short and long. -/
def names : List (String × Ability) :=
  [("str", .strength), ("strength", .strength), ("dex", .dexterity), ("dexterity", .dexterity),
    ("con", .constitution), ("constitution", .constitution), ("int", .intelligence),
    ("intelligence", .intelligence), ("wis", .wisdom), ("wisdom", .wisdom), ("cha", .charisma),
    ("charisma", .charisma)]

/-- The ability with exactly this name. -/
def named? (name : String) : Option Ability := (names.find? (·.1 == name)).map (·.2)

/-- A name that no ability has. -/
structure Unknown where
  name : String
deriving DecidableEq, Repr

def Unknown.message (e : Unknown) : String := "unknown ability: \"" ++ e.name ++ "\""

/-- The ability a name stands for, without regard to case and surrounding blanks. -/
def ofName (name : String) : Except Unknown Ability :=
  match named? (String.ofList (Text.lowercase (Text.trim name.toList))) with
  | some a => .ok a
  | none => .error ⟨name⟩

def ofDocument? (d : Document) : Option Ability := d.choice? names

def toDocument (a : Ability) : Document := .text a.text

end Ability

/-- The actor who attacks. -/
structure Actor where
  name : String
  /-- The modifiers that are on record. -/
  abilities : Ability → Option Amount

namespace Actor

/-- An actor without modifiers. -/
def new (name : String) : Actor := ⟨name, fun _ => none⟩

/-- The actor with a modifier, in the place of an earlier one for the same ability. -/
def withAbility (a : Actor) (ability : Ability) (modifier : Amount) : Actor :=
  { a with abilities := fun other => if other = ability then some modifier else a.abilities other }

/-- The modifier for an ability; zero if none is on record. -/
def modifier (a : Actor) (ability : Ability) : Amount := (a.abilities ability).getD 0

/-- How many modifiers are on record. -/
def recorded (a : Actor) : Nat := (Ability.all.filter fun x => (a.abilities x).isSome).length

/-- Reads a modifier: a number, or a block that holds it as `mod`. -/
def modifier? (d : Document) : Option Amount :=
  match d with
  | .whole _ => Amount.ofDocument? d
  | d =>
    if d.hasValue then
      match d.namedSlots [["mod"]] with
      | some [mod] => Document.required Amount.ofDocument? mod
      | _ => none
    else none

/-- Reads named modifiers in order, the last for each ability being kept. -/
def withFields? (a : Actor) : List (String × Document) → Option Actor
  | [] => some a
  | (name, d) :: rest => do
    let ability ← Ability.named? name
    let modifier ← modifier? d
    (a.withAbility ability modifier).withFields? rest

/-- The actor with the modifiers of a record. -/
def withRecord? (a : Actor) : Document → Option Actor
  | .record fields => a.withFields? fields
  | _ => none

def ofDocument? (d : Document) : Option Actor := do
  match ← d.slots [["name"], ["abilities"]] with
  | [name, abilities] =>
    let name ← Document.orDefault "" Document.text? name
    Document.orDefault (new name) (new name).withRecord? abilities
  | _ => none

def toDocument (a : Actor) : Document :=
  .record [("name", .text a.name),
    ("abilities", .record (Ability.all.filterMap fun x =>
      (a.abilities x).map fun m => (x.text, m.toDocument)))]

end Actor

end CriticalDamage
