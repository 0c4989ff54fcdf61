import CriticalDamage.Actor
import CriticalDamage.Dice.Rolled
import CriticalDamage.Item
import CriticalDamage.Outcome

/-!
# Chat

What a host reports of its chat and what is posted there: new entries with the rolls on them,
entries that show an attack, and the messages of a session.
-/

namespace CriticalDamage

/-- Who can see a message. -/
inductive Visibility where
  | everyone
  /-- The roller and the game master. -/
  | gameMaster
  /-- The game master only. -/
  | blind
  /-- The roller only. -/
  | roller
deriving DecidableEq, Repr

namespace Visibility

def text : Visibility → String
  | .everyone => "public"
  | .gameMaster => "gm"
  | .blind => "blind"
  | .roller => "self"

/-- The names of the visibilities in documents. -/
def names : List (String × Visibility) :=
  [("public", .everyone), ("gm", .gameMaster), ("blind", .blind), ("self", .roller)]

def ofDocument? (d : Document) : Option Visibility := d.choice? names

def toDocument (v : Visibility) : Document := .text v.text

/-- A name that no visibility has, trimmed and in lowercase. -/
structure Unknown where
  name : String
deriving DecidableEq, Repr

def Unknown.message (e : Unknown) : String := "unknown visibility: " ++ e.name

/-- The visibility a name stands for, without regard to case and surrounding blanks. -/
def ofName (name : String) : Except Unknown Visibility :=
  match String.ofList (Text.lowercase (Text.trim name.toList)) with
  | "public" | "publicroll" => .ok .everyone
  | "gm" | "gmroll" => .ok .gameMaster
  | "blind" | "blindroll" => .ok .blind
  | "self" | "selfroll" => .ok .roller
  | other => .error ⟨other⟩

end Visibility

/-- A roll on a chat entry: its class and the damage it describes. -/
structure RollRecord where
  type : String
  damage : Option Document

namespace RollRecord

/-- The class of damage rolls. -/
def damageType : String := "DamageRoll"

def isDamageRoll (r : RollRecord) : Bool := r.type == damageType

/-- Reads a roll, which must have a class. -/
def ofDocument? (d : Document) : Option RollRecord := do
  match ← d.slots [["class", "typeTag"], ["damage"]] with
  | [type, damage] =>
    return {
      type := ← Document.required Document.text? type
      damage := ← Document.optional Document.any? damage }
  | _ => none

def toDocument (r : RollRecord) : Document :=
  .record [("class", .text r.type), ("damage", r.damage.getD .null)]

end RollRecord

/-- A new chat entry: its rolls and the item it comes from. -/
structure NewEntry where
  rolls : List RollRecord
  sourceItem : Option String

namespace NewEntry

def ofDocument? (d : Document) : Option NewEntry := do
  match ← d.slots [["rolls"], ["sourceItem"]] with
  | [rolls, item] =>
    return {
      rolls := ← Document.orDefault [] (Document.listOf? RollRecord.ofDocument?) rolls
      sourceItem := ← Document.optional Document.text? item }
  | _ => none

def toDocument (e : NewEntry) : Document :=
  .record [("rolls", .list (e.rolls.map RollRecord.toDocument)),
    ("sourceItem", Document.ofText? e.sourceItem)]

/-- The damage of the entry: that of its first roll, if it is a damage roll. -/
def damage? (e : NewEntry) : Option Document :=
  match e.rolls with
  | r :: _ => if r.isDamageRoll then r.damage else none
  | [] => none

end NewEntry

/-- A chat entry that shows an attack. -/
structure Attack where
  item : Option Item
  actor : Option Actor
  outcome : Option Outcome
  visibility : Visibility

/-- What the host rolls an expression for. -/
structure RollContext where
  actor : Option Actor
  item : Option String

/-- An expression that the host has rolled. -/
structure EvaluatedRoll where
  expression : String
  total : Int
  dice : List Dice.DieRoll
deriving DecidableEq, Repr

/-- A message with rolls. -/
structure Post where
  rolls : List EvaluatedRoll
  speaker : Option String
  flavor : String
  visibility : Visibility
  /-- The expressions as one set. -/
  formula : String
deriving DecidableEq, Repr

/-- The exact total of all rolls. -/
def Post.total (p : Post) : Int := p.rolls.foldr (fun r n => r.total + n) 0

end CriticalDamage
