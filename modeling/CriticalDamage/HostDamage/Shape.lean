import CriticalDamage.Document.Basic

/-!
# Shapes of host damage

Hosts describe damage in three shapes: a detailed one with a list of base components, a flat one
with a number of dice and a die, and a keyed one whose fields are separate instances of damage. The
description may be the document itself or stand in one of its fields. The first shape that is
present is taken, the detailed one before the flat one and that before the keyed one.
-/

namespace CriticalDamage

/-- The forms that a description of damage may have. -/
inductive Form where
  | rich
  | flat
  | keyed
deriving DecidableEq, Repr

/-- Where in a document the description stands. -/
inductive Place where
  | whole
  | damage
  | damageRolls
deriving DecidableEq, Repr

/-- The part of a document at a place. -/
def Document.at (d : Document) : Place → Document
  | .whole => d
  | .damage => d.field "damage"
  | .damageRolls => d.field "damageRolls"

/-- The form of a description and its place. -/
structure Shape where
  form : Form
  place : Place
deriving DecidableEq, Repr

/-- The document has a list of base components. -/
def Document.hasBase (d : Document) : Bool := (d.field "base").items?.isSome

/-- The document has a die, or dice as a number. -/
def Document.hasDice (d : Document) : Bool :=
  !(d.field "die").isNull || (d.field "dice").isNumber

/-- The expression of a damage instance: the first of its `formula`, `damage` and `value` that is a
text or a number. -/
def Document.expression? (d : Document) : Option String :=
  ["formula", "damage", "value"].findSome? fun name =>
    match d.get? name with
    | some (.text s) => some s
    | some (.whole n) => some (String.ofList (Decimal.integer n))
    | some (.real x) => some (String.ofList x.text)
    | _ => none

/-- The document is a record of damage instances, at least one. -/
def Document.isKeyed : Document → Bool
  | .record fields => !fields.isEmpty && fields.all fun f => f.2.expression?.isSome
  | _ => false

/-- The shapes a document may have, in the order in which they are looked for. -/
def Shape.candidates : List Shape :=
  [⟨.rich, .whole⟩, ⟨.rich, .damage⟩, ⟨.flat, .damage⟩, ⟨.flat, .whole⟩,
    ⟨.keyed, .damage⟩, ⟨.keyed, .damageRolls⟩, ⟨.keyed, .whole⟩]

/-- The document has a description of the given shape. -/
def Document.hasShape (d : Document) (s : Shape) : Bool :=
  match s.form with
  | .rich => (d.at s.place).hasBase
  | .flat => (d.at s.place).hasDice
  | .keyed => (d.at s.place).isKeyed

/-- The shape in which a document describes damage, if it does. -/
def Document.shape? (d : Document) : Option Shape := Shape.candidates.find? d.hasShape

end CriticalDamage
