import CriticalDamage.Dice.Die

/-!
# Rolled dice

The faces that dice have landed on, in the order in which they were rolled. Sums of faces have 32
bits; faces that add up to more have no sum.
-/

namespace CriticalDamage.Dice

/-- A die and the face it landed on. -/
structure DieRoll where
  die : Die
  value : Count
deriving DecidableEq, Repr

/-- The die landed on its highest face. -/
def DieRoll.isMax (r : DieRoll) : Bool := r.value.val == r.die.sides

/-- The sum of the faces, unless it leaves 32 bits on the way. -/
def faceSum? (rolls : List DieRoll) : Option Nat :=
  rolls.foldlM (fun sum r => Width.add32? sum r.value.val) 0

/-- How many dice landed on their highest face. -/
def maxedCount (rolls : List DieRoll) : Nat := (rolls.filter DieRoll.isMax).length

/-- The rolls as text, each a die and its face. -/
def rollsText (rolls : List DieRoll) : String :=
  " ".intercalate (rolls.map fun r =>
    String.ofList (r.die.chars ++ ':' :: Decimal.natural r.value.val))

/-- Faces waiting to be drawn. -/
abbrev Faces := List Count

/-- Rolls the same die several times with the next faces: the rolls and the faces left over, or
nothing if there are too few faces. -/
def rollGroup (die : Die) : Nat → Faces → Option (List DieRoll × Faces)
  | 0, faces => some ([], faces)
  | _ + 1, [] => none
  | n + 1, face :: faces => do
    let (rolls, faces) ← rollGroup die n faces
    return (⟨die, face⟩ :: rolls, faces)

def DieRoll.ofDocument? (d : Document) : Option DieRoll := do
  match ← d.slots [["die"], ["value"]] with
  | [die, value] =>
    return {
      die := ← Document.required Die.ofDocument? die
      value := ← Document.required Count.ofDocument? value }
  | _ => none

/-- Reads a record of rolls. -/
def rollsOfDocument? (d : Document) : Option (List DieRoll) := do
  match ← d.slots [["rolls"]] with
  | [rolls] => Document.required (Document.listOf? DieRoll.ofDocument?) rolls
  | _ => none

end CriticalDamage.Dice
