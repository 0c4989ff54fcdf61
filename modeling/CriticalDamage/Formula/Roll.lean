import CriticalDamage.Formula.Basic
import CriticalDamage.Dice.Rolled

/-!
# Rolling formulas

A roll draws one face for every die of the formula, from left to right, and replaces each dice term
by the sum of its faces. The roll breaks off at a dice term whose faces have no sum in 32 bits.
-/

namespace CriticalDamage.Formula

open Dice (DieRoll Faces)

/-- The total of a rolled formula, its dice in order, and the faces left over. -/
structure Rolled where
  total : Int
  dice : List DieRoll
  left : Faces
deriving DecidableEq, Repr

mutual

/-- Rolls the formula with the next faces. There is no result if there are too few faces, or if the
faces of a dice term have no sum. -/
def roll : Formula → Faces → Option Rolled
  | .dice count die, faces => do
    let (rolls, left) ← Dice.rollGroup die count.val faces
    let sum ← Dice.faceSum? rolls
    return ⟨sum, rolls, left⟩
  | .constant n, faces => some ⟨n, [], faces⟩
  | .sum terms, faces => rollSum terms faces
  | .negate term, faces => do
    let r ← term.roll faces
    return ⟨-r.total, r.dice, r.left⟩
  | .tagged term _, faces => term.roll faces

/-- Rolls the terms of a sum from left to right. -/
def rollSum : List Formula → Faces → Option Rolled
  | [], faces => some ⟨0, [], faces⟩
  | f :: fs, faces => do
    let r ← f.roll faces
    let rest ← rollSum fs r.left
    return ⟨r.total + rest.total, r.dice ++ rest.dice, rest.left⟩

end

/-- There are enough faces, but the roll breaks off at a dice term whose faces have no sum. -/
def breaksOff (f : Formula) (faces : Faces) : Bool :=
  f.diceCount ≤ faces.length && (f.roll faces).isNone

end CriticalDamage.Formula
