import CriticalDamage.Dice.Die

/-!
# Damage formulas

A formula is a tree of dice, constants, sums, subtracted terms and tagged terms. `range` gives the
least and the greatest total it can have, as exact numbers, `tags` the tags around it, `leaves` its
dice from left to right.
-/

namespace CriticalDamage

/-- A damage formula. A tag names the damage type or the category of the term it stands after. -/
inductive Formula where
  | dice (count : Count) (die : Die)
  | constant (n : Int)
  | sum (terms : List Formula)
  | negate (term : Formula)
  | tagged (term : Formula) (tag : String)
deriving Inhabited

/-- The totals from `low` to `high`. -/
structure Range where
  low : Int
  high : Int
deriving DecidableEq, Repr

namespace Range

def point (n : Int) : Range := ⟨n, n⟩

def add (a b : Range) : Range := ⟨a.low + b.low, a.high + b.high⟩

def neg (a : Range) : Range := ⟨-a.high, -a.low⟩

end Range

namespace Formula

mutual

/-- The least and the greatest total. -/
def range : Formula → Range
  | .dice count die => ⟨count.val, count.val * die.sides⟩
  | .constant n => .point n
  | .sum terms => rangeSum terms
  | .negate term => term.range.neg
  | .tagged term _ => term.range

/-- The range of a sum. -/
def rangeSum : List Formula → Range
  | [] => .point 0
  | f :: fs => f.range.add (rangeSum fs)

end

/-- The least total. -/
def min (f : Formula) : Int := f.range.low

/-- The greatest total. -/
def max (f : Formula) : Int := f.range.high

/-- The tags around the formula, from the outermost inwards. -/
def tags : Formula → List String
  | .tagged term tag => tag :: term.tags
  | _ => []

mutual

/-- The dice terms from left to right. -/
def leaves : Formula → List (Count × Die)
  | .dice count die => [(count, die)]
  | .constant _ => []
  | .sum terms => leavesOfSum terms
  | .negate term => term.leaves
  | .tagged term _ => term.leaves

/-- The dice terms of a sum from left to right. -/
def leavesOfSum : List Formula → List (Count × Die)
  | [] => []
  | f :: fs => f.leaves ++ leavesOfSum fs

end

/-- How many faces a roll of the formula draws. -/
def diceCount (f : Formula) : Nat := f.leaves.foldr (fun l n => l.1.val + n) 0

end Formula

end CriticalDamage
