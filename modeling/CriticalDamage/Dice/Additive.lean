import CriticalDamage.Dice.Die
import CriticalDamage.Dice.Lexeme

/-!
# Additive expressions

Hosts store some damage as sums such as `2d6+3`. `Additive.read` accepts sums of dice and numbers, in
which a number may be subtracted and signs may be repeated, and splits them into their dice terms
and their flat total. Everything else is refused: products, groups, references, subtracted dice.
-/

namespace CriticalDamage.Dice

/-- The dice terms of a sum, in order, and the total of its numbers. -/
structure Additive where
  dice : List (Count × Die)
  flat : Amount
deriving DecidableEq, Repr

namespace Additive

/-- The sum adds neither dice nor a flat value. -/
def isEmpty (a : Additive) : Bool := a.dice.isEmpty && a.flat == 0

/-- Why an expression is no sum of dice and numbers. -/
inductive Reason where
  | lexical (fault : PlacedFault)
  | empty
  | overflow (n : Nat)
  | subtractedDice
  | noDie (sides : Count)
  | unexpected (t : Token)
  | danglingOperator
deriving DecidableEq, Repr

def Reason.message : Reason → String
  | .lexical fault => fault.message
  | .empty => "empty expression"
  | .overflow n => "flat total overflows at " ++ toString n
  | .subtractedDice => "subtracted dice"
  | .noDie sides => "d" ++ toString sides.val
  | .unexpected t => "unexpected '" ++ t.text ++ "'"
  | .danglingOperator => "dangling operator"

/-- A refused expression. -/
structure Unsupported where
  expression : String
  reason : Reason
deriving DecidableEq, Repr

def Unsupported.message (e : Unsupported) : String :=
  "unsupported expression syntax in \"" ++ e.expression ++ "\": " ++ e.reason.message

/-- Adds a number with its sign to a total, if number and sum stay in range. -/
def addNumber? (flat : Amount) (positive : Bool) (n : Nat) : Option Amount :=
  if n < Width.signed32 then Amount.ofInt? (flat.val + if positive then (n : Int) else -n) else none

/-- Reads the rest of a sum. `sign` is the sign that the next term has been given so far, `true` for
plus, and `none` directly after a term. -/
def readTerms (sign : Option Bool) (flat : Amount) : List Token → Except Reason Additive
  | [] => if sign.isSome then .error .danglingOperator else .ok ⟨[], flat⟩
  | t :: ts =>
    match t, sign with
    | .symbol .plus, none => readTerms (some true) flat ts
    | .symbol .minus, none => readTerms (some false) flat ts
    | .symbol .plus, some s => readTerms (some s) flat ts
    | .symbol .minus, some s => readTerms (some !s) flat ts
    | .number n, some s =>
      match addNumber? flat s n with
      | some flat => readTerms none flat ts
      | none => .error (.overflow n)
    | .dice count sides, some s =>
      if s then
        match Die.ofSides? sides.val with
        | none => .error (.noDie sides)
        | some die =>
          match readTerms none flat ts with
          | .error e => .error e
          | .ok a => .ok ⟨if count.val = 0 then a.dice else (count, die) :: a.dice, a.flat⟩
      else .error .subtractedDice
    | t, _ => .error (.unexpected t)

/-- Splits a sum, or says why the text is none. -/
def readChars (cs : List Char) : Except Reason Additive :=
  match scan cs with
  | .error fault => .error (.lexical fault)
  | .ok [] => .error .empty
  | .ok ts => readTerms (some true) 0 (ts.map (·.token))

/-- Splits an expression into its dice and its flat total. -/
def read (expression : String) : Except Unsupported Additive :=
  match readChars expression.toList with
  | .ok a => .ok a
  | .error reason => .error ⟨expression, reason⟩

end Additive

end CriticalDamage.Dice
