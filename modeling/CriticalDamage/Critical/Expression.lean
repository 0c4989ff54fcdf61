import CriticalDamage.Damage.Structure

/-!
# Damage expressions

The expression of one component. On a critical hit the dice are rolled once and their maximum is
added: `(2d6+12+1)[piercing]` where a normal hit has `(2d6+1)[piercing]`. A flat component is
`6[untyped]`. A category stands inside the type: `((1d6+0)[persistent])[fire]`.
-/

namespace CriticalDamage

/-- The flat values that doubling reaches. -/
inductive DoublingScope where
  /-- Those of components without dice. -/
  | flatParts
  /-- All of them. -/
  | allStatic
deriving DecidableEq, Repr

/-- How a hit is rolled. -/
structure HitOptions where
  critical : Bool
  /-- Flat values are doubled on a critical hit. -/
  doubleStatic : Bool
  scope : DoublingScope
deriving DecidableEq, Repr

instance : Inhabited HitOptions := ⟨⟨false, false, .flatParts⟩⟩

namespace Component

/-- The hit enlarges the component. -/
def scalesOn (c : Component) (o : HitOptions) : Bool := o.critical && c.category.scales

/-- What the flat value is multiplied by. -/
def flatFactor (c : Component) (o : HitOptions) : Int :=
  if c.scalesOn o && o.doubleStatic && (c.rolledDie?.isNone || o.scope == .allStatic) then 2
  else 1

/-- The maximum of the dice is added on the hit. -/
def takesBonus (c : Component) (o : HitOptions) : Bool :=
  c.scalesOn o && !c.criticalOnly

/-- The maximum of the dice fits in 64 bits and a sign where it is added. Where it does not there is
no expression. -/
def BonusFits (c : Component) (o : HitOptions) : Prop :=
  c.rolledDie?.isSome → c.takesBonus o = true → c.maxDice < Width.signed64

instance (c : Component) (o : HitOptions) : Decidable (c.BonusFits o) :=
  inferInstanceAs (Decidable (_ → _ → _))

/-- A number after a sign. -/
def signed (n : Int) : List Char :=
  if n < 0 then '-' :: Decimal.natural n.natAbs else '+' :: Decimal.natural n.natAbs

/-- The sum that the tags of the expression enclose. -/
def body (c : Component) (o : HitOptions) : List Char :=
  let flat := c.flat.val * c.flatFactor o
  match c.rolledDie? with
  | some die =>
    let bonus := if c.takesBonus o then '+' :: Decimal.natural c.maxDice else []
    ['('] ++ Decimal.natural c.count.val ++ die.chars ++ bonus ++ signed flat ++ [')']
  | none => Decimal.integer flat

/-- A tag between brackets. -/
def bracketed (tag : List Char) : List Char := '[' :: tag ++ [']']

/-- A text between parentheses, unless it begins with one already. -/
def grouped (cs : List Char) : List Char :=
  match cs with
  | '(' :: _ => cs
  | _ => '(' :: cs ++ [')']

/-- The expression that rolls the component. -/
def expressionChars (c : Component) (o : HitOptions) : List Char :=
  match c.category.tag? with
  | some category =>
    ['('] ++ grouped (c.body o) ++ bracketed category ++ [')'] ++ bracketed c.type.chars
  | none => c.body o ++ bracketed c.type.chars

/-- The expression that rolls the component. -/
def expression (c : Component) (o : HitOptions) : String := String.ofList (c.expressionChars o)

end Component

end CriticalDamage
