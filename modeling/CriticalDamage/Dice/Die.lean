import CriticalDamage.Number.Amount
import CriticalDamage.Text.Blank

/-!
# Dice sizes

A die has at least two sides. Hosts name it by a tag, `d8`, `D8` or `8`, or by its number of sides.
-/

namespace CriticalDamage

/-- A die, by its number of sides. -/
@[ext] structure Die where
  sides : Nat
  two_le : 2 ≤ sides := by omega
  le : sides ≤ 4294967295 := by omega
deriving DecidableEq, Repr

namespace Die

instance : Inhabited Die := ⟨⟨6, by decide, by decide⟩⟩

/-- The die with the given number of sides, unless that is too small or too large. -/
def ofSides? (n : Nat) : Option Die :=
  if h : 2 ≤ n ∧ n ≤ 4294967295 then some ⟨n, h.1, h.2⟩ else none

/-- The sizes found in a common set of dice. -/
def standardSides : List Nat := [4, 6, 8, 10, 12, 20, 100]

def isStandard (d : Die) : Bool := standardSides.contains d.sides

/-- Reads a host's tag: the number of sides, perhaps after a `d`. -/
def ofTag? (tag : List Char) : Option Die := do
  let digits := match Text.trim tag with
    | 'd' :: cs | 'D' :: cs => cs
    | cs => cs
  let n ← Decimal.unsigned? Width.unsigned32 digits
  ofSides? n

/-- The die as `d` and its number of sides. -/
def chars (d : Die) : List Char := 'd' :: Decimal.natural d.sides

def text (d : Die) : String := String.ofList d.chars

/-- Why a document is no die. -/
inductive ReadError where
  /-- A tag or a number of sides that no die has. -/
  | invalidSize (shown : String)
  /-- Neither a tag nor a number of sides. -/
  | wrongForm
deriving DecidableEq, Repr

/-- The wording of the error, if it has one of its own. -/
def ReadError.message? : ReadError → Option String
  | .invalidSize shown => some ("invalid die size: " ++ shown)
  | .wrongForm => none

/-- Reads a tag or a number of sides. -/
def ofDocument : Document → Except ReadError Die
  | .text s =>
    match ofTag? s.toList with
    | some d => .ok d
    | none => .error (.invalidSize s)
  | .whole n =>
    if 0 ≤ n ∧ n < Width.unsigned32 then
      match ofSides? n.toNat with
      | some d => .ok d
      | none => .error (.invalidSize (String.ofList (Decimal.integer n)))
    else .error .wrongForm
  | _ => .error .wrongForm

def ofDocument? (d : Document) : Option Die := (ofDocument d).toOption

def toDocument (d : Die) : Document := .text d.text

end Die

end CriticalDamage
