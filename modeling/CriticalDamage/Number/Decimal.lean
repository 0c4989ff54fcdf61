import CriticalDamage.Number.Width

/-!
# Decimal numerals

Whole numbers as texts: `natural` and `integer` write them without leading zeros, `unsigned?` and
`signed?` read them with an optional sign and within given bounds.
-/

namespace CriticalDamage.Decimal

/-- The digits of a number, most significant first. -/
def natural (n : Nat) : List Char := Nat.toDigits 10 n

/-- The digits of a number, after a minus sign if it is negative. -/
def integer (n : Int) : List Char :=
  if n < 0 then '-' :: natural n.natAbs else natural n.natAbs

/-- The number that a list of digits writes. -/
def value (digits : List Char) : Nat := Nat.ofDigitChars 10 digits 0

/-- Reads a text of digits only, at least one. -/
def natural? (cs : List Char) : Option Nat :=
  if !cs.isEmpty && cs.all Char.isDigit then some (value cs) else none

@[simp] theorem natural_ne_nil (n : Nat) : natural n ≠ [] := Nat.toDigits_ne_nil

theorem isDigit_of_mem_natural {n : Nat} {c : Char} (h : c ∈ natural n) : c.isDigit = true :=
  Nat.isDigit_of_mem_toDigits (by decide) (by decide) h

/-- The digits of a number write that number. -/
@[simp] theorem value_natural (n : Nat) : value (natural n) = n :=
  Nat.ofDigitChars_toDigits (by decide) (by decide)

/-- Reads digits after an optional plus sign, for a number below `bound`. -/
def unsigned? (bound : Nat) (cs : List Char) : Option Nat := do
  let digits := match cs with
    | '+' :: ds => ds
    | ds => ds
  let n ← natural? digits
  if n < bound then some n else none

/-- Reads digits after an optional sign, for a number from `-bound` up to `bound - 1`. -/
def signed? (bound : Nat) (cs : List Char) : Option Int := do
  let n : Int ← match cs with
    | '+' :: ds => (natural? ds).map Int.ofNat
    | '-' :: ds => (natural? ds).map fun n => -(n : Int)
    | ds => (natural? ds).map Int.ofNat
  if -(bound : Int) ≤ n ∧ n < bound then some n else none

end CriticalDamage.Decimal
