import CriticalDamage.Number.Decimal

/-!
# Binary floating-point numbers

Finite numbers of 53 significant bits, held exactly as `±mantissa · 2 ^ exponent`. `nearest?` rounds
a quotient of whole numbers to such a number, a tie going to the even mantissa. `ofDecimal?` reads
a decimal numeral with two roundings, one of its digits and one of their product with a power of
ten. `text` writes the fewest digits that determine the number.
-/

namespace CriticalDamage

/-- A finite binary floating-point number. Results of `nearest?` have a mantissa below `2 ^ 53`,
and one of at least `2 ^ 52` unless the exponent is the smallest, `-1074`. -/
structure Binary64 where
  negative : Bool
  mantissa : Nat
  exponent : Int
deriving DecidableEq, Repr, Inhabited

namespace Binary64

/-- A non-negative number as a quotient: numerator and denominator of `mantissa · 2 ^ exponent`. -/
def quotient (mantissa : Nat) (exponent : Int) : Nat × Nat :=
  if 0 ≤ exponent then (mantissa * Nat.pow 2 exponent.toNat, 1)
  else (mantissa, Nat.pow 2 (-exponent).toNat)

/-- The bound of mantissas, two to the power of 53. -/
def mantissaBound : Nat := 9007199254740992

/-- The quotient `num / den`, divided by `2 ^ e`, rounded to a whole number; a tie goes to the even
one. -/
def roundAt (num den : Nat) (e : Int) : Nat :=
  let (n, d) :=
    if 0 ≤ e then (num, den * Nat.pow 2 e.toNat) else (num * Nat.pow 2 (-e).toNat, den)
  let q := n / d
  let r := n % d
  if 2 * r > d ∨ (2 * r = d ∧ q % 2 = 1) then q + 1 else q

/-- The number nearest to `num / den`, or nothing if that is too large. -/
def nearest? (negative : Bool) (num den : Nat) : Option Binary64 :=
  if num = 0 then some ⟨negative, 0, -1074⟩
  else
    let guess : Int := (num.log2 : Int) - den.log2 - 53
    let low := max guess (-1074)
    let floor := let (n, d) :=
        if 0 ≤ low then (num, den * Nat.pow 2 low.toNat) else (num * Nat.pow 2 (-low).toNat, den)
      n / d
    let e := if mantissaBound ≤ floor then low + 1 else low
    let m := roundAt num den e
    let (m, e) := if m = mantissaBound then (mantissaBound / 2, e + 1) else (m, e)
    if 971 < e then none else some ⟨negative, m, e⟩

/-- The largest power of ten below the largest number. -/
def maxPower : Nat := 308

/-- The digits that fit into 64 bits: those read, the value so far, and the digits left over. -/
def takeDigits (value : Nat) : List Char → Nat × Nat × List Char
  | [] => (value, 0, [])
  | c :: cs =>
    let next := 10 * value + (c.toNat - '0'.toNat)
    if next < Width.unsigned64 then
      let (v, n, rest) := takeDigits next cs
      (v, n + 1, rest)
    else (value, 0, c :: cs)

/-- Divides by `10 ^ 308` until the remaining negative power of ten is small enough, then divides by
that. -/
def divideByPower (x : Binary64) (power : Nat) : Option Binary64 :=
  if x.mantissa = 0 then some x
  else
    let step := min power maxPower
    let (n, d) := quotient x.mantissa x.exponent
    match nearest? false (Nat.pow 10 step) 1 with
    | none => none
    | some p =>
      let (pn, pd) := quotient p.mantissa p.exponent
      match nearest? x.negative (n * pd) (d * pn) with
      | none => none
      | some y => if _h : power ≤ maxPower then some y else divideByPower y (power - maxPower)
termination_by power
decreasing_by simp only [maxPower] at *; omega

/-- The number written by `±significand · 10 ^ power`, or nothing if it is too large. -/
def ofParts? (negative : Bool) (significand : Nat) (power : Int) : Option Binary64 := do
  let x ← nearest? negative significand 1
  if x.mantissa = 0 then some x
  else if power < 0 then divideByPower x (-power).toNat
  else if power.toNat ≤ maxPower then
    let p ← nearest? false (Nat.pow 10 power.toNat) 1
    let (n, d) := quotient x.mantissa x.exponent
    let (pn, pd) := quotient p.mantissa p.exponent
    nearest? negative (n * pn) (d * pd)
  else none

/-- The number written by a numeral: its digits before and after the point and its power of ten.
Digits beyond the first 64 bits' worth only scale the number. -/
def ofDecimal? (negative : Bool) (whole fraction : List Char) (power : Int) : Option Binary64 :=
  let (v, _, excess) := takeDigits 0 whole
  let (v, places, _) := takeDigits v fraction
  if v = 0 then some ⟨negative, 0, -1074⟩
  else
    -- A power outside 32 bits is as good as the nearest one inside.
    let power := max (-(Width.signed32 : Int)) (min (Width.signed32 : Int) power)
    ofParts? negative v (excess.length - places + power)

/-- The number without its fraction. -/
def truncate (x : Binary64) : Int :=
  let (n, d) := quotient x.mantissa x.exponent
  if x.negative then -((n / d : Nat) : Int) else (n / d : Nat)

/-- The place of the first decimal digit of a positive quotient: `10 ^ place ≤ num / den`. -/
def decimalPlace (num den : Nat) : Int :=
  if den ≤ num then (Decimal.natural (num / den)).length - 1
  else -(((List.range 400).find? fun j => den ≤ num * Nat.pow 10 j).getD 0 : Nat)

/-- Of the decimals with the given number of digits, the one nearest to the number, if it
determines the number. -/
def digitsOfLength? (x : Binary64) (length : Nat) : Option (Nat × Int) :=
  let (n, d) := quotient x.mantissa x.exponent
  let unit := decimalPlace n d - (length - 1)
  -- The number counted in units of `10 ^ unit`.
  let (n, d) :=
    if 0 ≤ unit then (n, d * Nat.pow 10 unit.toNat) else (n * Nat.pow 10 (-unit).toNat, d)
  let below := n / d
  let decimal (k : Nat) : Option Binary64 :=
    if 0 ≤ unit then nearest? x.negative (k * Nat.pow 10 unit.toNat) 1
    else nearest? x.negative k (Nat.pow 10 (-unit).toNat)
  let first := if 2 * (n % d) ≤ d then below else below + 1
  let second := if first = below then below + 1 else below
  if decimal first = some x then some (first, unit)
  else if decimal second = some x then some (second, unit)
  else none

/-- The fewest digits that determine the number, and the power of ten they count. -/
def shortest (x : Binary64) : Nat × Int :=
  ((List.range 17).findSome? fun i => digitsOfLength? x (i + 1)).getD (0, 0)

/-- The number without trailing zeros in its digits. -/
def stripZeros : Nat → Nat × Int → Nat × Int
  | 0, p => p
  | fuel + 1, (k, unit) =>
    if k ≠ 0 ∧ k % 10 = 0 then stripZeros fuel (k / 10, unit + 1) else (k, unit)

/-- The number as text: positional from `10 ^ -5` up to `10 ^ 16` and with at least one place after
the point, otherwise with an exponent. -/
def text (x : Binary64) : List Char :=
  let body : List Char :=
    if x.mantissa = 0 then ['0', '.', '0']
    else
      let (k, unit) := stripZeros 20 (shortest x)
      let digits := Decimal.natural k
      let point := (digits.length : Int) + unit
      if 0 ≤ unit ∧ point ≤ 16 then digits ++ List.replicate unit.toNat '0' ++ ['.', '0']
      else if 0 < point ∧ point ≤ 16 then
        digits.take point.toNat ++ '.' :: digits.drop point.toNat
      else if -5 < point ∧ point ≤ 0 then
        ['0', '.'] ++ List.replicate (-point).toNat '0' ++ digits
      else
        let mantissa := match digits with
          | [d] => [d]
          | d :: ds => d :: '.' :: ds
          | [] => []
        mantissa ++ 'e' :: Decimal.integer (point - 1)
  if x.negative then '-' :: body else body

end Binary64

end CriticalDamage
