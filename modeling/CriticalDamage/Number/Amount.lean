import CriticalDamage.Document.Record

/-!
# Counts and amounts

A `Count` of dice has 32 bits, an `Amount` of damage 32 bits and a sign. Sums that leave the range
stop at its end.
-/

namespace CriticalDamage

/-- A number of dice. -/
@[ext] structure Count where
  val : Nat
  lt : val < 4294967296 := by omega
deriving DecidableEq, Repr

namespace Count

instance : OfNat Count 0 := ⟨⟨0, by decide⟩⟩

instance : OfNat Count 1 := ⟨⟨1, by decide⟩⟩

instance : Inhabited Count := ⟨0⟩

def ofNat? (n : Nat) : Option Count := if h : n < 4294967296 then some ⟨n, h⟩ else none

/-- The count, or the largest one. -/
def saturate (n : Nat) : Count := ⟨min n 4294967295, by omega⟩

def ofDocument? (d : Document) : Option Count := do
  let n ← d.wholeIn? 0 Width.unsigned32
  ofNat? n.toNat

def toDocument (n : Count) : Document := .whole n.val

end Count

/-- An amount of damage, or a modifier to one. -/
@[ext] structure Amount where
  val : Int
  le : -2147483648 ≤ val := by omega
  lt : val < 2147483648 := by omega
deriving DecidableEq, Repr

namespace Amount

instance : OfNat Amount 0 := ⟨⟨0, by decide, by decide⟩⟩

instance : Inhabited Amount := ⟨0⟩

def ofInt? (n : Int) : Option Amount :=
  if h : -2147483648 ≤ n ∧ n < 2147483648 then some ⟨n, h.1, h.2⟩ else none

/-- The amount, or the end of the range it lies beyond. -/
def saturate (n : Int) : Amount :=
  ⟨max (-2147483648) (min 2147483647 n), by omega, by omega⟩

/-- The sum, or the end of the range it lies beyond. -/
def add (a b : Amount) : Amount := saturate (a.val + b.val)

protected theorem zero_add (a : Amount) : add 0 a = a := by
  have hlow := a.le
  have hhigh := a.lt
  apply Amount.ext
  change max (-2147483648) (min 2147483647 (0 + a.val)) = a.val
  omega

def ofDocument? (d : Document) : Option Amount := do
  let n ← d.wholeIn? (-Width.signed32) Width.signed32
  ofInt? n

def toDocument (n : Amount) : Document := .whole n.val

end Amount

end CriticalDamage
