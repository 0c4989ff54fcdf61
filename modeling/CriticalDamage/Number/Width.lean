/-!
# Widths

Bounds of whole numbers with a fixed number of bits: `unsignedN` lies just above the numbers of `N`
bits, and numbers of `N` bits with a sign go from the negative of `signedN` to just below it. A sum
that leaves its width breaks a computation off.
-/

namespace CriticalDamage.Width

/-- Two to the power of 31. -/
def signed32 : Nat := 2147483648

/-- Two to the power of 32. -/
def unsigned32 : Nat := 4294967296

/-- Two to the power of 63. -/
def signed64 : Nat := 9223372036854775808

/-- Two to the power of 64. -/
def unsigned64 : Nat := 18446744073709551616

/-- The sum of two numbers, if it has 32 bits. -/
def add32? (m n : Nat) : Option Nat := if m + n < unsigned32 then some (m + n) else none

end CriticalDamage.Width

namespace CriticalDamage

/-- A number of 64 bits and a sign. -/
def FitsSigned64 (n : Int) : Prop := -(Width.signed64 : Int) ≤ n ∧ n < Width.signed64

instance : DecidablePred FitsSigned64 := fun _ => inferInstanceAs (Decidable (_ ∧ _))

/-- Numbers can be added to `start` one after another in 64 bits and a sign. -/
def RunningSumsFit : Int → List Int → Prop
  | _, [] => True
  | start, n :: ns => FitsSigned64 (start + n) ∧ RunningSumsFit (start + n) ns

instance decidableRunningSumsFit : ∀ start ns, Decidable (RunningSumsFit start ns)
  | _, [] => inferInstanceAs (Decidable True)
  | start, n :: ns =>
    have := decidableRunningSumsFit (start + n) ns
    inferInstanceAs (Decidable (_ ∧ _))

end CriticalDamage
