import CriticalDamage.Number.Decimal
import Mathlib.Data.List.Induction

/-!
# Numerals

A numeral of a number is what `Decimal.natural` writes, with any number of zeros and at most a plus
sign before it. Digits of value `n` are the digits of `n` after zeros (`exists_zeros`), so the texts
that are read as numbers are exactly the numerals (`unsigned?_eq_some_iff`).
-/

namespace CriticalDamage.Decimal

/-- The text is the digits of the number after any number of zeros and at most a plus sign. -/
def IsNumeral (cs : List Char) (n : Nat) : Prop :=
  ∃ sign zeros, (sign = [] ∨ sign = ['+']) ∧ cs = sign ++ List.replicate zeros '0' ++ natural n

variable {bound n : Nat} {cs : List Char}

theorem value_zeros_append (zeros n : Nat) :
    value (List.replicate zeros '0' ++ natural n) = n := by
  rw [value, Nat.ofDigitChars_append, Nat.ofDigitChars_replicate_zero, Nat.mul_zero]
  exact value_natural n

theorem isDigit_of_mem_zeros_append {zeros n : Nat} {c : Char}
    (h : c ∈ List.replicate zeros '0' ++ natural n) : c.isDigit = true := by
  rcases List.mem_append.mp h with hzero | hnatural
  · rw [List.eq_of_mem_replicate hzero]
    decide
  · exact isDigit_of_mem_natural hnatural

/-- A digit writes the difference of its number to that of zero. -/
theorem exists_digitChar {c : Char} (h : c.isDigit = true) :
    ∃ d < 10, c = Nat.digitChar d ∧ c.toNat - '0'.toNat = d := by
  have hrange : 48 ≤ c.toNat ∧ c.toNat ≤ 57 := by
    simpa [Char.isDigit, UInt32.le_iff_toNat_le] using h
  have hlt : c.toNat - 48 < 10 := by omega
  refine ⟨c.toNat - 48, hlt, ?_, rfl⟩
  apply Char.toNat_inj.mp
  rw [Nat.toNat_digitChar_of_lt_ten hlt]
  omega

theorem natural_digit {d : Nat} (h : d < 10) : natural d = [Nat.digitChar d] :=
  Nat.toDigits_of_lt_base h

theorem natural_append_digit {n d : Nat} (hn : 0 < n) (hd : d < 10) :
    natural n ++ [Nat.digitChar d] = natural (10 * n + d) := by
  rw [← natural_digit hd]
  exact Nat.toDigits_append_toDigits (by decide) hn hd

/-- Digits are the digits of their value after zeros. -/
theorem exists_zeros {digits : List Char} (hne : digits ≠ [])
    (h : ∀ c ∈ digits, c.isDigit = true) :
    ∃ zeros, digits = List.replicate zeros '0' ++ natural (value digits) := by
  induction digits using List.reverseRecOn with
  | nil => exact absurd rfl hne
  | append_singleton digits c ih =>
    obtain ⟨d, hd, rfl, hvalue⟩ := exists_digitChar (h c (by simp))
    have hlast : value (digits ++ [Nat.digitChar d]) = 10 * value digits + d := by
      rw [value, Nat.ofDigitChars_append, Nat.ofDigitChars_cons, Nat.ofDigitChars_nil, hvalue,
        value]
    rw [hlast]
    by_cases hnil : digits = []
    · subst hnil
      refine ⟨0, ?_⟩
      rw [value, Nat.ofDigitChars_nil, Nat.mul_zero, Nat.zero_add, natural_digit hd]
      rfl
    · obtain ⟨zeros, hdigits⟩ := ih hnil fun c hc => h c (List.mem_append_left _ hc)
      rcases Nat.eq_zero_or_pos (value digits) with hzero | hpos
      · -- The digit of the value zero is one more zero before the last digit.
        rw [hzero] at hdigits ⊢
        refine ⟨zeros + 1, ?_⟩
        rw [Nat.mul_zero, Nat.zero_add, natural_digit hd, List.replicate_succ', hdigits]
        rfl
      · refine ⟨zeros, ?_⟩
        rw [← natural_append_digit hpos hd, ← List.append_assoc, ← hdigits]

theorem natural?_eq_some_iff :
    natural? cs = some n ↔ ∃ zeros, cs = List.replicate zeros '0' ++ natural n := by
  rw [natural?]
  constructor
  · intro h
    split at h
    · next hdigits =>
      obtain ⟨hne, hall⟩ := Bool.and_eq_true_iff.mp hdigits
      cases h
      exact exists_zeros (by simpa using hne) (List.all_eq_true.mp hall)
    · cases h
  · rintro ⟨zeros, rfl⟩
    have hall : (List.replicate zeros '0' ++ natural n).all Char.isDigit = true :=
      List.all_eq_true.mpr fun _ => isDigit_of_mem_zeros_append
    rw [hall, value_zeros_append]
    simp

/-- The texts that are read as numbers below a bound are the numerals of these numbers. -/
theorem unsigned?_eq_some_iff : unsigned? bound cs = some n ↔ IsNumeral cs n ∧ n < bound := by
  constructor
  · intro h
    obtain ⟨m, hm, hbound⟩ := Option.bind_eq_some_iff.mp h
    split at hbound
    · next hlt =>
      cases hbound
      refine ⟨?_, hlt⟩
      split at hm
      · obtain ⟨zeros, rfl⟩ := natural?_eq_some_iff.mp hm
        exact ⟨['+'], zeros, .inr rfl, rfl⟩
      · obtain ⟨zeros, rfl⟩ := natural?_eq_some_iff.mp hm
        exact ⟨[], zeros, .inl rfl, rfl⟩
    · cases hbound
  · rintro ⟨⟨sign, zeros, hsign, rfl⟩, hlt⟩
    have hread : natural? (List.replicate zeros '0' ++ natural n) = some n :=
      natural?_eq_some_iff.mpr ⟨zeros, rfl⟩
    rcases hsign with rfl | rfl
    · -- Without a sign the text begins with a digit, which no plus sign is.
      have hplus : ∀ ds, List.replicate zeros '0' ++ natural n ≠ '+' :: ds := by
        intro ds hds
        have hdigit : '+'.isDigit = true :=
          isDigit_of_mem_zeros_append (hds ▸ List.mem_cons_self)
        cases hdigit
      rw [unsigned?, List.nil_append, hread]
      · exact if_pos hlt
      · exact hplus
    · exact Option.bind_eq_some_iff.mpr ⟨n, hread, if_pos hlt⟩

theorem unsigned?_natural (h : n < bound) : unsigned? bound (natural n) = some n :=
  unsigned?_eq_some_iff.mpr ⟨⟨[], 0, .inl rfl, rfl⟩, h⟩

theorem lt_of_unsigned? (h : unsigned? bound cs = some n) : n < bound :=
  (unsigned?_eq_some_iff.mp h).2

theorem mem_of_unsigned? (h : unsigned? bound cs = some n) {c : Char} (hc : c ∈ cs) :
    c = '+' ∨ c.isDigit = true := by
  obtain ⟨⟨sign, zeros, hsign, rfl⟩, -⟩ := unsigned?_eq_some_iff.mp h
  rw [List.append_assoc] at hc
  rcases List.mem_append.mp hc with hc | hc
  · rcases hsign with rfl | rfl
    · cases hc
    · exact .inl (List.mem_singleton.mp hc)
  · exact .inr (isDigit_of_mem_zeros_append hc)

end CriticalDamage.Decimal
