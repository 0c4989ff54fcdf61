import CriticalDamage.Proofs.WeaponTypes

/-!
# Counts of base dice

A weapon lists a number of dice, its striking runes add at most three, and the sum stops at the
largest count. Two numbers are read on the way, each first within 64 bits and then as a count of 32
bits (`count?_whole`). A number of dice that is no count is taken for one die, and a number of
runes that is no count leaves the rune's grade to decide. So the count of base dice is the sum that
is meant as long as both numbers are counts, and hardly ever beyond (`diceCount_eq_meantCount_iff`):
from the largest count on, one die more leaves a single one (`exists_collapsed_count`).
-/

namespace CriticalDamage.WeaponDice

/-- A description with a die, a whole number of dice and a whole number of striking runes. -/
structure Lists (damage system : Document) (dice striking : Nat) : Prop where
  die : (die? (damage.field "die")).isSome = true
  dice : damage.field "dice" = .whole dice
  striking : (system.field "runes").field "striking" = .whole striking

/-- The count that is meant by such a description. -/
def meantCount (dice striking : Nat) : Nat :=
  min (dice + min striking maxStriking) (Width.unsigned32 - 1)

/-- The dice of the grade that an item's striking rune names; none if it names no grade. -/
def namedGradeDice (system : Document) : Nat :=
  (((system.field "strikingRune").field "value").text?.map fun s => gradeDice s.toList).getD 0

theorem meantCount_mono {n n' k k' : Nat} (hn : n ≤ n') (hk : k ≤ k') :
    meantCount n k ≤ meantCount n' k' := by
  simp only [meantCount]
  omega

/-! ## Numbers read as counts -/

theorem count?_whole (n : Nat) :
    (count? (.whole n)).map (·.val) = if n < Width.unsigned32 then some n else none := by
  have hsaturate : (saturate64 n).toNat = min n 9223372036854775807 := by
    simp only [saturate64]
    omega
  have hcount : count? (.whole n) = Count.ofNat? (min n 9223372036854775807) := by
    rw [← hsaturate]
    rfl
  rw [hcount, Count.ofNat?, Width.unsigned32]
  by_cases h : n < 4294967296
  · have hmin : min n 9223372036854775807 = n := by omega
    simp [h, hmin]
  · have hmin : ¬min n 9223372036854775807 < 4294967296 := by omega
    rw [dif_neg hmin, if_neg h, Option.map_none]

theorem gradeDice_le (grade : List Char) : gradeDice grade ≤ maxStriking := by
  simp only [gradeDice, maxStriking]
  split
  · omega
  · split
    · omega
    · split <;> omega

theorem namedGradeDice_le (system : Document) : namedGradeDice system ≤ maxStriking := by
  rw [namedGradeDice]
  cases ((system.field "strikingRune").field "value").text? with
  | none => exact Nat.zero_le _
  | some s =>
    rw [Option.map_some, Option.getD_some]
    exact gradeDice_le s.toList

theorem strikingDice_of_whole {system : Document} {k : Nat}
    (h : (system.field "runes").field "striking" = .whole k) :
    strikingDice system =
      if k < Width.unsigned32 then min k maxStriking else namedGradeDice system := by
  have hgrade := namedGradeDice_le system
  rw [strikingDice, h, count?_whole]
  split
  · rfl
  · exact Nat.min_eq_left hgrade

/-! ## Base dice -/

variable {damage system : Document} {n k : Nat}

theorem val_diceCount (h : Lists damage system n k) :
    (diceCount damage system).val =
      min ((if n < Width.unsigned32 then n else 1) +
        if k < Width.unsigned32 then min k maxStriking else namedGradeDice system)
        (Width.unsigned32 - 1) := by
  obtain ⟨die, hdie⟩ := Option.isSome_iff_exists.mp h.die
  have hlisted : ((count? (damage.field "dice")).map (·.val)).getD 1 =
      if n < Width.unsigned32 then n else 1 := by
    rw [h.dice, count?_whole]
    split <;> rfl
  simp only [diceCount, hdie, Count.saturate]
  rw [hlisted, strikingDice_of_whole h.striking]
  rfl

theorem base_of_structure? {found : Structure} (h : structure? damage system = some found) :
    ∃ c, found.base = [c] ∧ c.count = diceCount damage system := by
  obtain ⟨-, rfl⟩ := eq_of_structure? h
  refine ⟨base damage system, rfl, ?_⟩
  rcases Nat.eq_zero_or_pos (diceCount damage system).val with hzero | hpos
  · rw [base_of_diceCount_eq_zero hzero]
    exact Count.ext hzero.symm
  · obtain ⟨die, hbase⟩ := base_of_diceCount_pos hpos
    rw [hbase]
    rfl

theorem structure?_eq_none_iff : structure? damage system = none ↔
    (diceCount damage system).val = 0 ∧ bonusTotal bonusPaths system = 0 := by
  rw [structure?]
  split
  · next h => exact iff_of_true rfl h
  · next h => exact iff_of_false (Option.some_ne_none _) h

/-- The count is the meant one just when the number of dice is a count and the number of runes is
one too, or else the rune's grade or the end of the range makes up for it. -/
theorem val_diceCount_eq_meantCount_iff (h : Lists damage system n k) :
    (diceCount damage system).val = meantCount n k ↔
      n < Width.unsigned32 ∧ (k < Width.unsigned32 ∨ namedGradeDice system = maxStriking ∨
        Width.unsigned32 - 1 ≤ n + namedGradeDice system) := by
  have hwidth : Width.unsigned32 = 4294967296 := rfl
  have hgrade := namedGradeDice_le system
  rw [val_diceCount h]
  simp only [meantCount, maxStriking] at hgrade ⊢
  by_cases hn : n < Width.unsigned32
  · rw [if_pos hn]
    split <;> omega
  · -- One die and the runes' three at most are far from the largest count.
    have hstriking : (if k < Width.unsigned32 then min k 3 else namedGradeDice system) ≤ 3 := by
      split <;> omega
    rw [if_neg hn]
    omega

/-- A weapon with a die has one base component, or no damage where it has neither dice nor a bonus.
The count of that component is the meant one as long as the numbers of dice and of runes are counts,
and then it grows with both. Beyond it is the meant one only if the number of dice is a count and
the rune's grade or the end of the range makes up for the runes. -/
theorem diceCount_eq_meantCount_iff (h : Lists damage system n k) :
    (structure? damage system = none ↔
      (diceCount damage system).val = 0 ∧ bonusTotal bonusPaths system = 0) ∧
    (∀ found, structure? damage system = some found →
      ∃ c, found.base = [c] ∧ c.count = diceCount damage system) ∧
    ((diceCount damage system).val = meantCount n k ↔
      n < Width.unsigned32 ∧ (k < Width.unsigned32 ∨ namedGradeDice system = maxStriking ∨
        Width.unsigned32 - 1 ≤ n + namedGradeDice system)) ∧
    (∀ damage' system' n' k', Lists damage' system' n' k' → n ≤ n' → k ≤ k' →
      n' < Width.unsigned32 → k' < Width.unsigned32 →
      (diceCount damage system).val ≤ (diceCount damage' system').val) := by
  refine ⟨structure?_eq_none_iff, fun found => base_of_structure?,
    val_diceCount_eq_meantCount_iff h, ?_⟩
  intro damage' system' n' k' h' hn hk hn' hk'
  have hcount : (diceCount damage system).val = meantCount n k :=
    (val_diceCount_eq_meantCount_iff h).mpr
      ⟨Nat.lt_of_le_of_lt hn hn', .inl (Nat.lt_of_le_of_lt hk hk')⟩
  have hcount' : (diceCount damage' system').val = meantCount n' k' :=
    (val_diceCount_eq_meantCount_iff h').mpr ⟨hn', .inl hk'⟩
  rw [hcount, hcount']
  exact meantCount_mono hn hk

/-- A weapon with four-sided dice and striking runes. -/
def dagger (dice striking : Nat) : Document :=
  .record [("damage", .record [("dice", .whole dice), ("die", .text "d4")]),
    ("runes", .record [("striking", .whole striking)])]

theorem lists_dagger (n k : Nat) : Lists ((dagger n k).at .damage) (dagger n k) n k :=
  ⟨rfl, rfl, rfl⟩

/-- Two dice and nine runes make five dice, and not more than the largest count and one rune. -/
theorem diceCount_eq_meantCount_iff_dagger :
    Lists ((dagger 2 9).at .damage) (dagger 2 9) 2 9 ∧
    Lists ((dagger 4294967295 9).at .damage) (dagger 4294967295 9) 4294967295 9 ∧
    (∃ found c, structure? ((dagger 2 9).at .damage) (dagger 2 9) = some found ∧
      found.base = [c] ∧ c.count.val = 5) ∧
    (diceCount ((dagger 2 9).at .damage) (dagger 2 9)).val ≤
      (diceCount ((dagger 4294967295 9).at .damage) (dagger 4294967295 9)).val := by
  obtain ⟨hnone, hbase, hcount, hmono⟩ := diceCount_eq_meantCount_iff (lists_dagger 2 9)
  have hfive : (diceCount ((dagger 2 9).at .damage) (dagger 2 9)).val = 5 :=
    hcount.mpr ⟨by decide, .inl (by decide)⟩
  refine ⟨lists_dagger 2 9, lists_dagger 4294967295 9, ?_, hmono _ _ _ _
    (lists_dagger 4294967295 9) (by decide) (Nat.le_refl 9) (by decide) (by decide)⟩
  obtain ⟨found, hfound⟩ := Option.ne_none_iff_exists'.mp fun h =>
    absurd ((hnone.mp h).1.symm.trans hfive) (by decide)
  obtain ⟨c, hc, hcc⟩ := hbase found hfound
  exact ⟨found, c, hfound, hc, by rw [hcc, hfive]⟩

/-- One die more than the largest count is no count and leaves a single die. -/
theorem exists_collapsed_count :
    ¬∀ (damage system : Document) (n k : Nat), Lists damage system n k →
      (diceCount damage system).val = meantCount n k := by
  intro h
  have hall := h _ _ 4294967296 0 (lists_dagger 4294967296 0)
  rw [val_diceCount (lists_dagger 4294967296 0)] at hall
  exact absurd hall (by decide)

end CriticalDamage.WeaponDice
