import CriticalDamage.Proofs.Derivations
import CriticalDamage.Proofs.FormulaRolls

/-!
# Sums formed in a roll

A roll adds up the faces of a dice term in 32 bits and the terms of a sum, from the left, in 64 bits
and a sign, which is also the width of bounds. Where no bound leaves this width no sum of terms does
(`termSumsFit_of_boundsFit`), since what has been added up so far lies in the range of these terms.
The faces of a dice term are another matter: there is an exact sum of them for every supply just
when the count times the sides fits in 32 bits, and a roll without one breaks off
(`group_sums_exact_iff`). Bounds of 64 bits do not ensure this (`exists_roll_breaks_off`).
-/

namespace CriticalDamage

namespace Range

/-- Both ends are numbers of 64 bits and a sign. -/
def Fits (r : Range) : Prop := FitsSigned64 r.low ∧ FitsSigned64 r.high

instance : DecidablePred Fits := fun _ => inferInstanceAs (Decidable (_ ∧ _))

def Contains (r : Range) (n : Int) : Prop := r.low ≤ n ∧ n ≤ r.high

theorem Fits.of_contains {r : Range} {n : Int} (h : r.Fits) (hn : r.Contains n) :
    FitsSigned64 n :=
  ⟨Int.le_trans h.1.1 hn.1, Int.lt_of_le_of_lt hn.2 h.2.2⟩

theorem Contains.add {r s : Range} {m n : Int} (hm : r.Contains m) (hn : s.Contains n) :
    (r.add s).Contains (m + n) :=
  ⟨Int.add_le_add hm.1 hn.1, Int.add_le_add hm.2 hn.2⟩

theorem Contains.neg {r : Range} {n : Int} (h : r.Contains n) : r.neg.Contains (-n) :=
  ⟨Int.neg_le_neg h.2, Int.neg_le_neg h.1⟩

end Range

namespace Formula

open Dice (Faces)

/-! ## Bounds and sums of terms -/

mutual

/-- All bounds that are computed for the formula fit: those of dice and numbers, those of a sum
after each of its terms, and those of a subtracted term. -/
def BoundsFit : Formula → Prop
  | .dice count die => (range (.dice count die)).Fits
  | .constant n => FitsSigned64 n
  | .sum terms => SumBoundsFit (.point 0) terms
  | .negate term => term.BoundsFit ∧ term.range.neg.Fits
  | .tagged term _ => term.BoundsFit

/-- All bounds fit that are computed for further terms of a sum whose range so far is given. -/
def SumBoundsFit (before : Range) : List Formula → Prop
  | [] => True
  | f :: fs =>
    f.BoundsFit ∧ (before.add f.range).Fits ∧ SumBoundsFit (before.add f.range) fs

end

mutual

/-- All values fit that a roll of these faces forms outside dice terms: those of a sum after each of
its terms, and those of a subtracted term. -/
def TermSumsFit : Formula → Faces → Prop
  | .dice _ _, _ => True
  | .constant n, _ => FitsSigned64 n
  | .sum terms, faces => TermSumsFitFrom 0 terms faces
  | .negate term, faces => term.TermSumsFit faces ∧ FitsSigned64 (-term.totalOf faces)
  | .tagged term _, faces => term.TermSumsFit faces

/-- All values fit that are formed for further terms of a sum whose total so far is given. -/
def TermSumsFitFrom (before : Int) : List Formula → Faces → Prop
  | [], _ => True
  | f :: fs, faces =>
    let total := before + f.totalOf (faces.take f.diceCount)
    f.TermSumsFit (faces.take f.diceCount) ∧ FitsSigned64 total ∧
      TermSumsFitFrom total fs (faces.drop f.diceCount)

end

theorem contains_totalOf (f : Formula) {drawn : Faces} (h : Supplies f.eachDie drawn) :
    f.range.Contains (f.totalOf drawn) := f.totalOf_mem_range h

theorem termSumsFitFrom_append {f : Formula} {first : Faces} (h : Supplies f.eachDie first)
    (before : Int) (fs : List Formula) (rest : Faces) :
    TermSumsFitFrom before (f :: fs) (first ++ rest) ↔
      f.TermSumsFit first ∧ FitsSigned64 (before + f.totalOf first) ∧
        TermSumsFitFrom (before + f.totalOf first) fs rest := by
  have hlength : first.length = f.diceCount := h.length_eq.symm.trans f.length_eachDie
  simp only [TermSumsFitFrom, ← hlength, List.take_left, List.drop_left]

mutual

theorem termSumsFit_of_boundsFit : ∀ (f : Formula) {drawn : Faces}, f.BoundsFit →
    Supplies f.eachDie drawn → f.TermSumsFit drawn
  | .dice _ _, _ => fun _ _ => trivial
  | .constant _, _ => fun hbounds _ => hbounds
  | .sum terms, _ => fun hbounds h =>
    termSumsFitFrom_of_boundsFit terms ⟨Int.le_refl 0, Int.le_refl 0⟩ hbounds h
  | .negate term, _ => fun hbounds h =>
    ⟨termSumsFit_of_boundsFit term hbounds.1 h, hbounds.2.of_contains (term.contains_totalOf h).neg⟩
  | .tagged term _, _ => fun hbounds h => termSumsFit_of_boundsFit term hbounds h

/-- The total so far stays in the range so far. -/
theorem termSumsFitFrom_of_boundsFit : ∀ (fs : List Formula) {before : Range} {n : Int}
    {drawn : Faces}, before.Contains n → SumBoundsFit before fs →
    Supplies (singleDice (leavesOfSum fs)) drawn → TermSumsFitFrom n fs drawn
  | [], _, _, _ => fun _ _ _ => trivial
  | f :: fs, before, n, drawn => fun hn hbounds h => by
    obtain ⟨hf, hrange, hfs⟩ := hbounds
    rw [leavesOfSum, singleDice_append] at h
    obtain ⟨first, rest, rfl, hdrawn, hmore⟩ := h.exists_append
    have htotal := hn.add (f.contains_totalOf hdrawn)
    exact (termSumsFitFrom_append hdrawn n fs rest).mpr ⟨termSumsFit_of_boundsFit f hf hdrawn,
      hrange.of_contains htotal, termSumsFitFrom_of_boundsFit fs htotal hfs hmore⟩

end

/-! ## Sums of faces -/

theorem sides_lt (die : Die) : die.sides < 4294967296 := Nat.lt_succ_of_le die.le

/-- The highest face of a die. -/
def highestFace (die : Die) : Count := ⟨die.sides, sides_lt die⟩

theorem supplies_highestFace (dice : List Die) : Supplies dice (dice.map highestFace) :=
  List.forall₂_map_right_iff.mpr <| List.forall₂_same.mpr fun die _ =>
    ⟨Nat.le_of_succ_le die.two_le, Nat.le_refl _⟩

/-- Where all dice land on their highest faces the sums of faces are the largest. -/
theorem sumsFit_of_highestFace {leaves : List (Count × Die)}
    (h : GroupSumsExact leaves ((singleDice leaves).map highestFace)) : SumsFit leaves := by
  induction leaves with
  | nil => nofun
  | cons l leaves ih =>
    obtain ⟨count, die⟩ := l
    have hfaces : (singleDice ((count, die) :: leaves)).map highestFace =
        List.replicate count.val (highestFace die) ++ (singleDice leaves).map highestFace := by
      rw [singleDice, List.flatMap_cons, List.map_append, List.map_replicate]
      rfl
    rw [hfaces] at h
    obtain ⟨hsum, hleaves⟩ := (groupSumsExact_cons List.length_replicate die leaves _).mp h
    rw [List.map_replicate, List.sum_replicate, smul_eq_mul] at hsum
    exact List.forall_mem_cons.mpr ⟨hsum, ih hleaves⟩

/-- Where the bounds of a formula fit, the faces of its dice terms have exact sums for every supply
just when the greatest of these sums fit. A roll that is given a supply breaks off just when a sum
of faces is not exact. With exact sums of faces no value formed in the roll leaves its width, and
the total is the value of the faces, in the range of the formula. -/
theorem group_sums_exact_iff {f : Formula} (hbounds : f.BoundsFit) :
    ((∀ drawn, Supplies f.eachDie drawn → GroupSumsExact f.leaves drawn) ↔ SumsFit f.leaves) ∧
    ∀ drawn left : Faces, Supplies f.eachDie drawn →
      (f.breaksOff (drawn ++ left) = true ↔ ¬GroupSumsExact f.leaves drawn) ∧
      (GroupSumsExact f.leaves drawn →
        f.TermSumsFit drawn ∧
        f.roll (drawn ++ left) =
          some ⟨f.totalOf drawn, List.zipWith Dice.DieRoll.mk f.eachDie drawn, left⟩ ∧
        f.min ≤ f.totalOf drawn ∧ f.totalOf drawn ≤ f.max) := by
  refine ⟨⟨fun hexact => ?_, fun hfit drawn h => groupSumsExact_of_sumsFit hfit h⟩, ?_⟩
  · exact sumsFit_of_highestFace (hexact _ (supplies_highestFace f.eachDie))
  · intro drawn left h
    refine ⟨breaksOff_iff f left h, fun hexact => ?_⟩
    exact ⟨termSumsFit_of_boundsFit f hbounds h, roll_append_of_exact f left hexact h,
      f.totalOf_mem_range h⟩

/-- Three dice whose greatest sum is `2 ^ 32 - 1`, and a subtracted die. -/
theorem group_sums_exact_iff_largest :
    let large : Die := ⟨1431655765, by decide, by decide⟩
    let d4 : Die := ⟨4, by decide, by decide⟩
    let four : Count := ⟨4, by decide⟩
    let f : Formula := .sum [.dice ⟨3, by decide⟩ large, .negate (.dice 1 d4)]
    f.BoundsFit ∧ SumsFit f.leaves ∧
      f.roll [highestFace large, highestFace large, highestFace large, four] =
        some ⟨4294967291, [⟨large, highestFace large⟩, ⟨large, highestFace large⟩,
          ⟨large, highestFace large⟩, ⟨d4, four⟩], []⟩ := by
  intro large d4 four f
  have hlarge : (range (.dice ⟨3, by decide⟩ large)).Fits := by decide +kernel
  have hsmall : (range (.dice 1 d4)).Fits ∧ (range (.dice 1 d4)).neg.Fits := by decide +kernel
  have hbounds : f.BoundsFit := ⟨hlarge, by decide +kernel, hsmall, by decide +kernel, trivial⟩
  have hfit : SumsFit f.leaves := by decide +kernel
  have hsupply : Supplies f.eachDie
      [highestFace large, highestFace large, highestFace large, four] := by decide +kernel
  obtain ⟨hexact, hroll⟩ := group_sums_exact_iff hbounds
  have htotal := ((hroll _ [] hsupply).2 (hexact.mpr hfit _ hsupply)).2.1
  exact ⟨hbounds, hfit, htotal.trans (by decide +kernel)⟩

/-- The roll of two dice whose faces add up to `2 ^ 32` breaks off. -/
theorem exists_roll_breaks_off :
    ¬∀ (source : String) (f : Formula) (drawn : Faces), read source = .ok f → f.BoundsFit →
      Supplies f.eachDie drawn →
        ∃ r, f.roll drawn = some r ∧ f.min ≤ r.total ∧ r.total ≤ f.max := by
  intro h
  let large : Die := ⟨4294967295, by decide, by decide⟩
  let f : Formula := .dice ⟨2, by decide⟩ large
  let drawn : Faces := [⟨664736232, by decide⟩, ⟨3630231064, by decide⟩]
  have hread : read "2d4294967295" = .ok f := by
    have htokens : Dice.tokens "2d4294967295".toList =
        [⟨[], "2d4294967295".toList, ⟨0, 12⟩, .dice ⟨2, by decide⟩ ⟨4294967295, by decide⟩⟩] := by
      decide +kernel
    refine read_eq_ok_iff.mpr (readChars_eq_ok_iff_derives.mpr ⟨by decide +kernel, ?_⟩)
    rw [htokens]
    exact ⟨[f], .first (.dice rfl rfl), rfl⟩
  have hbounds : f.range.Fits := by decide +kernel
  obtain ⟨r, hr, -, -⟩ := h _ f drawn hread hbounds (by decide +kernel)
  have hnone : f.roll drawn = none := by decide +kernel
  rw [hnone] at hr
  cases hr

end Formula

end CriticalDamage
