import CriticalDamage.Formula.Roll
import Mathlib

/-!
# Rolls and ranges of formulas

A supply of faces holds one face for every single die of a formula, from left to right. A roll draws
just such a supply, and its total is the value of the formula in which the faces stand for the dice
(`Formula.roll_append`). The value lies in the range of the formula (`Formula.totalOf_mem_range`);
both ends of the range are values, and a negation exchanges the supplies that give them
(`Formula.exists_range_eq`).
-/

namespace CriticalDamage.Formula

open Dice (DieRoll Faces)

/-! ## Supplies of faces -/

/-- The single dice of some dice terms. -/
def singleDice (leaves : List (Count × Die)) : List Die :=
  leaves.flatMap fun l => List.replicate l.1.val l.2

/-- Every single die that the formula rolls, from left to right. -/
def eachDie (f : Formula) : List Die := singleDice f.leaves

/-- The faces are as many as the dice, and each is between 1 and the sides of its die. -/
def Supplies : List Die → Faces → Prop :=
  List.Forall₂ fun die face => 1 ≤ face.val ∧ face.val ≤ die.sides

instance (dice : List Die) (faces : Faces) : Decidable (Supplies dice faces) :=
  inferInstanceAs (Decidable (List.Forall₂ _ dice faces))

/-- The faces of every dice term have a sum that can be kept. -/
def SumsFit (leaves : List (Count × Die)) : Prop :=
  ∀ l ∈ leaves, l.1.val * l.2.sides < Width.unsigned32

instance : DecidablePred SumsFit := fun leaves => inferInstanceAs (Decidable (∀ l ∈ leaves, _))

/-- Dice terms rolled one after another with these faces have the exact sums of their faces. -/
def GroupSumsExact : List (Count × Die) → Faces → Prop
  | [], _ => True
  | (count, die) :: leaves, faces =>
    match Dice.rollGroup die count.val faces with
    | some (rolls, left) =>
      Dice.faceSum? rolls = some (rolls.map (·.value.val)).sum ∧ GroupSumsExact leaves left
    | none => False

mutual

/-- The value of the formula with the sum of its own faces in the place of each dice term. -/
def totalOf : Formula → Faces → Int
  | .dice _ _, faces => ((faces.map Count.val).sum : Nat)
  | .constant n, _ => n
  | .sum terms, faces => totalOfSum terms faces
  | .negate term, faces => -term.totalOf faces
  | .tagged term _, faces => term.totalOf faces

/-- The terms of a sum have their faces one after the other. -/
def totalOfSum : List Formula → Faces → Int
  | [], _ => 0
  | f :: fs, faces => f.totalOf (faces.take f.diceCount) + totalOfSum fs (faces.drop f.diceCount)

end

theorem singleDice_append (leaves more : List (Count × Die)) :
    singleDice (leaves ++ more) = singleDice leaves ++ singleDice more :=
  List.flatMap_append

theorem length_eachDie (f : Formula) : f.eachDie.length = f.diceCount := by
  rw [eachDie, singleDice, diceCount]
  induction f.leaves with
  | nil => rfl
  | cons l leaves ih =>
    rw [List.flatMap_cons, List.length_append, List.length_replicate, ih, List.foldr_cons]

theorem Supplies.exists_append {dice more : List Die} {faces : Faces}
    (h : Supplies (dice ++ more) faces) :
    ∃ first rest, faces = first ++ rest ∧ Supplies dice first ∧ Supplies more rest := by
  have hfirst := List.forall₂_take dice.length h
  have hrest := List.forall₂_drop dice.length h
  rw [List.take_left] at hfirst
  rw [List.drop_left] at hrest
  exact ⟨_, _, (List.take_append_drop dice.length faces).symm, hfirst, hrest⟩

theorem supplies_replicate_iff {n : Nat} {die : Die} {faces : Faces} :
    Supplies (List.replicate n die) faces ↔
      faces.length = n ∧ ∀ face ∈ faces, 1 ≤ face.val ∧ face.val ≤ die.sides := by
  induction n generalizing faces with
  | zero => simp +contextual [Supplies]
  | succ n ih =>
    cases faces with
    | nil => simp [Supplies, List.replicate_succ]
    | cons face faces =>
      rw [List.replicate_succ, Supplies, List.forall₂_cons, List.forall_mem_cons, List.length_cons,
        Nat.succ_inj]
      exact (and_congr_right fun _ => ih).trans and_left_comm

theorem supplies_replicate_replicate {die : Die} {face : Count} (n : Nat)
    (hface : 1 ≤ face.val ∧ face.val ≤ die.sides) :
    Supplies (List.replicate n die) (List.replicate n face) := by
  refine supplies_replicate_iff.mpr ⟨List.length_replicate, fun other hother => ?_⟩
  rwa [List.eq_of_mem_replicate hother]

theorem eachDie_dice (count : Count) (die : Die) :
    eachDie (.dice count die) = List.replicate count.val die :=
  List.flatMap_singleton _ _

theorem totalOfSum_append {f : Formula} {first : Faces} (h : Supplies f.eachDie first)
    (fs : List Formula) (rest : Faces) :
    totalOfSum (f :: fs) (first ++ rest) = f.totalOf first + totalOfSum fs rest := by
  have hlength : first.length = f.diceCount := h.length_eq.symm.trans f.length_eachDie
  rw [totalOfSum, ← hlength, List.take_left, List.drop_left]

/-! ## Rolls -/

theorem rollGroup_append (die : Die) {n : Nat} {faces : Faces} (hlength : faces.length = n)
    (left : Faces) :
    Dice.rollGroup die n (faces ++ left) =
      some (List.zipWith DieRoll.mk (List.replicate n die) faces, left) := by
  induction faces generalizing n with
  | nil =>
    cases hlength
    rfl
  | cons face faces ih =>
    cases hlength
    simp only [List.length_cons, List.cons_append, Dice.rollGroup, ih rfl]
    rfl

theorem map_value_zipWith {dice : List Die} {faces : Faces} (hlength : dice.length = faces.length) :
    (List.zipWith DieRoll.mk dice faces).map (·.value.val) = faces.map Count.val := by
  induction dice generalizing faces with
  | nil => cases faces <;> [rfl; cases hlength]
  | cons die dice ih =>
    cases faces with
    | nil => cases hlength
    | cons face faces =>
      rw [List.zipWith_cons_cons, List.map_cons, ih (Nat.succ.inj hlength), List.map_cons]

/-- Faces are not negative, so their sum fits just when all sums on the way do. -/
theorem foldlM_add32? {rolls : List DieRoll} {start : Nat} (hstart : start < Width.unsigned32) :
    rolls.foldlM (fun sum r => Width.add32? sum r.value.val) start =
      if start + (rolls.map (·.value.val)).sum < Width.unsigned32 then
        some (start + (rolls.map (·.value.val)).sum)
      else none := by
  induction rolls generalizing start with
  | nil => simp [hstart]
  | cons r rolls ih =>
    rw [List.foldlM_cons, List.map_cons, List.sum_cons, ← Nat.add_assoc, Width.add32?]
    by_cases hnext : start + r.value.val < Width.unsigned32
    · rw [if_pos hnext]
      exact ih hnext
    · rw [if_neg hnext, if_neg (by omega)]
      rfl

theorem faceSum?_zipWith {dice : List Die} {faces : Faces} (hlength : dice.length = faces.length) :
    Dice.faceSum? (List.zipWith DieRoll.mk dice faces) =
      if (faces.map Count.val).sum < Width.unsigned32 then some (faces.map Count.val).sum
      else none := by
  rw [Dice.faceSum?, foldlM_add32? (by decide), map_value_zipWith hlength, Nat.zero_add]

theorem sum_mem_range {die : Die} {faces : Faces}
    (h : ∀ face ∈ faces, 1 ≤ face.val ∧ face.val ≤ die.sides) :
    faces.length ≤ (faces.map Count.val).sum ∧
      (faces.map Count.val).sum ≤ faces.length * die.sides := by
  have hlow := List.card_nsmul_le_sum (faces.map Count.val) 1
  have hhigh := List.sum_le_card_nsmul (faces.map Count.val) die.sides
  simp only [List.forall_mem_map, List.length_map, smul_eq_mul, mul_one] at hlow hhigh
  exact ⟨hlow fun face hface => (h face hface).1, hhigh fun face hface => (h face hface).2⟩

theorem groupSumsExact_cons {count : Count} {own : Faces} (hlength : own.length = count.val)
    (die : Die) (leaves : List (Count × Die)) (rest : Faces) :
    GroupSumsExact ((count, die) :: leaves) (own ++ rest) ↔
      (own.map Count.val).sum < Width.unsigned32 ∧ GroupSumsExact leaves rest := by
  have hdice : (List.replicate count.val die).length = own.length := by
    rw [List.length_replicate, hlength]
  simp only [GroupSumsExact, rollGroup_append die hlength, map_value_zipWith hdice,
    faceSum?_zipWith hdice, Option.ite_none_right_eq_some, and_true]

theorem groupSumsExact_append {leaves : List (Count × Die)} {first : Faces}
    (h : Supplies (singleDice leaves) first) (more : List (Count × Die)) (rest : Faces) :
    GroupSumsExact (leaves ++ more) (first ++ rest) ↔
      GroupSumsExact leaves first ∧ GroupSumsExact more rest := by
  induction leaves generalizing first with
  | nil =>
    cases h
    exact (and_iff_right trivial).symm
  | cons l leaves ih =>
    obtain ⟨own, others, rfl, hown, hothers⟩ := Supplies.exists_append h
    have hlength := (supplies_replicate_iff.mp hown).1
    rw [List.cons_append, List.append_assoc, groupSumsExact_cons hlength, ih hothers,
      groupSumsExact_cons hlength, and_assoc]

theorem groupSumsExact_of_sumsFit {leaves : List (Count × Die)} {drawn : Faces}
    (hfit : SumsFit leaves) (h : Supplies (singleDice leaves) drawn) :
    GroupSumsExact leaves drawn := by
  induction leaves generalizing drawn with
  | nil => trivial
  | cons l leaves ih =>
    obtain ⟨hl, hleaves⟩ := List.forall_mem_cons.mp hfit
    obtain ⟨own, others, rfl, hown, hothers⟩ := Supplies.exists_append h
    obtain ⟨hlength, hfaces⟩ := supplies_replicate_iff.mp hown
    have hsum := (sum_mem_range hfaces).2
    rw [hlength] at hsum
    exact (groupSumsExact_cons hlength _ _ _).mpr ⟨Nat.lt_of_le_of_lt hsum hl, ih hleaves hothers⟩

mutual

/-- A roll draws a supply and leaves the faces after it. -/
theorem roll_append_of_exact : ∀ (f : Formula) {drawn : Faces} (left : Faces),
    GroupSumsExact f.leaves drawn → Supplies f.eachDie drawn →
    f.roll (drawn ++ left) =
      some ⟨f.totalOf drawn, List.zipWith DieRoll.mk f.eachDie drawn, left⟩
  | .dice count die, drawn, left => fun hexact h => by
    rw [eachDie_dice] at h ⊢
    have hlength := (supplies_replicate_iff.mp h).1
    rw [← List.append_nil drawn] at hexact
    have hsum := ((groupSumsExact_cons hlength _ _ _).mp hexact).1
    simp only [roll, rollGroup_append die hlength, Option.bind_eq_bind, Option.bind_some,
      faceSum?_zipWith h.length_eq, if_pos hsum, totalOf]
    rfl
  | .constant n, drawn, left => fun _ h => by
    cases h
    rfl
  | .sum terms, drawn, left => fun hexact h => rollSum_append terms left hexact h
  | .negate term, drawn, left => fun hexact h => by
    simp only [roll, roll_append_of_exact term left hexact h, Option.bind_eq_bind,
      Option.bind_some]
    rfl
  | .tagged term _, drawn, left => fun hexact h => roll_append_of_exact term left hexact h

theorem rollSum_append : ∀ (fs : List Formula) {drawn : Faces} (left : Faces),
    GroupSumsExact (leavesOfSum fs) drawn → Supplies (singleDice (leavesOfSum fs)) drawn →
    rollSum fs (drawn ++ left) = some ⟨totalOfSum fs drawn,
      List.zipWith DieRoll.mk (singleDice (leavesOfSum fs)) drawn, left⟩
  | [], drawn, left => fun _ h => by
    cases h
    rfl
  | f :: fs, drawn, left => fun hexact h => by
    rw [leavesOfSum, singleDice_append] at h ⊢
    obtain ⟨first, rest, rfl, hdrawn, hmore⟩ := h.exists_append
    obtain ⟨hfirst, hrest⟩ := (groupSumsExact_append hdrawn _ _).mp hexact
    rw [List.append_assoc, rollSum, roll_append_of_exact f _ hfirst hdrawn,
      totalOfSum_append hdrawn, List.zipWith_append hdrawn.length_eq]
    simp only [Option.bind_eq_bind, Option.bind_some, rollSum_append fs left hrest hmore]
    rfl

end

mutual

theorem groupSumsExact_of_roll : ∀ (f : Formula) {drawn left : Faces},
    Supplies f.eachDie drawn → (f.roll (drawn ++ left)).isSome = true →
    GroupSumsExact f.leaves drawn
  | .dice count die, drawn, left => fun h hroll => by
    rw [eachDie_dice] at h
    have hlength := (supplies_replicate_iff.mp h).1
    rw [leaves, ← List.append_nil drawn, groupSumsExact_cons hlength]
    refine ⟨?_, trivial⟩
    by_contra hsum
    simp only [roll, rollGroup_append die hlength, Option.bind_eq_bind, Option.bind_some,
      faceSum?_zipWith h.length_eq, if_neg hsum] at hroll
    cases hroll
  | .constant _, _, _ => fun _ _ => trivial
  | .sum terms, _, _ => fun h hroll => groupSumsExact_of_rollSum terms h hroll
  | .negate term, drawn, left => fun h hroll => by
    exact groupSumsExact_of_roll term h (Option.isSome_of_isSome_bind hroll)
  | .tagged term _, _, _ => fun h hroll => groupSumsExact_of_roll term h hroll

/-- Each term has drawn its own supply, so the next one starts right after it. -/
theorem groupSumsExact_of_rollSum : ∀ (fs : List Formula) {drawn left : Faces},
    Supplies (singleDice (leavesOfSum fs)) drawn → (rollSum fs (drawn ++ left)).isSome = true →
    GroupSumsExact (leavesOfSum fs) drawn
  | [], _, _ => fun _ _ => trivial
  | f :: fs, drawn, left => fun h hroll => by
    rw [leavesOfSum, singleDice_append] at h
    obtain ⟨first, rest, rfl, hdrawn, hmore⟩ := h.exists_append
    rw [List.append_assoc, rollSum, Option.bind_eq_bind] at hroll
    have hfirst := groupSumsExact_of_roll f hdrawn (Option.isSome_of_isSome_bind hroll)
    rw [roll_append_of_exact f _ hfirst hdrawn, Option.bind_some] at hroll
    have hrest := groupSumsExact_of_rollSum fs hmore (Option.isSome_of_isSome_bind hroll)
    exact (groupSumsExact_append hdrawn _ _).mpr ⟨hfirst, hrest⟩

end

theorem roll_isSome_iff (f : Formula) {drawn : Faces} (left : Faces)
    (h : Supplies f.eachDie drawn) :
    (f.roll (drawn ++ left)).isSome = true ↔ GroupSumsExact f.leaves drawn := by
  refine ⟨groupSumsExact_of_roll f h, fun hexact => ?_⟩
  rw [roll_append_of_exact f left hexact h]
  rfl

/-- A roll that is given a supply breaks off just when some sum of faces is not exact. -/
theorem breaksOff_iff (f : Formula) {drawn : Faces} (left : Faces)
    (h : Supplies f.eachDie drawn) :
    f.breaksOff (drawn ++ left) = true ↔ ¬GroupSumsExact f.leaves drawn := by
  have hlength : f.diceCount ≤ (drawn ++ left).length := by
    rw [← f.length_eachDie, h.length_eq, List.length_append]
    exact Nat.le_add_right _ _
  rw [← roll_isSome_iff f left h, breaksOff, decide_eq_true hlength, Bool.true_and]
  simp

theorem roll_append (f : Formula) {drawn : Faces} (left : Faces) (hfit : SumsFit f.leaves)
    (h : Supplies f.eachDie drawn) :
    f.roll (drawn ++ left) =
      some ⟨f.totalOf drawn, List.zipWith DieRoll.mk f.eachDie drawn, left⟩ :=
  roll_append_of_exact f left (groupSumsExact_of_sumsFit hfit h) h

/-! ## Values and ranges -/

mutual

theorem totalOf_mem_range : ∀ (f : Formula) {drawn : Faces}, Supplies f.eachDie drawn →
    f.range.low ≤ f.totalOf drawn ∧ f.totalOf drawn ≤ f.range.high
  | .dice count die, drawn => fun h => by
    rw [eachDie_dice] at h
    obtain ⟨hlength, hfaces⟩ := supplies_replicate_iff.mp h
    obtain ⟨hlow, hhigh⟩ := sum_mem_range hfaces
    rw [hlength] at hlow hhigh
    rw [range, totalOf, ← Int.natCast_mul]
    exact ⟨Int.ofNat_le.mpr hlow, Int.ofNat_le.mpr hhigh⟩
  | .constant n, _ => fun _ => ⟨Int.le_refl n, Int.le_refl n⟩
  | .sum terms, _ => fun h => totalOfSum_mem_range terms h
  | .negate term, _ => fun h =>
    have hterm := totalOf_mem_range term h
    ⟨Int.neg_le_neg hterm.2, Int.neg_le_neg hterm.1⟩
  | .tagged term _, _ => fun h => totalOf_mem_range term h

theorem totalOfSum_mem_range : ∀ (fs : List Formula) {drawn : Faces},
    Supplies (singleDice (leavesOfSum fs)) drawn →
    (rangeSum fs).low ≤ totalOfSum fs drawn ∧ totalOfSum fs drawn ≤ (rangeSum fs).high
  | [], _ => fun _ => ⟨Int.le_refl 0, Int.le_refl 0⟩
  | f :: fs, _ => fun h => by
    rw [leavesOfSum, singleDice_append] at h
    obtain ⟨first, rest, rfl, hdrawn, hmore⟩ := h.exists_append
    have hfirst := totalOf_mem_range f hdrawn
    have hrest := totalOfSum_mem_range fs hmore
    rw [totalOfSum_append hdrawn]
    exact ⟨Int.add_le_add hfirst.1 hrest.1, Int.add_le_add hfirst.2 hrest.2⟩

end

mutual

/-- Two supplies give the ends of the range. -/
theorem exists_range_eq : ∀ f : Formula, ∃ low high, Supplies f.eachDie low ∧
    Supplies f.eachDie high ∧ f.range = ⟨f.totalOf low, f.totalOf high⟩
  | .dice count die => by
    have hone : 1 ≤ die.sides := Nat.le_of_succ_le die.two_le
    let highest : Count := ⟨die.sides, Nat.lt_succ_of_le die.le⟩
    refine ⟨List.replicate count.val 1, List.replicate count.val highest, ?_, ?_, ?_⟩
    · exact eachDie_dice count die ▸ supplies_replicate_replicate _ ⟨Nat.le_refl 1, hone⟩
    · exact eachDie_dice count die ▸ supplies_replicate_replicate _ ⟨hone, Nat.le_refl _⟩
    · have hlow : count.val * (1 : Count).val = count.val := Nat.mul_one _
      simp only [range, totalOf, List.map_replicate, List.sum_replicate, smul_eq_mul, hlow,
        Int.natCast_mul, highest]
  | .constant n => ⟨[], [], .nil, .nil, rfl⟩
  | .sum terms => exists_rangeSum_eq terms
  | .negate term => by
    -- the faces that make the term great make the difference small
    obtain ⟨low, high, hlow, hhigh, hrange⟩ := exists_range_eq term
    refine ⟨high, low, hhigh, hlow, ?_⟩
    rw [range, hrange]
    rfl
  | .tagged term _ => exists_range_eq term

theorem exists_rangeSum_eq : ∀ fs : List Formula, ∃ low high,
    Supplies (singleDice (leavesOfSum fs)) low ∧ Supplies (singleDice (leavesOfSum fs)) high ∧
      rangeSum fs = ⟨totalOfSum fs low, totalOfSum fs high⟩
  | [] => ⟨[], [], .nil, .nil, rfl⟩
  | f :: fs => by
    obtain ⟨low, high, hlow, hhigh, hrange⟩ := exists_range_eq f
    obtain ⟨lows, highs, hlows, hhighs, hranges⟩ := exists_rangeSum_eq fs
    rw [leavesOfSum, singleDice_append]
    refine ⟨low ++ lows, high ++ highs, List.rel_append hlow hlows, List.rel_append hhigh hhighs, ?_⟩
    rw [rangeSum, hrange, hranges, totalOfSum_append hlow, totalOfSum_append hhigh]
    rfl

end

/-- A formula whose sums of faces can be kept draws one face for every die, records them in order
and has the value of its faces as total, in its range; some supplies give the ends of the range. -/
theorem roll_of_supply (f : Formula) (hfit : SumsFit f.leaves) :
    (∀ drawn left : Faces, Supplies f.eachDie drawn →
      drawn.length = f.diceCount ∧
      f.roll (drawn ++ left) =
        some ⟨f.totalOf drawn, List.zipWith DieRoll.mk f.eachDie drawn, left⟩ ∧
      f.min ≤ f.totalOf drawn ∧ f.totalOf drawn ≤ f.max) ∧
    (∃ drawn, Supplies f.eachDie drawn ∧ (f.roll drawn).map (·.total) = some f.min) ∧
    ∃ drawn, Supplies f.eachDie drawn ∧ (f.roll drawn).map (·.total) = some f.max := by
  have hroll : ∀ drawn, Supplies f.eachDie drawn →
      (f.roll drawn).map (·.total) = some (f.totalOf drawn) := by
    intro drawn h
    have hdrawn := roll_append f [] hfit h
    rw [List.append_nil] at hdrawn
    rw [hdrawn, Option.map_some]
  obtain ⟨low, high, hlow, hhigh, hrange⟩ := exists_range_eq f
  refine ⟨fun drawn left h => ?_, ⟨low, hlow, ?_⟩, high, hhigh, ?_⟩
  · exact ⟨h.length_eq.symm.trans f.length_eachDie, roll_append f left hfit h,
      totalOf_mem_range f h⟩
  · rw [hroll low hlow, min, hrange]
  · rw [hroll high hhigh, max, hrange]

/-- The last of three faces is subtracted, and the fourth is left. -/
theorem roll_of_supply_subtracted :
    let d4 : Die := ⟨4, by decide, by decide⟩
    let d6 : Die := ⟨6, by decide, by decide⟩
    let one : Count := 1
    let f : Formula :=
      .tagged (.sum [.dice ⟨2, by decide⟩ d6, .negate (.dice one d4), .constant 3]) "fire"
    SumsFit f.leaves ∧
      f.roll [⟨6, by decide⟩, one, ⟨4, by decide⟩, ⟨2, by decide⟩] =
        some ⟨6, [⟨d6, ⟨6, by decide⟩⟩, ⟨d6, one⟩, ⟨d4, ⟨4, by decide⟩⟩], [⟨2, by decide⟩]⟩ ∧
      f.min ≤ 6 ∧ 6 ≤ f.max := by
  intro d4 d6 one f
  have hfit : SumsFit f.leaves := by decide
  have hsupply : Supplies f.eachDie [⟨6, by decide⟩, one, ⟨4, by decide⟩] := by decide
  have hroll := (roll_of_supply f hfit).1 _ [⟨2, by decide⟩] hsupply
  exact ⟨hfit, hroll.2⟩

end CriticalDamage.Formula
