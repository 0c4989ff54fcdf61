import CriticalDamage.HostDamage.BonusPath
import CriticalDamage.Proofs.RecordEntries
import CriticalDamage.Proofs.RollSums
import Mathlib

/-!
# Bonuses at addresses

A path leads to many places, one for each choice of an index at its steps into lists. Path and
choice together are an address, at which a document holds one part or none (`Document.resolve?`).
What is meant by the total of a list of paths is the sum of the numbers at all addresses
(`addressSum`), cut to the range of amounts at the end. The walk through the document goes over each
choice that leads to a part exactly once (`mem_choices`, `nodup_choices`), so the total is that sum
(`bonusTotal_eq_addressSum`). It does not depend on the order of the paths nor, by induction on
where a list stands in the document, on the order of the items of any list (`Rearranged`).
-/

namespace CriticalDamage

/-! ## What is meant -/

/-- The whole number next to a rational one in the direction of zero. -/
def towardZero (q : ℚ) : Int := if 0 ≤ q then ⌊q⌋ else ⌈q⌉

/-- The rational number that a floating-point number is. -/
def Binary64.value (x : Binary64) : ℚ :=
  (if x.negative then -1 else 1) * (x.mantissa * 2 ^ x.exponent)

namespace Document

/-- The part at an address: what a path leads to if these items are taken at its steps into
lists. -/
def resolve? : List PathStep → List Nat → Document → Option Document
  | [], [], d => some d
  | .key name :: path, choice, d => (d.get? name).bind (resolve? path choice)
  | .each :: path, i :: choice, .list items => items[i]?.bind (resolve? path choice)
  | _, _, _ => none

/-- The document as a whole number: a number without its fraction, a text that writes one, and zero
for anything else. -/
def integer : Document → Int
  | .whole n => n
  | .real x => towardZero x.value
  | .text s => (Decimal.signed? Width.signed64 (Text.trim s.toList)).getD 0
  | _ => 0

/-- The whole number at an address, and zero where there is nothing. -/
def integerAt (d : Document) (path : List PathStep) (choice : List Nat) : Int :=
  ((d.resolve? path choice).map integer).getD 0

end Document

/-- The numbers at all addresses of the paths, added up. -/
noncomputable def addressSum (paths : List (List PathStep)) (d : Document) : Int :=
  (paths.map fun path => ∑ᶠ choice, d.integerAt path choice).sum

/-- The numbers at all addresses of the paths have 64 bits and a sign. -/
def AddressesFit (paths : List (List PathStep)) (d : Document) : Prop :=
  ∀ path ∈ paths, ∀ choice, FitsSigned64 (d.integerAt path choice)

/-- The second document is the first with the items of lists in another order. -/
inductive Rearranged : Document → Document → Prop
  | refl : Rearranged d d
  | trans : Rearranged d e → Rearranged e f → Rearranged d f
  | items : xs.Perm ys → Rearranged (.list xs) (.list ys)
  | inItem : Rearranged d e →
    Rearranged (.list (before ++ d :: after)) (.list (before ++ e :: after))
  | inField : Rearranged d e →
    Rearranged (.record (before ++ (name, d) :: after)) (.record (before ++ (name, e) :: after))

/-! ## Numbers -/

theorem towardZero_of_nonneg {q : ℚ} (h : 0 ≤ q) : towardZero q = ⌊q⌋ := if_pos h

theorem towardZero_neg {q : ℚ} (h : 0 ≤ q) : towardZero (-q) = -⌊q⌋ := by
  rw [towardZero]
  split
  · next hneg =>
    obtain rfl : q = 0 := le_antisymm (neg_nonneg.mp hneg) h
    simp
  · exact Int.ceil_neg

namespace Binary64

theorem quotient_div (mantissa : Nat) (exponent : Int) :
    ((quotient mantissa exponent).1 : ℚ) / (quotient mantissa exponent).2 =
      mantissa * 2 ^ exponent := by
  rw [quotient]
  split
  · next h =>
    lift exponent to Nat using h
    simp
  · next h =>
    obtain ⟨n, hn⟩ := Int.eq_ofNat_of_zero_le (a := -exponent) (by omega)
    obtain rfl : exponent = -n := by omega
    simp [div_eq_mul_inv]

theorem truncate_eq_towardZero (x : Binary64) : x.truncate = towardZero x.value := by
  have hnonneg : (0 : ℚ) ≤ x.mantissa * 2 ^ x.exponent := by positivity
  have hfloor : ⌊(x.mantissa * 2 ^ x.exponent : ℚ)⌋ =
      ((quotient x.mantissa x.exponent).1 / (quotient x.mantissa x.exponent).2 : Nat) := by
    rw [← quotient_div, Rat.floor_natCast_div_natCast]
    rfl
  rw [truncate, value]
  dsimp only
  split
  · rw [neg_one_mul, towardZero_neg hnonneg, hfloor]
  · rw [one_mul, towardZero_of_nonneg hnonneg, hfloor]

end Binary64

theorem saturate64_eq_self {n : Int} (h : FitsSigned64 n) : saturate64 n = n := by
  obtain ⟨hlow, hhigh⟩ := h
  simp only [Width.signed64] at hlow hhigh
  simp only [saturate64]
  omega

theorem Decimal.fits_of_signed? {n : Int} {cs : List Char}
    (h : signed? Width.signed64 cs = some n) : FitsSigned64 n := by
  have hcheck {m : Int} (hm : (if -(Width.signed64 : Int) ≤ m ∧ m < Width.signed64 then some m
      else none) = some n) : FitsSigned64 n := by
    split at hm
    · next hfit => exact Option.some.inj hm ▸ hfit
    · cases hm
  unfold signed? at h
  -- All three signs go through the same check.
  split at h
  all_goals
    obtain ⟨m, -, hm⟩ := Option.bind_eq_some_iff.mp h
    exact hcheck hm

/-- A bonus is the number that is meant, or the end of the range that this lies beyond. -/
theorem Document.bonus?_getD (d : Document) : d.bonus?.getD 0 = saturate64 d.integer := by
  cases d with
  | whole n => rfl
  | real x => exact congrArg saturate64 x.truncate_eq_towardZero
  | text s =>
    rw [bonus?, integer]
    cases hn : Decimal.signed? Width.signed64 (Text.trim s.toList) with
    | none => rfl
    | some n => exact (saturate64_eq_self (Decimal.fits_of_signed? hn)).symm
  | _ => rfl

/-! ## Addresses -/

namespace Document

/-- The choices for which a path leads somewhere, in the order of the walk. -/
def choices : List PathStep → Document → List (List Nat)
  | [], _ => [[]]
  | .key name :: path, d =>
    match d.get? name with
    | some part => part.choices path
    | none => []
  | .each :: path, d =>
    match d with
    | .list items => items.zipIdx.flatMap fun p => (p.1.choices path).map (p.2 :: ·)
    | _ => []

variable {path : List PathStep} {choice : List Nat} {d : Document}

theorem mem_choices : choice ∈ d.choices path ↔ (d.resolve? path choice).isSome := by
  induction path generalizing choice d with
  | nil => cases choice <;> simp [choices, resolve?]
  | cons step path ih =>
    cases step with
    | key name =>
      rw [choices, resolve?]
      cases d.get? name with
      | none => simp
      | some part => exact ih
    | each =>
      cases d with
      | list items =>
        cases choice with
        | nil => simp [choices, resolve?]
        | cons i choice =>
          rw [resolve?, choices]
          have hitem : (∃ p ∈ items.zipIdx, i :: choice ∈ (p.1.choices path).map (p.2 :: ·)) ↔
              ∃ part, items[i]? = some part ∧ choice ∈ part.choices path := by
            simp [List.mem_zipIdx_iff_getElem?, and_comm]
          rw [List.mem_flatMap, hitem]
          cases items[i]? with
          | none => simp
          | some part => simpa using ih
      | _ => cases choice <;> simp [choices, resolve?]

theorem nodup_choices (path : List PathStep) (d : Document) : (d.choices path).Nodup := by
  induction path generalizing d with
  | nil => exact List.nodup_singleton _
  | cons step path ih =>
    cases step with
    | key name =>
      rw [choices]
      split
      · exact ih _
      · exact List.nodup_nil
    | each =>
      cases d with
      | list items =>
        have hindex : items.zipIdx.Pairwise fun p q => p.2 ≠ q.2 := by
          rw [← List.pairwise_map, List.zipIdx_map_snd]
          exact List.nodup_range'
        refine List.nodup_flatMap.mpr ⟨fun p _ => ?_, hindex.imp fun hne => ?_⟩
        · exact (ih p.1).map fun _ _ h => (List.cons.inj h).2
        · intro choice hp hq
          obtain ⟨_, -, rfl⟩ := List.mem_map.mp hp
          obtain ⟨_, -, hcons⟩ := List.mem_map.mp hq
          exact hne (List.cons.inj hcons).1.symm
      | _ => exact List.nodup_nil

/-- The walk goes to the parts at the choices, one after another. -/
theorem along_eq_filterMap_choices (path : List PathStep) (d : Document) :
    d.along path = (d.choices path).filterMap fun choice => d.resolve? path choice := by
  induction path generalizing d with
  | nil => rfl
  | cons step path ih =>
    cases step with
    | key name =>
      cases hpart : d.get? name with
      | none => simp [along, choices, hpart]
      | some part =>
        simp only [along, choices, resolve?, hpart, Option.bind_some]
        exact ih part
    | each =>
      cases d with
      | list items =>
        have hitem : ∀ p ∈ items.zipIdx, ((p.1.choices path).map (p.2 :: ·)).filterMap
            (fun choice => resolve? (.each :: path) choice (.list items)) = p.1.along path := by
          intro p hp
          rw [List.mem_zipIdx_iff_getElem?] at hp
          simp only [List.filterMap_map, Function.comp_def, resolve?, hp, Option.bind_some]
          exact (ih p.1).symm
        calc items.flatMap (along path ·)
          _ = (items.zipIdx.map Prod.fst).flatMap (along path ·) := by rw [List.zipIdx_map_fst]
          _ = items.zipIdx.flatMap fun p => p.1.along path := List.flatMap_map ..
          _ = ((Document.list items).choices (.each :: path)).filterMap fun choice =>
              resolve? (.each :: path) choice (.list items) := by
            rw [choices, List.filterMap_flatMap, List.flatMap_congr hitem]
      | _ => rfl

end Document

/-! ## Totals -/

theorem sum_filterMap {α : Type} (read : α → Option Int) (xs : List α) :
    (xs.filterMap read).sum = (xs.map fun x => (read x).getD 0).sum := by
  induction xs with
  | nil => rfl
  | cons x xs ih =>
    cases hx : read x with
    | none =>
      rw [List.filterMap_cons_none hx, ih, List.map_cons, List.sum_cons, hx]
      exact (Int.zero_add _).symm
    | some n =>
      rw [List.filterMap_cons_some hx, List.sum_cons, ih, List.map_cons, List.sum_cons, hx]
      rfl

theorem integerAt_of_notMem_choices {path : List PathStep} {choice : List Nat} {d : Document}
    (h : choice ∉ d.choices path) : d.integerAt path choice = 0 := by
  have hnone : d.resolve? path choice = none := by simpa [Document.mem_choices] using h
  rw [Document.integerAt, hnone]
  rfl

theorem addressesFit_of_choices {paths : List (List PathStep)} {d : Document}
    (h : ∀ path ∈ paths, ∀ choice ∈ d.choices path, FitsSigned64 (d.integerAt path choice)) :
    AddressesFit paths d := by
  intro path hpath choice
  by_cases hchoice : choice ∈ d.choices path
  · exact h path hpath choice hchoice
  · rw [integerAt_of_notMem_choices hchoice]
    decide

theorem finsum_integerAt (path : List PathStep) (d : Document) :
    ∑ᶠ choice, d.integerAt path choice =
      ((d.choices path).map fun choice => d.integerAt path choice).sum := by
  have hsupport : (Function.support fun choice => d.integerAt path choice) ⊆
      (d.choices path).toFinset := by
    intro choice hchoice
    by_contra hnot
    refine hchoice (integerAt_of_notMem_choices fun hmem => hnot ?_)
    exact Finset.mem_coe.mpr (List.mem_toFinset.mpr hmem)
  rw [finsum_eq_sum_of_support_subset _ hsupport, List.sum_toFinset _ (d.nodup_choices path)]

/-- The bonuses along a path are the numbers at its addresses, each counted once. -/
theorem bonusAlong_eq_sum (path : List PathStep) (d : Document) :
    bonusAlong path d =
      ((d.choices path).map fun choice => saturate64 (d.integerAt path choice)).sum := by
  have hinteger : ∀ choice ∈ d.choices path,
      ((d.resolve? path choice).bind Document.bonus?).getD 0 =
        saturate64 (d.integerAt path choice) := by
    intro choice hchoice
    obtain ⟨part, hpart⟩ := Option.isSome_iff_exists.mp (Document.mem_choices.mp hchoice)
    rw [Document.integerAt, hpart]
    exact part.bonus?_getD
  calc bonusAlong path d
    _ = ((d.choices path).filterMap fun choice =>
        (d.resolve? path choice).bind Document.bonus?).sum := by
      rw [bonusAlong, Document.along_eq_filterMap_choices, List.filterMap_filterMap]
      rfl
    _ = ((d.choices path).map fun choice => saturate64 (d.integerAt path choice)).sum := by
      rw [sum_filterMap, List.map_congr_left hinteger]

theorem bonusAlong_eq_finsum {path : List PathStep} {d : Document}
    (hfit : ∀ choice, FitsSigned64 (d.integerAt path choice)) :
    bonusAlong path d = ∑ᶠ choice, d.integerAt path choice := by
  rw [bonusAlong_eq_sum, finsum_integerAt]
  exact congrArg List.sum (List.map_congr_left fun choice _ => saturate64_eq_self (hfit choice))

theorem val_bonusTotal (paths : List (List PathStep)) (d : Document) :
    (bonusTotal paths d).val =
      max (-2147483648) (min 2147483647 (paths.map (bonusAlong · d)).sum) := by
  have hsum : paths.foldr (fun path total => bonusAlong path d + total) 0 =
      (paths.map (bonusAlong · d)).sum := by
    rw [List.sum_eq_foldr, List.foldr_map]
  rw [bonusTotal, hsum]
  rfl

theorem sum_bonusAlong {paths : List (List PathStep)} {d : Document} (hfit : AddressesFit paths d) :
    (paths.map (bonusAlong · d)).sum = addressSum paths d :=
  congrArg List.sum (List.map_congr_left fun path hpath => bonusAlong_eq_finsum (hfit path hpath))

/-! ## Order -/

theorem bonusAlong_key (name : String) (path : List PathStep) (d : Document) :
    bonusAlong (.key name :: path) d = (d.get? name).elim 0 (bonusAlong path) := by
  rw [bonusAlong, Document.along]
  cases d.get? name <;> rfl

theorem bonusAlong_each (path : List PathStep) (items : List Document) :
    bonusAlong (.each :: path) (.list items) = (items.map (bonusAlong path)).sum := by
  change ((items.flatMap (Document.along path ·)).filterMap Document.bonus?).sum = _
  rw [List.filterMap_flatMap, List.flatMap, List.sum_flatten, List.map_map]
  rfl

/-- A list is no bonus itself and gives the sum of its items where a path goes on to each of them,
so by induction on the place of a list the order of its items does not matter. -/
theorem Rearranged.bonusAlong_eq {d e : Document} (h : Rearranged d e) (path : List PathStep) :
    bonusAlong path d = bonusAlong path e := by
  induction h generalizing path with
  | refl => rfl
  | trans _ _ ih ih' => exact (ih path).trans (ih' path)
  | items hperm =>
    rcases path with _ | ⟨_ | _, path⟩
    · rfl
    · rfl
    · rw [bonusAlong_each, bonusAlong_each, (hperm.map _).sum_eq]
  | inItem _ ih =>
    rcases path with _ | ⟨_ | _, path⟩
    · rfl
    · rfl
    · simp only [bonusAlong_each, List.map_append, List.map_cons, ih path]
  | @inField d e before name after _ ih =>
    rcases path with _ | ⟨other | _, path⟩
    · rfl
    · rw [bonusAlong_key, bonusAlong_key]
      simp only [Document.get?_append, Document.get?_cons]
      cases (Document.record before).get? other with
      | some part => rfl
      | none =>
        split
        · exact ih path
        · rfl
    · rfl

theorem bonusTotal_perm {paths paths' : List (List PathStep)} (h : paths.Perm paths')
    (d : Document) : bonusTotal paths d = bonusTotal paths' d := by
  apply Amount.ext
  rw [val_bonusTotal, val_bonusTotal, (h.map (bonusAlong · d)).sum_eq]

theorem Rearranged.bonusTotal_eq {d e : Document} (h : Rearranged d e)
    (paths : List (List PathStep)) : bonusTotal paths d = bonusTotal paths e := by
  apply Amount.ext
  rw [val_bonusTotal, val_bonusTotal, List.map_congr_left fun path _ => h.bonusAlong_eq path]

theorem addressSum_append (first second : List (List PathStep)) (d : Document) :
    addressSum (first ++ second) d = addressSum first d + addressSum second d := by
  rw [addressSum, List.map_append, List.sum_append, addressSum, addressSum]

/-- The total of bonuses is the sum of the numbers at all addresses of the paths, of which there are
finitely many, cut to the range of amounts once, if each number has 64 bits and a sign. Lists of
paths add up before the cut, and neither the order of the paths nor the order of the items of any
list in the document matters. All sums are exact; of one that does not fit on the way (`BonusesFit`)
there is no total. -/
theorem bonusTotal_eq_addressSum {paths : List (List PathStep)} {d : Document}
    (hfit : AddressesFit paths d) :
    (∀ path, {choice | (d.resolve? path choice).isSome}.Finite) ∧
    (bonusTotal paths d).val = max (-2147483648) (min 2147483647 (addressSum paths d)) ∧
    (∀ first second, paths = first ++ second → (bonusTotal paths d).val =
      max (-2147483648) (min 2147483647 (addressSum first d + addressSum second d))) ∧
    (∀ paths', paths.Perm paths' → bonusTotal paths' d = bonusTotal paths d) ∧
    ∀ e, Rearranged d e → bonusTotal paths e = bonusTotal paths d := by
  have htotal : (bonusTotal paths d).val =
      max (-2147483648) (min 2147483647 (addressSum paths d)) := by
    rw [val_bonusTotal, sum_bonusAlong hfit]
  refine ⟨fun path => ?_, htotal, ?_, fun paths' h => (bonusTotal_perm h d).symm,
    fun e h => (h.bonusTotal_eq paths).symm⟩
  · exact (d.choices path).finite_toSet.subset fun _ h => Document.mem_choices.mpr h
  · rintro first second rfl
    rw [htotal, addressSum_append]

/-- An item's data with two large bonuses of opposite sign, a bonus as text, and properties. -/
def bonusesWith (properties : List Document) : Document :=
  .record [("modifier", .whole 4294967296), ("flatDamageBonus", .whole (-4294967290)),
    ("bonus", .record [("value", .text " 4 ")]), ("properties", .list properties)]

/-- The large bonuses leave 6, as they are not cut one by one, the text adds 4 and two of three
properties add 5, in whatever order they stand. -/
theorem bonusTotal_eq_addressSum_bonusesWith :
    let properties : List Document := [.record [("bonus", .whole 7)],
      .record [("name", .text "keen")], .record [("bonus", .text "-2")]]
    let d := bonusesWith properties
    let e := bonusesWith properties.reverse
    AddressesFit bonusPaths d ∧ Rearranged d e ∧
    (bonusTotal bonusPaths d).val =
      max (-2147483648) (min 2147483647 (addressSum bonusPaths d)) ∧
    bonusTotal bonusPaths e = bonusTotal bonusPaths d ∧ (bonusTotal bonusPaths e).val = 15 := by
  intro properties d e
  have hfit : AddressesFit bonusPaths d := addressesFit_of_choices (by decide +kernel)
  have hsame : Rearranged d e :=
    @Rearranged.inField _ _ [_, _, _] _ [] (.items properties.reverse_perm.symm)
  obtain ⟨-, htotal, -, -, hrearranged⟩ := bonusTotal_eq_addressSum hfit
  exact ⟨hfit, hsame, htotal, hrearranged e hsame, by decide +kernel⟩

end CriticalDamage
