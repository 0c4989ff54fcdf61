import CriticalDamage.Proofs.InstanceDamage
import CriticalDamage.Proofs.Numerals
import CriticalDamage.Proofs.RecordEntries
import Mathlib

/-!
# The order of instances

Two keys are compared by three things one after another: whether they write a number, that number,
and their characters (`Instances.compareKeys_eq_compareLex`). So their order is total, and keys that
write numbers come first and in numeric order (`Instances.ordersKeys_compareKeys`). Entries of
different names therefore have one arrangement in this order, however they are given
(`Instances.ascending_iff_eq_sorted`), and the damage of a document's instances does not depend on
the order in which it lists them (`instances_have_one_order`).
-/

namespace CriticalDamage

namespace Instances

variable {fields listed : List (String × Document)}

/-! ## Keys -/

/-- The key is a numeral of a number of 64 bits. -/
def WritesNumber (key : String) (n : Nat) : Prop :=
  Decimal.IsNumeral key.toList n ∧ n < Width.unsigned64

/-- What makes a comparison of keys one order of instances: it is total, and the keys that write
numbers come before all others and in the order of their numbers. -/
structure OrdersKeys (cmp : String → String → Ordering) : Prop where
  eq_iff : ∀ {a b}, cmp a b = .eq ↔ a = b
  swap : ∀ a b, cmp b a = (cmp a b).swap
  trans : ∀ {a b c}, (cmp a b).isLE → (cmp b c).isLE → (cmp a c).isLE
  number_lt : ∀ {a b n}, WritesNumber a n → (∀ m, ¬WritesNumber b m) → cmp a b = .lt
  numeric : ∀ {a b m n}, WritesNumber a m → WritesNumber b n → m < n → cmp a b = .lt

theorem keyNumber?_eq_some_iff {key : String} {n : Nat} :
    keyNumber? key = some n ↔ WritesNumber key n := Decimal.unsigned?_eq_some_iff

theorem keyNumber?_eq_none_iff {key : String} :
    keyNumber? key = none ↔ ∀ n, ¬WritesNumber key n := by
  simp only [Option.eq_none_iff_forall_ne_some, ne_eq, keyNumber?_eq_some_iff]

/-- Keys that write no number all have the number zero here, and are told apart by the rest. -/
theorem compareKeys_eq_compareLex :
    compareKeys = compareLex (compareOn fun key => (keyNumber? key).isNone)
      (compareLex (compareOn fun key => (keyNumber? key).getD 0) compare) := by
  funext a b
  rw [compareKeys, compareLex, compareLex, compareOn, compareOn]
  cases keyNumber? a <;> cases keyNumber? b <;> rfl

instance : Std.TransCmp compareKeys := compareKeys_eq_compareLex ▸ inferInstance

instance : Std.LawfulEqCmp compareKeys where
  eq_of_compare {a b} h := by
    rw [compareKeys_eq_compareLex, compareLex_eq_eq, compareLex_eq_eq] at h
    exact Std.compare_eq_iff_eq.mp h.2.2

theorem ordersKeys_compareKeys : OrdersKeys compareKeys where
  eq_iff := Std.LawfulEqCmp.compare_eq_iff_eq
  swap _ _ := Std.OrientedCmp.eq_swap
  trans := Std.TransCmp.isLE_trans
  number_lt ha hb := by
    rw [compareKeys, keyNumber?_eq_some_iff.mpr ha, keyNumber?_eq_none_iff.mpr hb]
  numeric ha hb hlt := by
    rw [compareKeys, keyNumber?_eq_some_iff.mpr ha, keyNumber?_eq_some_iff.mpr hb]
    dsimp only
    rw [Nat.compare_eq_lt.mpr hlt]
    rfl

/-! ## Entries in the order of their keys -/

/-- The entries stand in the order of their keys, which are all different. -/
def Ascending (fields : List (String × Document)) : Prop :=
  fields.Pairwise fun f g => compareKeys f.1 g.1 = .lt

theorem pairwise_sorted (fields : List (String × Document)) :
    (sorted fields).Pairwise fun f g => (compareKeys f.1 g.1).isLE = true := by
  have hle : ∀ f g : String × Document,
      (compareKeys f.1 g.1 != .gt) = true ↔ (compareKeys f.1 g.1).isLE = true := by
    intro f g
    rw [bne_iff_ne, Ordering.isLE_iff_ne_gt]
  have hsorted : (sorted fields).Pairwise fun f g => (compareKeys f.1 g.1 != .gt) = true := by
    apply List.pairwise_mergeSort
    · intro f g h hfg hgh
      rw [hle] at *
      exact ordersKeys_compareKeys.trans hfg hgh
    · intro f g
      rw [Bool.or_eq_true, hle, hle, ordersKeys_compareKeys.swap f.1 g.1]
      cases compareKeys f.1 g.1 with
      | lt => exact .inl rfl
      | eq => exact .inl rfl
      | gt => exact .inr rfl
  exact hsorted.imp fun h => (hle _ _).mp h

theorem ascending_sorted (h : (fields.map (·.1)).Nodup) : Ascending (sorted fields) := by
  have hdistinct : (sorted fields).Pairwise fun f g => f.1 ≠ g.1 :=
    List.pairwise_map.mp (((sorted_perm fields).map _).nodup_iff.mpr h)
  apply ((pairwise_sorted fields).and hdistinct).imp
  rintro f g ⟨hle, hne⟩
  rcases Ordering.isLE_iff_eq_lt_or_eq_eq.mp hle with hlt | heq
  · exact hlt
  · exact absurd (ordersKeys_compareKeys.eq_iff.mp heq) hne

theorem Ascending.eq_of_perm (h : Ascending fields) (h' : Ascending listed)
    (hperm : fields.Perm listed) : fields = listed := by
  have hlt : ∀ f g : String × Document, compareKeys f.1 g.1 = .lt → compareKeys g.1 f.1 ≠ .lt :=
    fun _ _ => Std.OrientedCmp.not_lt_of_lt
  exact hperm.eq_of_pairwise (fun f g _ _ hfg hgf => absurd hgf (hlt f g hfg)) h h'

/-- Entries of different names have one arrangement in the order of their keys. -/
theorem ascending_iff_eq_sorted (h : (fields.map (·.1)).Nodup) (hperm : listed.Perm fields) :
    Ascending listed ↔ listed = sorted fields := by
  have hsorted := ascending_sorted h
  constructor
  · intro hlisted
    exact hlisted.eq_of_perm hsorted (hperm.trans (sorted_perm fields).symm)
  · rintro rfl
    exact hsorted

theorem sorted_of_perm (h : (fields.map (·.1)).Nodup) (hperm : listed.Perm fields) :
    sorted listed = sorted fields := by
  have hlisted : Ascending (sorted listed) := ascending_sorted ((hperm.map _).nodup_iff.mpr h)
  exact (ascending_iff_eq_sorted h ((sorted_perm listed).trans hperm)).mp hlisted

theorem toStructure_canonical_congr {relisted : List (String × Document)}
    (h : Document.SameEntries listed relisted) :
    toStructure (Document.record listed).canonical =
      toStructure (Document.record relisted).canonical := by
  have hsorted := sorted_of_perm (Document.nodup_canonicalFields relisted)
    (Document.canonicalFields_perm h)
  rw [Document.canonical_record, Document.canonical_record, toStructure_record,
    toStructure_record, hsorted]

end Instances

open Instances

/-- Keys have one total order, in which those that write numbers come first and in numeric order.
Entries of different names have one arrangement in this order, and whatever arrangement they are
given in, the base components are those of the entries in this one. So a document's instances give
the same structure in whatever order it lists them, as long as the last entry of every name is the
same. -/
theorem instances_have_one_order :
    OrdersKeys compareKeys ∧
    (∀ fields listed : List (String × Document), (fields.map (·.1)).Nodup → listed.Perm fields →
      (Ascending listed ↔ listed = sorted fields) ∧
      (toStructure (.record listed)).base = (sorted fields).flatMap fun f => ofEntry f.2) ∧
    ∀ listed relisted, Document.SameEntries listed relisted →
      toStructure (Document.record listed).canonical =
        toStructure (Document.record relisted).canonical := by
  refine ⟨ordersKeys_compareKeys, ?_, fun _ _ => toStructure_canonical_congr⟩
  intro fields listed hdistinct hperm
  refine ⟨ascending_iff_eq_sorted hdistinct hperm, ?_⟩
  rw [toStructure_record, sorted_of_perm hdistinct hperm]

/-- Two spellings of the number two come before ten, and ten before a word, in whatever order a
spell lists them. -/
theorem instances_have_one_order_respelled :
    let entry (formula : String) : Document := .record [("formula", .text formula)]
    let ascending := [("+2", entry "1d6"), ("2", entry "1d8"), ("10", entry "1d12"),
      ("extra", entry "1d4")]
    WritesNumber "+2" 2 ∧ WritesNumber "10" 10 ∧ compareKeys "+2" "10" = .lt ∧
    Ascending ascending ∧
    (toStructure (.record ascending.reverse)).base.map (·.die.map (·.sides)) =
      [some 6, some 8, some 12, some 4] ∧
    toStructure (Document.record ascending.reverse).canonical =
      toStructure (Document.record ascending).canonical := by
  intro entry ascending
  obtain ⟨hkeys, hfields, hlisted⟩ := instances_have_one_order
  have hplus : WritesNumber "+2" 2 := keyNumber?_eq_some_iff.mp (by decide +kernel)
  have hten : WritesNumber "10" 10 := keyNumber?_eq_some_iff.mp (by decide +kernel)
  have hascending : Ascending ascending := by
    rw [Ascending]
    decide +kernel
  have hdistinct : (ascending.map (·.1)).Nodup := by decide +kernel
  have hreverse : ascending.reverse.Perm ascending := ascending.reverse_perm
  refine ⟨hplus, hten, hkeys.numeric hplus hten (by decide), hascending, ?_, ?_⟩
  · rw [(hfields ascending _ hdistinct hreverse).2,
      ← (hfields ascending _ hdistinct .rfl).1.mp hascending]
    decide +kernel
  · exact hlisted _ _ (Document.sameEntries_of_perm hdistinct hreverse)

end CriticalDamage
