import CriticalDamage.Dice.Token
import CriticalDamage.HostDamage.Traits
import CriticalDamage.Proofs.TagNames
import Mathlib.Data.List.Forall2

/-!
# The dice of traits

After its hyphen a trait such as `deadly-2d10` writes a die, or a count and a die (`WritesDice`). It
is read by a split at the first `d`: a count, or nothing, stands before it and a tag after it
(`ReadsDice`). Tags are read with blanks around them and with a `d` of their own, so the two are not
the same: `dd8` writes no die and is read as one, and a blank before `d8` is taken for a count. With
one `d` at most and no blanks they agree (`readsDice_iff_writesDice`).
-/

namespace CriticalDamage

open Dice (isDieMark)

/-! ## Written and read dice -/

/-- The text is a die, or a count and a die. -/
def WritesDice (suffix : List Char) (count : Count) (die : Die) : Prop :=
  count = 1 ∧ Die.ofTag? suffix = some die ∨
  ∃ digits sides, suffix = digits ++ 'd' :: sides ∧
    Decimal.unsigned? Width.unsigned32 digits = some count.val ∧
    Die.ofTag? ('d' :: sides) = some die

/-- A tag stands after the first `d` of the text, and a count or nothing before it; or the text has
no `d` and is a tag. -/
def ReadsDice (suffix : List Char) (count : Count) (die : Die) : Prop :=
  'd' ∉ suffix ∧ count = 1 ∧ Die.ofTag? suffix = some die ∨
  ∃ digits tag, suffix = digits ++ 'd' :: tag ∧
    (digits = [] ∧ count = 1 ∨ Decimal.unsigned? Width.unsigned32 digits = some count.val) ∧
    Die.ofTag? tag = some die

theorem Decimal.dieMark_notMem_of_unsigned? {bound n : Nat} {cs : List Char}
    (h : unsigned? bound cs = some n) : 'd' ∉ cs := by
  intro hd
  rcases mem_of_unsigned? h hd with hplus | hdigit
  · exact absurd hplus (by decide)
  · exact absurd hdigit (by decide)

/-! ## Where the two agree -/

namespace Die

theorem ofTag?_of_unmarked {cs : List Char} (hblank : ∀ c ∈ cs, Text.isBlank c = false)
    (hmark : ∀ c ∈ cs.head?, isDieMark c = false) :
    ofTag? cs = (Decimal.unsigned? Width.unsigned32 cs).bind ofSides? := by
  rw [ofTag?, Text.trim_eq_self hblank]
  cases cs with
  | nil => rfl
  | cons c cs =>
    have hc := hmark c rfl
    rw [isDieMark, Bool.or_eq_false_iff, beq_eq_false_iff_ne, beq_eq_false_iff_ne] at hc
    split
    · next h => exact absurd (List.cons.inj h).1 hc.1
    · next h => exact absurd (List.cons.inj h).1 hc.2
    · rfl

/-- A tag without blanks that begins with no `d` is the same die after one. -/
theorem ofTag?_cons {cs : List Char} (hblank : ∀ c ∈ cs, Text.isBlank c = false)
    (hmark : ∀ c ∈ cs, isDieMark c = false) : ofTag? ('d' :: cs) = ofTag? cs := by
  have htrim : Text.trim ('d' :: cs) = 'd' :: cs :=
    Text.trim_eq_self (List.forall_mem_cons.mpr ⟨by decide, hblank⟩)
  rw [ofTag?_of_unmarked hblank fun c hc => hmark c (List.mem_of_mem_head? hc), ofTag?, htrim]
  rfl

end Die

theorem unmarked_of_countP {digits sides : List Char}
    (h : (digits ++ 'd' :: sides).countP isDieMark ≤ 1) :
    (∀ c ∈ digits, isDieMark c = false) ∧ ∀ c ∈ sides, isDieMark c = false := by
  have hd : isDieMark 'd' = true := rfl
  rw [List.countP_append, List.countP_cons_of_pos hd] at h
  have hdigits : digits.countP isDieMark = 0 := by omega
  have hsides : sides.countP isDieMark = 0 := by omega
  simp only [List.countP_eq_zero, Bool.not_eq_true] at hdigits hsides
  exact ⟨hdigits, hsides⟩

/-- Without blanks and with one `d` at most, dice are read as they are written. -/
theorem readsDice_iff_writesDice {suffix : List Char} {count : Count} {die : Die}
    (hblank : ∀ c ∈ suffix, Text.isBlank c = false) (hmark : suffix.countP isDieMark ≤ 1) :
    ReadsDice suffix count die ↔ WritesDice suffix count die := by
  have htag : ∀ {digits sides : List Char}, suffix = digits ++ 'd' :: sides →
      Die.ofTag? ('d' :: sides) = Die.ofTag? sides := by
    rintro digits sides rfl
    have hsides := (unmarked_of_countP hmark).2
    exact Die.ofTag?_cons (fun c hc => hblank c (by simp [hc])) hsides
  constructor
  · rintro (⟨-, hone, hdie⟩ | ⟨digits, tag, hsuffix, hcount, hdie⟩)
    · exact .inl ⟨hone, hdie⟩
    · rw [← htag hsuffix] at hdie
      rcases hcount with ⟨rfl, hone⟩ | hcount
      · exact .inl ⟨hone, by rw [hsuffix]; exact hdie⟩
      · exact .inr ⟨digits, tag, hsuffix, hcount, hdie⟩
  · rintro (⟨hone, hdie⟩ | ⟨digits, sides, hsuffix, hcount, hdie⟩)
    · by_cases hd : 'd' ∈ suffix
      · obtain ⟨digits, sides, hsuffix⟩ := List.append_of_mem hd
        cases digits with
        | nil =>
          rw [hsuffix, List.nil_append, htag hsuffix] at hdie
          exact .inr ⟨[], sides, hsuffix, .inl ⟨rfl, hone⟩, hdie⟩
        | cons c digits =>
          -- A die that begins with another character than `d` is a number and has no `d` at all.
          subst hsuffix
          have hc := (unmarked_of_countP hmark).1 c List.mem_cons_self
          rw [Die.ofTag?_of_unmarked hblank (by rintro x ⟨⟩; exact hc)] at hdie
          obtain ⟨n, hn, -⟩ := Option.bind_eq_some_iff.mp hdie
          exact absurd hd (Decimal.dieMark_notMem_of_unsigned? hn)
      · exact .inl ⟨hd, hone, hdie⟩
    · exact .inr ⟨digits, sides, hsuffix, .inr hcount, by rwa [← htag hsuffix]⟩

/-! ## Reading traits -/

/-- The trait is called deadly, and the text follows its hyphen. -/
def IsDeadly (token : String) (suffix : List Char) : Prop :=
  token.toList = ['d', 'e', 'a', 'd', 'l', 'y'] ++ '-' :: suffix

theorem traitDice?_eq_some_iff {suffix : List Char} {count : Count} {die : Die} :
    traitDice? suffix = some (count, die) ↔ ReadsDice suffix count die := by
  constructor
  · intro h
    rw [traitDice?] at h
    split at h
    · next tag hsplit =>
      obtain ⟨hsuffix, -⟩ := Text.splitOnce?_eq_some_iff.mp hsplit
      obtain ⟨die', hdie, hp⟩ := Option.map_eq_some_iff.mp h
      cases hp
      exact .inr ⟨[], tag, hsuffix, .inl ⟨rfl, rfl⟩, hdie⟩
    · next digits tag _ hsplit =>
      obtain ⟨hsuffix, -⟩ := Text.splitOnce?_eq_some_iff.mp hsplit
      obtain ⟨n, hn, h⟩ := Option.bind_eq_some_iff.mp h
      obtain ⟨count', hcount, h⟩ := Option.bind_eq_some_iff.mp h
      obtain ⟨die', hdie, hp⟩ := Option.bind_eq_some_iff.mp h
      cases hp
      have hlt : n < 4294967296 := Decimal.lt_of_unsigned? hn
      rw [Count.ofNat?, dif_pos hlt] at hcount
      cases hcount
      exact .inr ⟨digits, tag, hsuffix, .inr hn, hdie⟩
    · next hsplit =>
      obtain ⟨die', hdie, hp⟩ := Option.map_eq_some_iff.mp h
      cases hp
      exact .inl ⟨Text.splitOnce?_eq_none_iff.mp hsplit, rfl, hdie⟩
  · rintro (⟨hd, hone, hdie⟩ | ⟨digits, tag, rfl, ⟨rfl, hone⟩ | hcount, hdie⟩)
    · rw [traitDice?, Text.splitOnce?_eq_none_iff.mpr hd, hone]
      simp [hdie]
    · rw [traitDice?, Text.splitOnce?_append List.not_mem_nil, hone]
      simp [hdie]
    · have hd := Decimal.dieMark_notMem_of_unsigned? hcount
      have hne : digits ≠ [] := by
        rintro rfl
        cases hcount
      rw [traitDice?, Text.splitOnce?_append hd]
      simp [hcount, hdie, Count.ofNat?, count.lt]

theorem criticalDice?_eq_some_iff {type : DamageType} {token : String} {e : ExtraDice} :
    criticalDice? type token = some e ↔ ∃ suffix count die, IsDeadly token suffix ∧
      ReadsDice suffix count die ∧ e = .onCritical token (.ofDice count die type) := by
  rw [criticalDice?]
  constructor
  · intro h
    obtain ⟨⟨name, suffix⟩, hsplit, h⟩ := Option.bind_eq_some_iff.mp h
    obtain ⟨htoken, -⟩ := Text.splitOnce?_eq_some_iff.mp hsplit
    dsimp only at h
    split at h
    · cases h
    · next hname =>
      have hname : name = ['d', 'e', 'a', 'd', 'l', 'y'] := by
        simpa [criticalDiceTraits] using hname
      obtain ⟨⟨count, die⟩, hdice, h⟩ := Option.bind_eq_some_iff.mp h
      rw [hname] at htoken
      exact ⟨suffix, count, die, htoken, traitDice?_eq_some_iff.mp hdice,
        (Option.some.inj h).symm⟩
  · rintro ⟨suffix, count, die, htoken, hread, rfl⟩
    have hname : '-' ∉ ['d', 'e', 'a', 'd', 'l', 'y'] := by decide
    rw [htoken, Text.splitOnce?_append hname]
    simp [criticalDiceTraits, traitDice?_eq_some_iff.mpr hread]

theorem IsDeadly.criticalDice? {token : String} {suffix : List Char} {count : Count} {die : Die}
    (h : IsDeadly token suffix) (hread : ReadsDice suffix count die) (type : DamageType) :
    criticalDice? type token = some (.onCritical token (.ofDice count die type)) :=
  criticalDice?_eq_some_iff.mpr ⟨suffix, count, die, h, hread, rfl⟩

/-- The dice of the deadly traits that are read as one die at least, in the order of the traits. -/
inductive DeadlyDice (Reads : List Char → Count → Die → Prop) :
    List String → List (Count × Die) → Prop
  | nil : DeadlyDice Reads [] []
  | take : IsDeadly token suffix → Reads suffix count die → 0 < count.val →
    DeadlyDice Reads tokens dice → DeadlyDice Reads (token :: tokens) ((count, die) :: dice)
  | skip : (∀ suffix count die, IsDeadly token suffix → Reads suffix count die → count = 0) →
    DeadlyDice Reads tokens dice → DeadlyDice Reads (token :: tokens) dice

/-- The dice after the hyphen of each deadly trait have no blanks and one `d` at most. -/
def WrittenPlainly (tokens : List String) : Prop :=
  ∀ token ∈ tokens, ∀ suffix, IsDeadly token suffix →
    (∀ c ∈ suffix, Text.isBlank c = false) ∧ suffix.countP isDieMark ≤ 1

theorem DeadlyDice.congr {Reads Reads' : List Char → Count → Die → Prop} {tokens : List String}
    {dice : List (Count × Die)} (h : DeadlyDice Reads tokens dice)
    (hreads : ∀ token ∈ tokens, ∀ suffix count die, IsDeadly token suffix →
      (Reads suffix count die ↔ Reads' suffix count die)) : DeadlyDice Reads' tokens dice := by
  induction h with
  | nil => exact .nil
  | take htoken hread hcount _ ih =>
    obtain ⟨hfirst, hrest⟩ := List.forall_mem_cons.mp hreads
    exact .take htoken ((hfirst _ _ _ htoken).mp hread) hcount (ih hrest)
  | skip hnone _ ih =>
    obtain ⟨hfirst, hrest⟩ := List.forall_mem_cons.mp hreads
    exact .skip (fun suffix count die htoken hread =>
      hnone suffix count die htoken ((hfirst _ _ _ htoken).mpr hread)) (ih hrest)

theorem DeadlyDice.writesDice {tokens : List String} {dice : List (Count × Die)}
    (h : DeadlyDice ReadsDice tokens dice) (hplain : WrittenPlainly tokens) :
    DeadlyDice WritesDice tokens dice := by
  refine h.congr fun token htoken suffix count die hdeadly => ?_
  obtain ⟨hblank, hmark⟩ := hplain token htoken suffix hdeadly
  exact readsDice_iff_writesDice hblank hmark

/-- The extra dice of traits that have a count are the deadly dice, in order. -/
theorem exists_deadlyDice (type : DamageType) (tokens : List String) :
    ∃ dice, DeadlyDice ReadsDice tokens dice ∧
      List.Forall₂ (fun e x => 0 < x.1.val ∧ ∃ token, e = .onCritical token (.ofDice x.1 x.2 type))
        ((traitEntries type tokens).filter fun e => 0 < e.component.count.val) dice := by
  induction tokens with
  | nil => exact ⟨[], .nil, .nil⟩
  | cons token tokens ih =>
    obtain ⟨dice, hdice, hentries⟩ := ih
    cases hentry : criticalDice? type token with
    | none =>
      refine ⟨dice, .skip (fun suffix count die hdeadly hread => ?_) hdice, ?_⟩
      · exact absurd (hentry.symm.trans (hdeadly.criticalDice? hread type)) nofun
      · rwa [traitEntries, List.filterMap_cons_none hentry]
    | some e =>
      obtain ⟨suffix, count, die, hdeadly, hread, rfl⟩ := criticalDice?_eq_some_iff.mp hentry
      rw [traitEntries, List.filterMap_cons_some hentry, List.filter_cons]
      by_cases hpos : 0 < (ExtraDice.onCritical token (.ofDice count die type)).component.count.val
      · refine ⟨(count, die) :: dice, .take hdeadly hread hpos hdice, ?_⟩
        rw [if_pos (decide_eq_true hpos)]
        exact .cons ⟨hpos, token, rfl⟩ hentries
      · refine ⟨dice, .skip (fun suffix' count' die' hdeadly' hread' => ?_) hdice, ?_⟩
        · -- A trait is read in one way, so any count of it is the one that is zero.
          obtain rfl : count = count' := congrArg (·.component.count)
            (Option.some.inj (hentry.symm.trans (hdeadly'.criticalDice? hread' type)))
          exact Count.ext (Nat.eq_zero_of_not_pos hpos)
        · rwa [if_neg (mt of_decide_eq_true hpos)]

end CriticalDamage
