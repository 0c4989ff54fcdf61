import CriticalDamage.Proofs.Estimates
import CriticalDamage.Proofs.ModifierOrder
import CriticalDamage.Proofs.RecordEntries

/-!
# Deadly traits

The traits of a weapon are read for their dice only. Documents that agree on everything else
(`SameButTraits`) describe the same base components and the same modifier, and their extra dice are
those of their own deadly traits (`SameButTraits.damage`). An assembly puts extra dice at its end
(`assemble_eq_append`) and leaves these out on a normal hit. So deadly traits change nothing on a
normal hit, and on a critical hit each of them that is read as dice is one more part, whose dice are
rolled and not maximized (`assemble_deadly_dice`).

What is read as dice is more than what is written as dice: `deadly-dd8` adds a die, too
(`exists_unwritten_deadly_die`).
-/

namespace CriticalDamage

/-- The documents hold the same under every name but that of the traits. -/
def SameButTraits (d e : Document) : Prop := ∀ name, name ≠ "traits" → d.get? name = e.get? name

theorem sameButTraits_record (before after : List (String × Document)) (traits traits' : Document) :
    SameButTraits (.record (before ++ ("traits", traits) :: after))
      (.record (before ++ ("traits", traits') :: after)) := by
  intro name hname
  simp only [Document.get?_append, Document.get?_cons, if_neg hname.symm]

/-! ## What traits do not affect -/

namespace SameButTraits

variable {d e : Document}

theorem field (h : SameButTraits d e) {name : String} (hname : name ≠ "traits") :
    d.field name = e.field name := by rw [Document.field, h name hname, Document.field]

theorem at_place (h : SameButTraits d e) : ∀ place, SameButTraits (d.at place) (e.at place)
  | .whole => h
  | .damage => fun name _ => congrArg (·.get? name) (h.field (by decide))
  | .damageRolls => fun name _ => congrArg (·.get? name) (h.field (by decide))

theorem die (h : SameButTraits d e) : d.field "die" = e.field "die" := h.field (by decide)

theorem dice (h : SameButTraits d e) : d.field "dice" = e.field "dice" := h.field (by decide)

theorem hasShape (h : SameButTraits d e) {s : Shape} (hform : s.form ≠ .keyed) :
    d.hasShape s = e.hasShape s := by
  obtain ⟨form, place⟩ := s
  have hplace := h.at_place place
  cases form with
  | rich => exact congrArg (·.items?.isSome) (hplace.field (show "base" ≠ "traits" by decide))
  | flat =>
    change (d.at place).hasDice = (e.at place).hasDice
    rw [Document.hasDice, hplace.die, hplace.dice, Document.hasDice]
  | keyed => exact absurd rfl hform

/-- Keyed descriptions, which take up every name, are looked for last. -/
theorem shape?_eq_flat (h : SameButTraits d e) {place : Place}
    (hshape : d.shape? = some ⟨.flat, place⟩) : e.shape? = some ⟨.flat, place⟩ := by
  let named : List Shape := [⟨.rich, .whole⟩, ⟨.rich, .damage⟩, ⟨.flat, .damage⟩, ⟨.flat, .whole⟩]
  let keyed : List Shape := [⟨.keyed, .damage⟩, ⟨.keyed, .damageRolls⟩, ⟨.keyed, .whole⟩]
  have hrich (place : Place) : d.hasShape ⟨.rich, place⟩ = e.hasShape ⟨.rich, place⟩ :=
    h.hasShape nofun
  have hflat (place : Place) : d.hasShape ⟨.flat, place⟩ = e.hasShape ⟨.flat, place⟩ :=
    h.hasShape nofun
  have hnamed : named.find? d.hasShape = named.find? e.hasShape := by
    simp only [named, List.find?_cons, List.find?_nil, hrich, hflat]
  have hkeyed : ∀ s ∈ keyed, s.form = .keyed := by decide
  have hcandidates : Shape.candidates = named ++ keyed := rfl
  have hsplit (d : Document) :
      d.shape? = (named.find? d.hasShape).or (keyed.find? d.hasShape) := by
    rw [Document.shape?, hcandidates, List.find?_append]
  rw [hsplit, hnamed] at hshape
  rw [hsplit]
  cases hfound : named.find? e.hasShape with
  | some s => rwa [hfound] at hshape
  | none =>
    rw [hfound, Option.none_or] at hshape
    have hform := hkeyed _ (List.mem_of_find?_eq_some hshape)
    cases hform

theorem along (h : SameButTraits d e) {name : String} (hname : name ≠ "traits")
    (path : List PathStep) : d.along (.key name :: path) = e.along (.key name :: path) := by
  rw [Document.along, h name hname, Document.along]

theorem bonusTotal (h : SameButTraits d e) : bonusTotal bonusPaths d = bonusTotal bonusPaths e := by
  refine congrArg Amount.saturate ?_
  simp [bonusPaths, bonusAlong, h.along]

theorem diceCount (h : SameButTraits d e) (place : Place) :
    WeaponDice.diceCount (d.at place) d = WeaponDice.diceCount (e.at place) e := by
  have hrunes : d.field "runes" = e.field "runes" := h.field (by decide)
  have hgrade : d.field "strikingRune" = e.field "strikingRune" := h.field (by decide)
  have hstriking : WeaponDice.strikingDice d = WeaponDice.strikingDice e := by
    rw [WeaponDice.strikingDice, hrunes, hgrade, WeaponDice.strikingDice]
  rw [WeaponDice.diceCount, (h.at_place place).die, (h.at_place place).dice, hstriking,
    WeaponDice.diceCount]

theorem type (h : SameButTraits d e) : WeaponDice.type d = WeaponDice.type e := by
  have htype : d.field "type" = e.field "type" := h.field (by decide)
  have hdamageType : d.field "damageType" = e.field "damageType" := h.field (by decide)
  simp only [WeaponDice.type, List.findSome?_cons, List.findSome?_nil, htype, hdamageType]

theorem base (h : SameButTraits d e) (place : Place) :
    WeaponDice.base (d.at place) d = WeaponDice.base (e.at place) e := by
  rw [WeaponDice.base, (h.at_place place).die, h.diceCount, (h.at_place place).type,
    WeaponDice.base]

/-- A document that differs in its traits has the same damage but for the dice of its traits. -/
theorem damage (h : SameButTraits d e) {place : Place} {s : Structure}
    (hshape : d.shape? = some ⟨.flat, place⟩) (hs : d.damage = .ok s) :
    s.extraDice = WeaponDice.countedTraitDice (WeaponDice.type (d.at place)) d ∧
    e.damage = .ok { s with
      extraDice := WeaponDice.countedTraitDice (WeaponDice.type (d.at place)) e } := by
  obtain ⟨found, hfound, rfl⟩ := exists_structure?_of_damage hshape hs
  obtain ⟨hne, -⟩ := WeaponDice.eq_of_structure? hfound
  rw [h.diceCount, h.bonusTotal] at hne
  have hfound' : WeaponDice.structure? (e.at place) e = some _ := if_neg hne
  rw [WeaponDice.canonical_of_structure? hfound, h.diceCount, h.bonusTotal, h.base,
    (h.at_place place).type]
  refine ⟨rfl, Document.damage_eq_ok_iff.mpr ⟨_, _, h.shape?_eq_flat hshape, ?_, ?_,
    WeaponDice.canonical_of_structure? hfound'⟩⟩
  · simp only [Shape.read, hfound']
  · rw [WeaponDice.canonical_of_structure? hfound']
    simp [Structure.isEmpty]

end SameButTraits

/-! ## Parts of extra dice -/

namespace Assembly

/-- Extra dice stand at the end of an assembly, and nothing else depends on them. -/
theorem assemble_eq_append (s : Structure) (o : HitOptions) :
    s.assemble o = { s with extraDice := [] }.assemble o ++
      (appliedDice s o).map fun e => Portion.part o ⟨e.component, .extraDice⟩ := by
  have hplaced : placed { s with extraDice := [] } o = placed s o := rfl
  simp [Structure.assemble, portions, hplaced, appliedDice, Function.comp_def]

theorem kind_ne_extraDice {s : Structure} {o : HitOptions} (hs : s.extraDice = []) {p : Part}
    (hp : p ∈ s.assemble o) : p.kind ≠ .extraDice := by
  intro hkind
  have hmem : p ∈ (s.assemble o).filter (·.kind = .extraDice) :=
    List.mem_filter.mpr ⟨hp, decide_eq_true hkind⟩
  rw [filter_extraDice_assemble, appliedDice, hs] at hmem
  cases hmem

end Assembly

/-- The part is one of extra dice of the given type, count and size, and these are all it rolls. -/
structure Part.RollsExtra (p : Part) (type : DamageType) (count : Count) (die : Die) : Prop where
  kind : p.kind = .extraDice
  type_eq : p.type = type
  category : p.category = .plain
  range : type.Lexes → ∃ f, Formula.read p.expression = .ok f ∧ f.min = count.val ∧
    f.max = count.val * die.sides

/-- Dice of a critical hit only are not maximized. -/
theorem Part.rollsExtra_onCritical {count : Count} (hcount : 0 < count.val) (die : Die)
    (type : DamageType) (token : String) (o : HitOptions) :
    (Portion.part o ⟨(ExtraDice.onCritical token (.ofDice count die type)).component,
      .extraDice⟩).RollsExtra type count die := by
  let c : Component := ⟨count, some die, 0, type, .plain, true⟩
  have hdice : c.RollsDice := ⟨hcount, rfl⟩
  have hbonus : c.criticalBonus o = 0 := by simp [Component.criticalBonus, c]
  refine ⟨rfl, rfl, rfl, fun htype => ?_⟩
  have hfit : c.criticalBonus o < Width.signed64 := hbonus ▸ by decide
  have htags : c.TagsLex := ⟨htype, fun _ h => absurd h (Option.not_mem_none _)⟩
  have hflat : c.staticFactor o * c.flat.val = 0 := Int.mul_zero _
  obtain ⟨f, hread, hmin, hmax⟩ := (c.expression_range o hfit).1 htags
  rw [hbonus, hflat, Int.add_zero, Int.add_zero] at hmin hmax
  exact ⟨f, hread, hmin.trans (if_pos hdice), hmax.trans (if_pos hdice)⟩

/-- The parts are one for each of the deadly traits that are read as dice, in their order. -/
def DeadlyParts (tokens : List String) (type : DamageType) (parts : List Part) : Prop :=
  ∃ dice, DeadlyDice ReadsDice tokens dice ∧
    (WrittenPlainly tokens → DeadlyDice WritesDice tokens dice) ∧
    List.Forall₂ (fun p x => p.RollsExtra type x.1 x.2) parts dice

theorem deadlyParts_countedTraitDice (type : DamageType) (d : Document) (o : HitOptions) :
    DeadlyParts (traitsOf d) type ((WeaponDice.countedTraitDice type d).map fun e =>
      Portion.part o ⟨e.component, .extraDice⟩) := by
  obtain ⟨dice, hdice, hentries⟩ := exists_deadlyDice type (traitsOf d)
  refine ⟨dice, hdice, hdice.writesDice, List.forall₂_map_left_iff.mpr (hentries.imp ?_)⟩
  rintro _ ⟨count, die⟩ ⟨hcount, token, rfl⟩
  exact Part.rollsExtra_onCritical hcount die type token o

/-! ## Assemblies -/

open Assembly WeaponDice

/-- Documents of weapons that differ in their traits have the same assembly on a normal hit, without
extra dice. On a critical hit they share the parts of base components and modifiers, and each goes
on with one part of extra dice for each of its deadly traits that is read as dice, in the order of
the traits: the dice have the type of the weapon, are rolled as they are and are not maximized. -/
theorem assemble_deadly_dice {d e : Document} {place : Place} {s : Structure}
    (hshape : d.shape? = some ⟨.flat, place⟩) (hs : d.damage = .ok s) (hsame : SameButTraits d e) :
    ∃ t, e.damage = .ok t ∧ ∀ o,
      (o.critical = false →
        t.assemble o = s.assemble o ∧ ∀ p ∈ s.assemble o, p.kind ≠ .extraDice) ∧
      (o.critical = true → ∃ shared parts parts',
        s.assemble o = shared ++ parts ∧ t.assemble o = shared ++ parts' ∧
        (∀ p ∈ shared, p.kind ≠ .extraDice) ∧
        DeadlyParts (traitsOf d) (type (d.at place)) parts ∧
        DeadlyParts (traitsOf e) (type (d.at place)) parts') := by
  obtain ⟨hdice, hdamage⟩ := hsame.damage hshape hs
  refine ⟨_, hdamage, fun o => ?_⟩
  have happlied {s : Structure} {d : Document} {type : DamageType}
      (h : s.extraDice = countedTraitDice type d) :
      appliedDice s o = if o.critical = true then countedTraitDice type d else [] := by
    rw [← h]
    exact appliedDice_of_criticalOnly fun x hx => criticalOnly_of_mem_countedTraitDice (h ▸ hx)
  have hshared : ∀ p ∈ { s with extraDice := [] }.assemble o, p.kind ≠ .extraDice :=
    fun _ => kind_ne_extraDice rfl
  rw [assemble_eq_append s, assemble_eq_append, happlied hdice, happlied rfl]
  constructor
  · intro ho
    have ho : ¬o.critical = true := ho ▸ Bool.false_ne_true
    rw [if_neg ho, if_neg ho, List.map_nil, List.append_nil]
    exact ⟨rfl, hshared⟩
  · intro ho
    rw [if_pos ho, if_pos ho]
    exact ⟨_, _, _, rfl, rfl, hshared, deadlyParts_countedTraitDice ..,
      deadlyParts_countedTraitDice ..⟩

/-- A rapier with the given traits. -/
def rapierWith (traits : List String) : Document :=
  .record [("damage", .record [("dice", .whole 1), ("die", .text "d6"),
    ("damageType", .text "piercing")]), ("bonus", .whole 3), ("traits", .list (traits.map .text))]

theorem shape?_rapierWith (traits : List String) :
    (rapierWith traits).shape? = some ⟨.flat, .damage⟩ := rfl

/-- Two of four deadly traits have dice, and these are added on a critical hit. -/
theorem assemble_deadly_dice_rapierWith :
    let d := rapierWith ["agile"]
    let e := rapierWith ["Deadly-d8", "agile", "deadly-2d10", "deadly-0d4", "deadly-x"]
    let normal : HitOptions := ⟨false, true, .allStatic⟩
    let critical : HitOptions := ⟨true, true, .allStatic⟩
    d.shape? = some ⟨.flat, .damage⟩ ∧ SameButTraits d e ∧
    ∃ s t, d.damage = .ok s ∧ e.damage = .ok t ∧ t.assemble normal = s.assemble normal ∧
      (s.assemble critical).length = 1 ∧ (t.assemble critical).length = 3 ∧
      ∃ shared parts parts', s.assemble critical = shared ++ parts ∧
        t.assemble critical = shared ++ parts' ∧
        DeadlyParts (traitsOf d) (type (d.at .damage)) parts ∧
        DeadlyParts (traitsOf e) (type (d.at .damage)) parts' := by
  intro d e normal critical
  have hsame : SameButTraits d e := sameButTraits_record [_, _] [] _ _
  let piercing := type (d.at .damage)
  let d6 : Die := ⟨6, by decide, by decide⟩
  let s : Structure := ⟨[.ofDice (.saturate 1) d6 piercing], [.new "modifier" (.saturate 3)], []⟩
  let t : Structure := { s with extraDice :=
    [.onCritical "deadly-d8" (.ofDice (.saturate 1) ⟨8, by decide, by decide⟩ piercing),
      .onCritical "deadly-2d10" (.ofDice (.saturate 2) ⟨10, by decide, by decide⟩ piercing)] }
  have hs : d.damage = .ok s := by decide +kernel
  have ht : e.damage = .ok t := by decide +kernel
  obtain ⟨t', ht', hassemble⟩ := assemble_deadly_dice (shape?_rapierWith _) hs hsame
  obtain rfl : t = t' := Except.ok.inj (ht.symm.trans ht')
  obtain ⟨shared, parts, parts', hparts, hparts', -, hdice, hdice'⟩ := (hassemble critical).2 rfl
  exact ⟨shape?_rapierWith _, hsame, s, t, hs, ht, ((hassemble normal).1 rfl).1, by decide +kernel,
    by decide +kernel, shared, parts, parts', hparts, hparts', hdice, hdice'⟩

theorem not_writesDice_dd8 {count : Count} {die : Die} : ¬WritesDice ['d', 'd', '8'] count die := by
  rintro (⟨-, hdie⟩ | ⟨digits, sides, hsuffix, hcount, -⟩)
  · have hnone : Die.ofTag? ['d', 'd', '8'] = none := by decide
    exact Option.some_ne_none die (hdie.symm.trans hnone)
  · cases digits with
    | nil => cases hcount
    | cons c digits =>
      obtain rfl : 'd' = c := (List.cons.inj hsuffix).1
      exact Decimal.dieMark_notMem_of_unsigned? hcount List.mem_cons_self

/-- The text `dd8` writes no die, and yet one is rolled for `deadly-dd8`. -/
theorem exists_unwritten_deadly_die :
    ¬∀ (d : Document) (place : Place) (s : Structure) (o : HitOptions),
      d.shape? = some ⟨.flat, place⟩ → d.damage = .ok s → o.critical = true →
      ∃ dice, DeadlyDice WritesDice (traitsOf d) dice ∧
        ((s.assemble o).filter (·.kind = .extraDice)).length = dice.length := by
  intro h
  let d := rapierWith ["deadly-dd8"]
  let piercing := type (d.at .damage)
  let s : Structure :=
    ⟨[.ofDice (.saturate 1) ⟨6, by decide, by decide⟩ piercing], [.new "modifier" (.saturate 3)],
      [.onCritical "deadly-dd8" (.ofDice (.saturate 1) ⟨8, by decide, by decide⟩ piercing)]⟩
  have hs : d.damage = .ok s := by decide +kernel
  have htraits : traitsOf d = ["deadly-dd8"] := by decide +kernel
  obtain ⟨dice, hdice, hlength⟩ := h d .damage s ⟨true, false, .flatParts⟩
    (shape?_rapierWith _) hs rfl
  have hone : dice.length = 1 := hlength.symm.trans (by decide +kernel)
  rw [htraits] at hdice
  cases hdice with
  | skip _ hrest =>
    cases hrest
    cases hone
  | take htoken hwrites =>
    have hchars : ['d', 'e', 'a', 'd', 'l', 'y'] ++ '-' :: ['d', 'd', '8'] =
        ['d', 'e', 'a', 'd', 'l', 'y'] ++ '-' :: _ := htoken
    cases hchars
    exact not_writesDice_dd8 hwrites

end CriticalDamage
