import CriticalDamage.Proofs.CanonicalForm
import CriticalDamage.Proofs.TagNames

/-!
# Damage read from written structures

A written structure is a detailed description of damage. Each of its entries is read back as it
was, except that extra dice then agree with their component on being critical-only
(`Detailed.structure?_toDocument`). Canonical form brings that about too, so the damage found in a
written structure is its canonical form (`damage_toDocument`).
-/

namespace CriticalDamage

open Document

/-! ## Fields -/

theorem Document.optional_of_read {read : Document → Option α} {d : Document} {a : α}
    (hne : d ≠ .null) (h : read d = some a) : optional read (some d) = some (some a) := by
  cases d with
  | null => exact absurd rfl hne
  | _ => exact congrArg (Option.map some) h

theorem Document.orDefault_of_read {read : Document → Option α} {d : Document} {a : α}
    (h : read d = some a) (default : α) : orDefault default read (some d) = some a := h

theorem Document.listOf?_map {read : Document → Option β} {write : α → Document} {f : α → β}
    (h : ∀ a, read (write a) = some (f a)) (l : List α) :
    listOf? read (.list (l.map write)) = some (l.map f) := by
  change (l.map write).mapM read = some (l.map f)
  induction l with
  | nil => rfl
  | cons a l ih =>
    rw [List.map_cons, List.mapM_cons, h, ih]
    rfl

theorem Document.wholeIn?_whole {low high n : Int} (hlow : low ≤ n) (hhigh : n < high) :
    wholeIn? low high (.whole n) = some n := if_pos ⟨hlow, hhigh⟩

theorem Count.ofDocument?_toDocument (n : Count) : ofDocument? n.toDocument = some n := by
  have hlt : (n.val : Int) < Width.unsigned32 := Int.ofNat_lt.mpr n.lt
  rw [ofDocument?, toDocument, wholeIn?_whole (Int.natCast_nonneg _) hlt]
  exact dif_pos n.lt

theorem Amount.ofDocument?_toDocument (n : Amount) : ofDocument? n.toDocument = some n := by
  have hle : -(Width.signed32 : Int) ≤ n.val := n.le
  have hlt : n.val < (Width.signed32 : Int) := n.lt
  rw [ofDocument?, toDocument, wholeIn?_whole hle hlt]
  exact dif_pos ⟨n.le, n.lt⟩

theorem Die.ofDocument?_toDocument (d : Die) : ofDocument? d.toDocument = some d := by
  have htag : ofTag? d.text.toList = some d := by
    rw [text, String.toList_ofList, ofTag?_chars]
  rw [ofDocument?, toDocument, ofDocument, htag]
  rfl

theorem DamageType.ofName_text (t : DamageType) : ofName t.text.toList = t := by
  rw [text, Tag.text, String.toList_ofList]
  exact t.ofName_chars

theorem Category.eq_plain_of_tag? {g : Category} (h : g.tag? = none) : g = .plain := by
  cases g with
  | plain => rfl
  | _ => cases h

theorem Category.ofDocument?_toDocument (g : Category) : ofDocument? g.toDocument = some g := by
  rw [toDocument]
  cases h : g.tag? with
  | none => rw [eq_plain_of_tag? h]; rfl
  | some cs =>
    rw [Option.map_some, Document.ofText?, ofDocument?, String.toList_ofList, ofName_of_tag? h]

/-! ## Fields that may be left out -/

theorem Document.optional_text (s : String) : optional text? (some (.text s)) = some (some s) := rfl

theorem Document.optional_bool (b : Bool) : optional bool? (some (.bool b)) = some (some b) := rfl

theorem Count.optional_toDocument (n : Count) :
    optional ofDocument? (some n.toDocument) = some (some n) :=
  optional_of_read Document.noConfusion n.ofDocument?_toDocument

theorem Amount.optional_toDocument (n : Amount) :
    optional ofDocument? (some n.toDocument) = some (some n) :=
  optional_of_read Document.noConfusion n.ofDocument?_toDocument

theorem Die.optional_toDocument (d : Die) :
    optional ofDocument? (some d.toDocument) = some (some d) :=
  optional_of_read Document.noConfusion d.ofDocument?_toDocument

theorem DamageType.optional_toDocument (type : Option DamageType) :
    optional text? (type.map toDocument) = some (type.map text) := by
  cases type <;> rfl

theorem Category.optional_toDocument (g : Category) :
    optional text? (some g.toDocument) = some (g.tag?.map String.ofList) := by
  rw [toDocument]
  cases g.tag? <;> rfl

theorem Component.optional_dieSize (c : Component) :
    optional Die.ofDocument? (some (c.toDocument.field "dieSize")) = some c.die := by
  obtain ⟨count, die, flat, type, category, criticalOnly⟩ := c
  cases die with
  | none => rfl
  | some die =>
    have hfield : (Component.mk count (some die) flat type category criticalOnly).toDocument.field
        "dieSize" = die.toDocument := rfl
    rw [hfield]
    exact die.optional_toDocument

/-! ## Entries -/

namespace Detailed

theorem slots_component (c : Component) :
    c.toDocument.slots [["diceNumber", "diceCount"], ["dieSize"], ["modifier", "flatModifier"],
      ["damageType"], ["category"], ["appliesOnCriticalOnly"]] =
      some [some c.count.toDocument, some (c.toDocument.field "dieSize"), some c.flat.toDocument,
        some c.type.toDocument, some c.category.toDocument, some (.bool c.criticalOnly)] := rfl

theorem component?_toDocument (c : Component) : component? c.toDocument = some c := by
  have htype : optional text? (some c.type.toDocument) = some (some c.type.text) := rfl
  have hcategory := orDefault_of_read c.category.ofDocument?_toDocument .plain
  rw [component?, slots_component, Option.bind_eq_bind, Option.bind_some]
  dsimp only
  rw [c.count.optional_toDocument, c.optional_dieSize, c.flat.optional_toDocument, htype,
    hcategory, optional_bool]
  simp only [Option.bind_eq_bind, Option.bind_some, c.type.ofName_text]
  rfl

theorem namedType?_text (t : DamageType) : namedType? (some t.text) = some t := by
  have htrim : Text.trim t.text.toList = t.chars := by
    rw [DamageType.text, Tag.text, String.toList_ofList]
    exact t.tag.trim_chars
  have hne : (Text.trim t.text.toList).isEmpty = false := by
    rw [htrim, List.isEmpty_eq_false_iff]
    exact t.tag.chars_ne_nil
  simp only [namedType?, hne, t.ofName_text, Bool.false_eq_true, if_false]

theorem slots_modifier (m : Modifier) :
    m.toDocument.slots [["label"], ["slug"], ["modifier", "value"], ["damageType"],
      ["damageCategory"], ["category"], ["enabled"], ["ignored"], ["critical", "criticalOnly"]] =
      some [some (.text m.label), none, some m.value.toDocument, m.type.map DamageType.toDocument,
        none, some m.category.toDocument, some (.bool m.enabled), some (.bool m.ignored),
        some (.bool m.criticalOnly)] := by
  obtain ⟨label, value, category, type, enabled, ignored, criticalOnly⟩ := m
  cases type <;> rfl

theorem modifier?_toDocument (m : Modifier) : modifier? m.toDocument = some m := by
  have hvalue : required Amount.ofDocument? (some m.value.toDocument) = some m.value :=
    m.value.ofDocument?_toDocument
  have hnone : optional text? none = some none := rfl
  have hnamed : namedType? (m.type.map DamageType.text) = m.type := by
    cases m.type with
    | none => rfl
    | some t => exact namedType?_text t
  rw [modifier?, slots_modifier, Option.bind_eq_bind, Option.bind_some]
  dsimp only
  rw [optional_text, hnone, hvalue, DamageType.optional_toDocument, Category.optional_toDocument,
    optional_bool, optional_bool, optional_bool]
  simp only [Option.bind_eq_bind, Option.bind_some, hnamed, Option.none_or]
  cases hcategory : m.category.tag? with
  | none =>
    rw [← Category.eq_plain_of_tag? hcategory]
    rfl
  | some cs =>
    simp only [Option.map_some, String.toList_ofList, Category.ofName_of_tag? hcategory]
    rfl

/-- The die of written extra dice is that of their component. -/
theorem field_dieSize (e : ExtraDice) :
    e.toDocument.field "dieSize" = e.component.toDocument.field "dieSize" := rfl

theorem slots_extraDice (e : ExtraDice) :
    e.toDocument.slots [["label"], ["slug"], ["diceNumber", "diceCount"], ["dieSize"],
      ["modifier", "flatModifier"], ["damageType"], ["category"], ["critical", "criticalOnly"],
      ["appliesOnCriticalOnly"], ["enabled"], ["ignored"]] =
      some [some (.text e.label), none, some e.component.count.toDocument,
        some (e.toDocument.field "dieSize"), some e.component.flat.toDocument,
        some e.component.type.toDocument, some e.component.category.toDocument,
        some (.bool e.criticalOnly), some (.bool e.component.criticalOnly),
        some (.bool e.enabled), some (.bool e.ignored)] := rfl

end Detailed

/-- Extra dice as they are read back: either flag makes both critical-only. -/
def ExtraDice.agreed (e : ExtraDice) : ExtraDice :=
  let criticalOnly := e.criticalOnly || e.component.criticalOnly
  { e with
    component := { e.component with criticalOnly }
    criticalOnly }

theorem ExtraDice.repair_agreed (e : ExtraDice) : e.agreed.repair = e.repair := by
  simp only [repair, agreed, Component.repair_withCriticalOnly, Bool.or_self]

namespace Detailed

theorem extraDice?_toDocument (e : ExtraDice) :
    extraDice? e.toDocument = some fun _ => e.agreed := by
  have hnone : optional text? none = some none := rfl
  have htype : optional text? (some e.component.type.toDocument) =
      some (some e.component.type.text) := rfl
  have hcategory := orDefault_of_read e.component.category.ofDocument?_toDocument .plain
  rw [extraDice?, slots_extraDice, Option.bind_eq_bind, Option.bind_some]
  dsimp only
  rw [optional_text, hnone, e.component.count.optional_toDocument, field_dieSize,
    e.component.optional_dieSize, e.component.flat.optional_toDocument, htype, hcategory]
  simp only [optional_bool, Option.bind_eq_bind, Option.bind_some, namedType?_text]
  rfl

theorem slots_structure (s : Structure) :
    s.toDocument.slots [["base"], ["modifiers"], ["dice", "extraDice"]] =
      some [some (.list (s.base.map Component.toDocument)),
        some (.list (s.modifiers.map Modifier.toDocument)),
        some (.list (s.extraDice.map ExtraDice.toDocument))] := rfl

theorem structure?_toDocument (s : Structure) :
    structure? s.toDocument = some { s with extraDice := s.extraDice.map ExtraDice.agreed } := by
  have hbase : orDefault [] (listOf? component?)
      (some (.list (s.base.map Component.toDocument))) = some (s.base.map id) :=
    listOf?_map component?_toDocument s.base
  have hmodifiers : orDefault [] (listOf? modifier?)
      (some (.list (s.modifiers.map Modifier.toDocument))) = some (s.modifiers.map id) :=
    listOf?_map modifier?_toDocument s.modifiers
  have hdice : orDefault [] (listOf? extraDice?)
      (some (.list (s.extraDice.map ExtraDice.toDocument))) =
      some (s.extraDice.map fun e _ => e.agreed) :=
    listOf?_map extraDice?_toDocument s.extraDice
  rw [structure?, slots_structure, Option.bind_eq_bind, Option.bind_some]
  dsimp only
  rw [hbase, hmodifiers, hdice]
  simp only [Option.bind_eq_bind, Option.bind_some, List.map_id, List.map_map]
  rfl

end Detailed

/-! ## Written structures -/

namespace Structure

theorem shape?_toDocument (s : Structure) : s.toDocument.shape? = some ⟨.rich, .whole⟩ := rfl

/-- Extra dice that agree with their component have the same canonical form. -/
theorem canonical_agreed (s : Structure) :
    { s with extraDice := s.extraDice.map ExtraDice.agreed }.canonical = s.canonical := by
  have hactive : (s.extraDice.map ExtraDice.agreed).filter ExtraDice.isActive =
      (s.extraDice.filter ExtraDice.isActive).map ExtraDice.agreed := by
    rw [List.filter_map]
    rfl
  have hrepair : ((s.extraDice.filter ExtraDice.isActive).map ExtraDice.agreed).map
      ExtraDice.repair = (s.extraDice.filter ExtraDice.isActive).map ExtraDice.repair := by
    rw [List.map_map]
    exact List.map_congr_left fun e _ => e.repair_agreed
  simp only [canonical, hactive, hrepair]

theorem read_toDocument (s : Structure) :
    Shape.read ⟨.rich, .whole⟩ s.toDocument =
      .ok { s with extraDice := s.extraDice.map ExtraDice.agreed } := by
  simp only [Shape.read, Document.at, Detailed.structure?_toDocument]

/-- The damage found in a written structure is its canonical form, or none if that has no entries;
and to take the canonical form twice is to take it once. -/
theorem damage_toDocument (s : Structure) :
    s.toDocument.damage =
      (if s.canonical.isEmpty then .error .noDamage else .ok s.canonical) ∧
    s.canonical.canonical = s.canonical := by
  refine ⟨?_, s.canonical_canonical⟩
  rw [Document.damage, shape?_toDocument]
  dsimp only
  rw [read_toDocument]
  dsimp only
  rw [canonical_agreed]

end Structure

end CriticalDamage
