import CriticalDamage.Proofs.WrittenStructures

/-!
# Structures read back from their documents

Every entry is read back from the fields that its written form has: a component with its die and
its tags, a modifier whose type is given or left out, and extra dice, whose component is written
among their own fields. So is a whole structure (`Structure.read_back`).
-/

namespace CriticalDamage

open Document

/-! ## Fields -/

theorem DamageType.ofDocument?_toDocument (t : DamageType) : ofDocument? t.toDocument = some t := by
  rw [toDocument, ofDocument?, t.ofName_text]

/-- A type that is not given is not written, and the untyped is written by its name. -/
theorem DamageType.optional_map_toDocument (type : Option DamageType) :
    optional ofDocument? (type.map toDocument) = some type := by
  cases type with
  | none => rfl
  | some t => exact optional_of_read Document.noConfusion t.ofDocument?_toDocument

/-! ## Entries -/

namespace Component

theorem slots_toDocument (c : Component) :
    c.toDocument.slots spellings = some (c.toFields.map fun f => some f.2) := rfl

theorem ofSlots?_toFields (c : Component) :
    ofSlots? (c.toFields.map fun f => some f.2) = some c := by
  obtain ⟨count, die, flat, type, category, criticalOnly⟩ := c
  have hnone : optional Die.ofDocument? (some .null) = some none := rfl
  have hcount := orDefault_of_read count.ofDocument?_toDocument 0
  have hflat := orDefault_of_read flat.ofDocument?_toDocument 0
  have htype := orDefault_of_read type.ofDocument?_toDocument .untyped
  have hcategory := orDefault_of_read category.ofDocument?_toDocument .plain
  cases die with
  | none | some die =>
    simp only [toFields, List.map_cons, List.map_nil, ofSlots?, hcount, hnone,
      Die.optional_toDocument, hflat, htype, hcategory]
    rfl

theorem ofDocument?_toDocument (c : Component) : ofDocument? c.toDocument = some c := by
  rw [ofDocument?, slots_toDocument, Option.bind_eq_bind, Option.bind_some, ofSlots?_toFields]

end Component

namespace Modifier

theorem slots_toDocument (m : Modifier) :
    m.toDocument.slots [["label"], ["value"], ["category"], ["damageType"], ["enabled"],
      ["ignored"], ["criticalOnly"]] =
      some [some (.text m.label), some m.value.toDocument, some m.category.toDocument,
        m.type.map DamageType.toDocument, some (.bool m.enabled), some (.bool m.ignored),
        some (.bool m.criticalOnly)] := by
  obtain ⟨label, value, category, type, enabled, ignored, criticalOnly⟩ := m
  cases type <;> rfl

theorem ofDocument?_toDocument (m : Modifier) : ofDocument? m.toDocument = some m := by
  have hvalue : required Amount.ofDocument? (some m.value.toDocument) = some m.value :=
    m.value.ofDocument?_toDocument
  have hcategory := orDefault_of_read m.category.ofDocument?_toDocument .plain
  rw [ofDocument?, slots_toDocument, Option.bind_eq_bind, Option.bind_some]
  simp only [hvalue, hcategory, DamageType.optional_map_toDocument]
  rfl

end Modifier

namespace ExtraDice

theorem slots_toDocument (e : ExtraDice) :
    e.toDocument.namedSlots [["label"], ["criticalOnly"], ["enabled"], ["ignored"]] =
      some [some (.text e.label), some (.bool e.criticalOnly), some (.bool e.enabled),
        some (.bool e.ignored)] := rfl

/-- The component's fields are found among those of the extra dice. -/
theorem componentSlots_toDocument (e : ExtraDice) :
    e.toDocument.namedSlots Component.spellings =
      some (e.component.toFields.map fun f => some f.2) := rfl

theorem ofDocument?_toDocument (e : ExtraDice) : ofDocument? e.toDocument = some e := by
  have hcomponent : e.toDocument.namedSlots Component.spellings >>= Component.ofSlots? =
      some e.component := by
    rw [componentSlots_toDocument, Option.bind_eq_bind, Option.bind_some,
      e.component.ofSlots?_toFields]
  rw [ofDocument?, slots_toDocument, Option.bind_eq_bind, Option.bind_some]
  dsimp only
  rw [hcomponent]
  rfl

end ExtraDice

/-! ## Structures -/

namespace Structure

theorem slots_toDocument (s : Structure) :
    s.toDocument.slots [["base"], ["modifiers"], ["extraDice"]] =
      some [some (.list (s.base.map Component.toDocument)),
        some (.list (s.modifiers.map Modifier.toDocument)),
        some (.list (s.extraDice.map ExtraDice.toDocument))] := rfl

/-- A structure is read back from its document, every entry as it was. -/
theorem read_back (s : Structure) : ofDocument? s.toDocument = some s := by
  have hbase := orDefault_of_read (listOf?_map Component.ofDocument?_toDocument s.base) []
  have hmodifiers := orDefault_of_read (listOf?_map Modifier.ofDocument?_toDocument s.modifiers) []
  have hdice := orDefault_of_read (listOf?_map ExtraDice.ofDocument?_toDocument s.extraDice) []
  rw [ofDocument?, slots_toDocument, Option.bind_eq_bind, Option.bind_some]
  simp only [hbase, hmodifiers, hdice, List.map_id']
  rfl

end Structure

end CriticalDamage
