import CriticalDamage.Critical.Expression

/-!
# Assembly

The expressions that together roll a structure. Base components come first. A plain modifier is
added to the flat value of the first plain base component of its type, or of any type if it has
none; the other modifiers are summed for each pair of type and category and follow as flat
components, those of total zero left out. Extra dice come last. What applies on a critical hit only
is left out on a normal hit.
-/

namespace CriticalDamage

/-- Where a part of an assembly comes from. -/
inductive PartKind where
  | base
  | modifier
  | extraDice
deriving DecidableEq, Repr

/-- A component of an assembly and where it comes from. -/
structure Portion where
  component : Component
  kind : PartKind
deriving DecidableEq, Repr

/-- One expression of an assembly. -/
structure Part where
  expression : String
  type : DamageType
  category : Category
  kind : PartKind
deriving DecidableEq, Repr

namespace Assembly

/-- A sum of modifiers of one type and one category. -/
structure Group where
  type : DamageType
  category : Category
  total : Amount
deriving DecidableEq, Repr

/-- What is flagged critical-only applies on a critical hit only. -/
def applies (o : HitOptions) (criticalOnly : Bool) : Bool := !criticalOnly || o.critical

theorem applies_false (o : HitOptions) : applies o false = true := rfl

theorem applies_true (o : HitOptions) : applies o true = o.critical := rfl

/-- A plain modifier goes into plain components of its type; one without a type goes into any. -/
def fits (m : Modifier) (c : Component) : Bool :=
  c.category.isPlain && match m.type with
    | none => true
    | some type => type == c.type

/-- Adds a value to the flat value of the first component that fits, if there is one. -/
def fold? (fits : Component → Bool) (value : Amount) : List Component → Option (List Component)
  | [] => none
  | c :: cs =>
    if fits c then some ({ c with flat := c.flat.add value } :: cs)
    else (fold? fits value cs).map (c :: ·)

/-- Adds a value to the group of its type and category, which is appended if there is none. -/
def addToGroup (type : DamageType) (category : Category) (value : Amount) :
    List Group → List Group
  | [] => [⟨type, category, value⟩]
  | g :: gs =>
    if g.type = type ∧ g.category = category then { g with total := g.total.add value } :: gs
    else g :: addToGroup type category value gs

/-- Base components and groups while modifiers are being placed. -/
structure State where
  base : List Component
  groups : List Group

/-- Places one modifier; `primary` is the type of one that has none and goes into a group. -/
def place (primary : DamageType) (s : State) (m : Modifier) : State :=
  let folded := if m.category.isPlain then fold? (fits m) m.value s.base else none
  match folded with
  | some base => { s with base }
  | none => { s with
      groups := addToGroup (m.type.getD primary) m.category m.value s.groups }

/-- The base components that apply. -/
def appliedBase (s : Structure) (o : HitOptions) : List Component :=
  s.base.filter fun c => applies o c.criticalOnly

/-- The modifiers that are active and apply. -/
def appliedModifiers (s : Structure) (o : HitOptions) : List Modifier :=
  s.modifiers.filter fun m => m.isActive && applies o m.criticalOnly

/-- The extra dice that are active and apply. -/
def appliedDice (s : Structure) (o : HitOptions) : List ExtraDice :=
  s.extraDice.filter fun e => e.isActive && applies o e.criticalOnly

/-- The base components with the modifiers folded in, and the groups of the other modifiers. -/
def placed (s : Structure) (o : HitOptions) : State :=
  (appliedModifiers s o).foldl (place s.primaryType) ⟨appliedBase s o, []⟩

/-- The flat component of a group. -/
def Group.component (g : Group) : Component :=
  { Component.ofFlat g.total g.type with category := g.category }

/-- The components of an assembly, in order. -/
def portions (s : Structure) (o : HitOptions) : List Portion :=
  let st := placed s o
  st.base.map (⟨·, .base⟩) ++
    (st.groups.filter fun g => g.total ≠ 0).map (⟨·.component, .modifier⟩) ++
    (appliedDice s o).map (⟨·.component, .extraDice⟩)

end Assembly

/-- The part that rolls a portion. -/
def Portion.part (o : HitOptions) (p : Portion) : Part :=
  ⟨p.component.expression o, p.component.type, p.component.category, p.kind⟩

/-- The parts that together roll a structure, where all maxima fit (`Structure.MaximaFit`). -/
def Structure.assemble (s : Structure) (o : HitOptions) : List Part :=
  (Assembly.portions s o).map (·.part o)

/-- All maxima of dice fit that are added in the assembly. -/
def Structure.MaximaFit (s : Structure) (o : HitOptions) : Prop :=
  ∀ p ∈ Assembly.portions s o, p.component.BonusFits o

instance (s : Structure) (o : HitOptions) : Decidable (s.MaximaFit o) :=
  inferInstanceAs (Decidable (∀ p ∈ Assembly.portions s o, _))

/-- The expressions of the parts as one set. -/
def combined (parts : List Part) : String :=
  "\x7b" ++ ",".intercalate (parts.map (·.expression)) ++ "\x7d"

namespace PartKind

/-- The name of the kind in documents. -/
def key : PartKind → String
  | .base => "base"
  | .modifier => "modifier"
  | .extraDice => "extra_dice"

/-- The name of the kind in tables. -/
def text : PartKind → String
  | .base => "base"
  | .modifier => "modifier"
  | .extraDice => "extra dice"

end PartKind

end CriticalDamage
