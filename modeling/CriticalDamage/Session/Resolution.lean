import CriticalDamage.Critical.Assembly
import CriticalDamage.Estimate
import CriticalDamage.Session.Chat
import CriticalDamage.Session.Settings

/-!
# Resolving damage

A session remembers the damage rolls it has seen. The damage of an attack comes from the first of
three tiers that yields any: the captured roll of the item, an estimate from its dice, or the damage
in its own fields. A tier whose structure assembles to nothing yields none. Resolving breaks off at
a tier that forms a number beyond 64 bits and a sign.
-/

namespace CriticalDamage

/-- Where the damage of an attack comes from. -/
inductive Tier where
  | captured
  | estimated
  | itemFields
deriving DecidableEq, Repr

namespace Tier

/-- The tiers in the order in which they are tried. -/
def order : List Tier := [.captured, .estimated, .itemFields]

/-- Damage of the tier may miss modifiers. -/
def isLossy (t : Tier) : Bool := t != .captured

def text : Tier → String
  | .captured => "captured roll"
  | .estimated => "estimated from item data"
  | .itemFields => "item damage fields"

end Tier

/-- The note on messages whose damage may miss modifiers. -/
def missingModifiersNote : String :=
  "Situational and class-feature modifiers may be missing from this roll."

/-- The text above the rolls of a message. -/
def provenance (itemName : String) (critical : Bool) (tier : Tier) : String :=
  let headline :=
    if critical then "Alternative Critical" else "Alternative Damage (not a critical hit)"
  "\n".intercalate ([headline ++ ": " ++ itemName, "Source: " ++ tier.text] ++
    if tier.isLossy then [missingModifiersNote] else [])

/-- What a session offers on a chat entry. -/
structure Offer where
  item : String
  critical : Bool
  label : String
deriving DecidableEq, Repr

namespace Session

/-- The captures of a session that begins under the given settings. -/
def begin (settings : Settings) : CaptureStore :=
  .new settings.captureTimeToLive settings.captureCapacity

/-- Takes note of a new chat entry. The result says whether its damage was captured, which needs an
item, a damage roll in the first place and damage that can be read. -/
def observe (settings : Settings) (now : Int) (captures : CaptureStore) (entry : NewEntry) :
    Bool × CaptureStore :=
  if settings.enabled then
    let captures := captures.configure settings.captureTimeToLive settings.captureCapacity
    match entry.sourceItem, entry.damage? with
    | some item, some damage =>
      match damage.damage with
      | .ok found => (true, captures.record item found now)
      | .error _ => (false, captures)
    | _, _ => (false, captures)
  else (false, captures)

/-- What to offer on a chat entry on which the host shows its own damage button. -/
def offer (settings : Settings) (attack : Attack) (hasDamageAction : Bool) : Option Offer :=
  if settings.enabled && hasDamageAction then
    attack.item.map fun item =>
      let critical := Outcome.isCritical attack.outcome
      ⟨item.id, critical, if critical then "Alternative Critical" else "Alternative Damage"⟩
  else none

section

variable (captures : CaptureStore) (now : Int) (item : Item) (actor : Option Actor)

/-- The structure that a tier gives for an item. -/
def structureFrom : Tier → Option Structure
  | .captured => captures.lookup item.id now
  | .estimated => (estimate item actor).toOption
  | .itemFields => item.system.damage.toOption

theorem structureFrom_estimated_eq_some_iff {s : Structure} :
    structureFrom captures now item actor .estimated = some s ↔ estimate item actor = .ok s := by
  rw [structureFrom]
  cases estimate item actor <;> simp [Except.toOption]

theorem structureFrom_itemFields_eq_some_iff {s : Structure} :
    structureFrom captures now item actor .itemFields = some s ↔ item.system.damage = .ok s := by
  rw [structureFrom]
  cases item.system.damage <;> simp [Except.toOption]

variable (options : HitOptions)

/-- What a tier yields: the parts that its structure assembles to, unless there are none. -/
def yield? (tier : Tier) : Option (Tier × List Part) :=
  match structureFrom captures now item actor tier with
  | some s => if (s.assemble options).isEmpty then none else some (tier, s.assemble options)
  | none => none

/-- The parts that roll the damage of an item, and the tier they come from, where resolving does not
break off. -/
def resolve : Option (Tier × List Part) :=
  Tier.order.findSome? (yield? captures now item actor options)

/-- The numbers fit that are formed when a tier is tried: the sums of bonuses, which captures have
behind them, and the maxima of dice in the assembly. -/
def TierFits (tier : Tier) : Prop :=
  (tier ≠ .captured → item.system.BonusesFit) ∧
    ∀ s ∈ structureFrom captures now item actor tier, s.MaximaFit options

instance : DecidablePred (TierFits captures now item actor options) := fun tier =>
  inferInstanceAs (Decidable (_ ∧ ∀ s ∈ structureFrom captures now item actor tier, _))

/-- One of the tiers is tried, all tiers before it having yielded nothing, and forms a number that
does not fit. -/
def breaksOff : List Tier → Bool
  | [] => false
  | tier :: tiers =>
    !TierFits captures now item actor options tier ||
      (yield? captures now item actor options tier).isNone && breaksOff tiers

end

end Session

end CriticalDamage
