import CriticalDamage.Number.Amount
import CriticalDamage.Text.Blank

/-!
# Bonus paths

Hosts keep flat damage bonuses in several places of an item's data. A path leads to such places:
each step goes to a named field or to every item of a list. `bonusTotal` adds up the numbers at the
ends of the paths; a path that leads nowhere adds nothing. The sums are formed in 64 bits and a
sign, and no total comes of one that does not fit (`BonusesFit`).
-/

namespace CriticalDamage

/-- A step into a document. -/
inductive PathStep where
  | key (name : String)
  | each
deriving DecidableEq, Repr

/-- The parts of a document at the ends of a path. -/
def Document.along : List PathStep → Document → List Document
  | [], d => [d]
  | .key name :: path, d =>
    match d.get? name with
    | some part => part.along path
    | none => []
  | .each :: path, d =>
    match d with
    | .list items => items.flatMap fun item => item.along path
    | _ => []

/-- A number within 64 bits and a sign, or the end of that range it lies beyond. -/
def saturate64 (n : Int) : Int := max (-9223372036854775808) (min 9223372036854775807 n)

/-- A bonus: a number without its fraction, or a text that is a whole number. -/
def Document.bonus? : Document → Option Int
  | .whole n => some (saturate64 n)
  | .real x => some (saturate64 x.truncate)
  | .text s => Decimal.signed? Width.signed64 (Text.trim s.toList)
  | _ => none

/-- The bonuses at the ends of a path, added up exactly. -/
def bonusAlong (path : List PathStep) (d : Document) : Int :=
  ((d.along path).filterMap Document.bonus?).foldr (· + ·) 0

/-- The places where hosts keep flat damage bonuses. -/
def bonusPaths : List (List PathStep) :=
  [[.key "damage", .key "modifier"],
    [.key "modifier"],
    [.key "bonusDamage", .key "value"],
    [.key "flatDamageBonus"],
    [.key "bonus"],
    [.key "bonus", .key "value"],
    [.key "damage", .key "bonus"],
    [.key "properties", .each, .key "bonus"]]

/-- The bonuses at the ends of several paths, added up exactly; the sum is cut to the range of
amounts once, at the end. -/
def bonusTotal (paths : List (List PathStep)) (d : Document) : Amount :=
  .saturate (paths.foldr (fun path total => bonusAlong path d + total) 0)

/-- No sum leaves 64 bits and a sign when the bonuses of each path are added up from the first, and
then the sums of the paths. -/
def BonusesFit (paths : List (List PathStep)) (d : Document) : Prop :=
  (∀ path ∈ paths, RunningSumsFit 0 ((d.along path).filterMap Document.bonus?)) ∧
    RunningSumsFit 0 (paths.map fun path => bonusAlong path d)

instance (paths : List (List PathStep)) (d : Document) : Decidable (BonusesFit paths d) :=
  inferInstanceAs (Decidable (_ ∧ _))

end CriticalDamage
