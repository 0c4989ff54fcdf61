import CriticalDamage.Document.Record
import CriticalDamage.Text.Blank

/-!
# Outcomes

How well an attack went, as flagged by the host. Only a critical success makes damage critical.
-/

namespace CriticalDamage

/-- The degrees of success of an attack. -/
inductive Outcome where
  | criticalFailure
  | failure
  | success
  | criticalSuccess
deriving DecidableEq, Repr

namespace Outcome

def text : Outcome → String
  | .criticalFailure => "critical failure"
  | .failure => "failure"
  | .success => "success"
  | .criticalSuccess => "critical success"

/-- The names of the outcomes in documents. -/
def names : List (String × Outcome) :=
  [("criticalFailure", .criticalFailure), ("failure", .failure), ("success", .success),
    ("criticalSuccess", .criticalSuccess)]

def ofDocument? (d : Document) : Option Outcome := d.choice? names

def toDocument : Outcome → Document
  | .criticalFailure => .text "criticalFailure"
  | .failure => .text "failure"
  | .success => .text "success"
  | .criticalSuccess => .text "criticalSuccess"

/-- A name that no outcome has. -/
structure Unknown where
  name : String
deriving DecidableEq, Repr

def Unknown.message (e : Unknown) : String := "unknown outcome: \"" ++ e.name ++ "\""

/-- The outcome a name stands for. Of the name only letters and digits count, in either case. -/
def ofName (name : String) : Except Unknown Outcome :=
  let letters := (name.toList.filter Char.isAlphanum).map Char.toLower
  match String.ofList letters with
  | "criticalfailure" | "critfailure" => .ok .criticalFailure
  | "failure" | "miss" => .ok .failure
  | "success" | "hit" => .ok .success
  | "criticalsuccess" | "critsuccess" | "crit" | "critical" => .ok .criticalSuccess
  | _ => .error ⟨name⟩

/-- An attack is critical if its outcome is given and is a critical success. -/
def isCritical : Option Outcome → Bool
  | some .criticalSuccess => true
  | _ => false

end Outcome

end CriticalDamage
