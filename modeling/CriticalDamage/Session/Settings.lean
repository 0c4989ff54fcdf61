import CriticalDamage.Capture
import CriticalDamage.Critical.Expression
import CriticalDamage.Document.Record

/-!
# Settings

What the user of a session can set. Settings left out of a document have their usual values.
-/

namespace CriticalDamage

namespace DoublingScope

/-- The names of the scopes in documents. -/
def names : List (String × DoublingScope) := [("flat-parts", .flatParts), ("all-static", .allStatic)]

def ofDocument? (d : Document) : Option DoublingScope := d.choice? names

def toDocument : DoublingScope → Document
  | .flatParts => .text "flat-parts"
  | .allStatic => .text "all-static"

end DoublingScope

/-- The settings of a session. -/
structure Settings where
  enabled : Bool
  doubleStatic : Bool
  scope : DoublingScope
  captureTimeToLive : Int
  captureCapacity : Nat
deriving DecidableEq, Repr

namespace Settings

/-- The settings of a user who has set nothing. -/
def usual : Settings where
  enabled := true
  doubleStatic := false
  scope := .flatParts
  captureTimeToLive := CaptureStore.defaultTimeToLive
  captureCapacity := CaptureStore.defaultCapacity

instance : Inhabited Settings := ⟨usual⟩

/-- Sets the time to live of captures; a negative one becomes zero. -/
def withCaptureTimeToLive (s : Settings) (time : Int) : Settings :=
  { s with captureTimeToLive := max time 0 }

/-- Sets how many captures are kept, at least one. -/
def withCaptureCapacity (s : Settings) (capacity : Nat) : Settings :=
  { s with captureCapacity := max capacity 1 }

/-- How a hit is rolled under the settings. -/
def options (s : Settings) (critical : Bool) : HitOptions := ⟨critical, s.doubleStatic, s.scope⟩

def toDocument (s : Settings) : Document :=
  .record [("enabled", .bool s.enabled), ("doubleStaticModifiers", .bool s.doubleStatic),
    ("doublingScope", s.scope.toDocument), ("captureTtlMs", .whole s.captureTimeToLive),
    ("captureCapacity", .whole s.captureCapacity)]

def ofDocument? (d : Document) : Option Settings := do
  match ← d.slots [["enabled"], ["doubleStaticModifiers"], ["doublingScope"], ["captureTtlMs"],
      ["captureCapacity"]] with
  | [enabled, doubleStatic, scope, time, capacity] =>
    let capacity ← Document.orDefault usual.captureCapacity
      (fun d => (d.wholeIn? 0 Width.unsigned64).map Int.toNat) capacity
    return {
      enabled := ← Document.orDefault usual.enabled Document.bool? enabled
      doubleStatic := ← Document.orDefault usual.doubleStatic Document.bool? doubleStatic
      scope := ← Document.orDefault usual.scope DoublingScope.ofDocument? scope
      captureTimeToLive := ←
        Document.orDefault usual.captureTimeToLive
          (Document.wholeIn? (-Width.signed64) Width.signed64) time
      captureCapacity := capacity }
  | _ => none

end Settings

end CriticalDamage
