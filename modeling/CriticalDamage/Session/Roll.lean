import CriticalDamage.Formula.Reader
import CriticalDamage.Formula.Roll
import CriticalDamage.Session.Resolution

/-!
# Rolling an attack

A session rolls an attack through its host: the host evaluates the expressions of the parts in one
batch, and a message with all rolls is posted. If a part fails nothing is posted, and if resolving
the damage breaks off the host is not even asked. A host that evaluates one expression after the
other stops at the first that fails (`evaluateAll`). The transcript of a roll lists all that was
asked of the host, in order.
-/

namespace CriticalDamage

/-- The services of a host, which may change a state of its own. -/
structure Host (σ : Type) where
  /-- Rolls an expression, or says why it cannot. -/
  evaluate : RollContext → String → σ → Except String EvaluatedRoll × σ
  /-- Posts a message, or says why it cannot. -/
  post : Post → σ → Except String Unit × σ

/-- Something that was asked of the host. -/
inductive Effect where
  | evaluate (context : RollContext) (expression : String)
  | warn (message : String)
  | post (message : Post)

/-- Why an attack was not rolled. -/
inductive RollError where
  | disabled
  | missingItem
  /-- Resolving the damage has broken off. -/
  | overflow
  | noDamage (itemName : String)
  | evaluation (reason : String)
  | post (reason : String)
deriving DecidableEq, Repr

def RollError.message : RollError → String
  | .disabled => "alternative critical damage is disabled"
  | .missingItem => "chat entry has no item"
  | .overflow => "arithmetic overflow"
  | .noDamage itemName => "no damage found for " ++ itemName
  | .evaluation reason => "roll evaluation failed: " ++ reason
  | .post reason => "chat post failed: " ++ reason

/-- What a roll has done. -/
structure RollReport where
  tier : Tier
  critical : Bool
  parts : List Part
  post : Post
deriving DecidableEq, Repr

/-- The result of a roll, all that was asked of the host in order, and the host's state after it. -/
structure Transcript (σ : Type) where
  result : Except RollError RollReport
  effects : List Effect
  state : σ

/-- How expressions are evaluated together. The result has all rolls in the order of the
expressions, or says why there are none; it comes with what was asked of the host, and the host's
state. -/
abbrev Batch (σ : Type) :=
  RollContext → List String → σ → Except String (List EvaluatedRoll) × List Effect × σ

namespace Session

/-- Evaluates one expression after the other, up to the first failure. -/
def evaluateAll (host : Host σ) (context : RollContext) :
    List String → σ → Except String (List EvaluatedRoll) × List Effect × σ
  | [], st => (.ok [], [], st)
  | e :: es, st =>
    match host.evaluate context e st with
    | (.error reason, st) => (.error reason, [.evaluate context e], st)
    | (.ok roll, st) =>
      let (rolls, effects, st) := evaluateAll host context es st
      (rolls.map (roll :: ·), .evaluate context e :: effects, st)

/-- The message for an attack whose parts have been rolled. -/
def message (attack : Attack) (item : Item) (critical : Bool) (tier : Tier) (parts : List Part)
    (rolls : List EvaluatedRoll) : Post where
  rolls := rolls
  speaker := attack.actor.map (·.name)
  flavor := provenance item.name critical tier
  visibility := attack.visibility
  formula := combined parts

/-- Rolls the parts of an attack, evaluated by `batch`, and posts the result. -/
def rollParts (batch : Batch σ) (host : Host σ) (attack : Attack) (item : Item) (critical : Bool)
    (tier : Tier) (parts : List Part) (st : σ) : Transcript σ :=
  match batch ⟨attack.actor, some item.id⟩ (parts.map (·.expression)) st with
  | (.error reason, effects, st) =>
    ⟨.error (.evaluation reason),
      effects ++ [.warn ("Could not roll alternative damage: " ++ reason)], st⟩
  | (.ok rolls, effects, st) =>
    let post := message attack item critical tier parts rolls
    match host.post post st with
    | (.error reason, st) => ⟨.error (.post reason), effects ++ [.post post], st⟩
    | (.ok (), st) => ⟨.ok ⟨tier, critical, parts, post⟩, effects ++ [.post post], st⟩

/-- Rolls an attack, its parts evaluated by `batch`, and posts the result. -/
def rollBy (batch : Batch σ) (settings : Settings) (now : Int) (captures : CaptureStore)
    (host : Host σ) (attack : Attack) (st : σ) : Transcript σ :=
  if settings.enabled then
    match attack.item with
    | none => ⟨.error .missingItem, [], st⟩
    | some item =>
      let critical := Outcome.isCritical attack.outcome
      let options := settings.options critical
      if breaksOff captures now item attack.actor options Tier.order then
        ⟨.error .overflow, [], st⟩
      else
        match resolve captures now item attack.actor options with
        | none =>
          ⟨.error (.noDamage item.name), [.warn ("No damage found for " ++ item.name ++ ".")], st⟩
        | some (tier, parts) => rollParts batch host attack item critical tier parts st
  else ⟨.error .disabled, [], st⟩

/-- Rolls an attack, one part after the other, and posts the result. -/
def roll (settings : Settings) (now : Int) (captures : CaptureStore) (host : Host σ)
    (attack : Attack) (st : σ) : Transcript σ :=
  rollBy (evaluateAll host) settings now captures host attack st

end Session

/-- Rolls an expression with the next faces. -/
def rollWithFaces (expression : String) (faces : Dice.Faces) :
    Except String EvaluatedRoll × Dice.Faces :=
  match Formula.read expression with
  | .error e => (.error e.message, faces)
  | .ok formula =>
    match formula.roll faces with
    | some r => (.ok ⟨expression, r.total, r.dice⟩, r.left)
    | none =>
      (.error (if formula.breaksOff faces then "arithmetic overflow" else "too few faces"), faces)

/-- The roll of one of the expressions breaks off when they are rolled with the next faces, one
after the other up to the first failure. -/
def rollsBreakOff : List String → Dice.Faces → Bool
  | [], _ => false
  | e :: es, faces =>
    match Formula.read e with
    | .error _ => false
    | .ok formula =>
      match formula.roll faces with
      | some r => rollsBreakOff es r.left
      | none => formula.breaksOff faces

end CriticalDamage
