import CriticalDamage.Command.Help
import CriticalDamage.Command.Table
import CriticalDamage.Document.Reader
import CriticalDamage.Document.Writer
import CriticalDamage.Session.Roll

/-!
# Running commands

What each command prints. Files are read through a function from paths to texts, and the faces of
dice come from a function that is given the seed and the dice to be rolled, so a run depends on
nothing else.
-/

namespace CriticalDamage.Command

/-- The result of a run: the status with which the program ends and what it prints. -/
structure Output where
  status : Nat
  stdout : String
  stderr : String
deriving DecidableEq, Repr

/-- Where a run finds files and faces. -/
structure World where
  /-- The text of a file, or why it cannot be read. -/
  readText : String → Except String String
  /-- Faces for the dice terms that are rolled with a seed, in order. -/
  faces : Nat → List (Count × Die) → Dice.Faces

/-- Lines, each of them ended. -/
def unlines (lines : List String) : String := String.join (lines.map (· ++ "\n"))

/-- A run that succeeds and prints lines. -/
def Output.success (lines : List String) : Output := ⟨0, unlines lines, ""⟩

/-- A run that fails with an error, after some warnings. -/
def Output.failure (error : String) (warnings : List String) : Output :=
  ⟨1, "", unlines (warnings.map ("warning: " ++ ·) ++ ["error: " ++ error])⟩

/-- A run that breaks off because a number does not fit in its width. -/
def Output.brokenOff : Output := ⟨101, "", ""⟩

/-- The files that describe an attack. -/
def AttackArguments.paths (a : AttackArguments) : List String :=
  a.item :: (a.actor.toList ++ a.capture.toList ++ a.settings.toList)

/-- The files that a run of the program with the given arguments may read. -/
def paths (args : List String) : List String :=
  match read? args with
  | some (.run (.formula a _)) | some (.run (.roll a _ _)) => a.paths
  | _ => []

/-- The attack that a run is about. -/
structure LoadedAttack where
  item : Item
  actor : Option Actor
  capture : Option Document
  outcome : Option Outcome
  settings : Settings

/-- The text of a file. -/
def World.read (w : World) (path : String) : Except String String :=
  match w.readText path with
  | .ok text => .ok text
  | .error reason => .error ("cannot read " ++ path ++ ": " ++ reason)

/-- What is wrong with a document that cannot be read. -/
def malformedText : String := "malformed document"

/-- Reads a document from a file; `complaint` begins the error if that fails. -/
def World.load (w : World) (path : String) (complaint : String)
    (read : Document → Option α) : Except String α := do
  let text ← w.read path
  match (Document.read? text).bind read with
  | some a => .ok a
  | none => .error (complaint ++ ": " ++ malformedText)

/-- Reads a document from a file that need not be named. -/
def World.load? (w : World) (path : Option String) (complaint : String → String)
    (read : Document → Option α) : Except String (Option α) :=
  match path with
  | some path => (w.load path (complaint path) read).map some
  | none => .ok none

/-- The identifier of an item whose document names none. -/
def unnamedId : String := "0000000000000000"

/-- The settings changed by the flags. -/
def AttackArguments.adjust (a : AttackArguments) (s : Settings) : Settings :=
  { s with
    doubleStatic := s.doubleStatic || a.doubleStatic || a.doubleAllStatic
    scope := if a.doubleAllStatic then .allStatic else s.scope
    enabled := s.enabled && !a.disabled }

/-- The outcome that is flagged; a named outcome counts more than the flag for critical hits. -/
def AttackArguments.flagged (a : AttackArguments) : Except String (Option Outcome) :=
  match a.outcome with
  | some name =>
    match Outcome.ofName name with
    | .ok o => .ok (some o)
    | .error e => .error e.message
  | none => .ok (if a.critical then some .criticalSuccess else none)

/-- Reads the files of an attack. -/
def World.loadAttack (w : World) (a : AttackArguments) : Except String LoadedAttack := do
  let item ← w.load a.item "invalid item" (Item.ofDocument? unnamedId)
  let actor ← w.load? a.actor (fun _ => "invalid actor") Actor.ofDocument?
  let capture ← w.load? a.capture ("invalid capture " ++ ·) Document.any?
  let outcome ← a.flagged
  let settings ← w.load? a.settings ("invalid settings " ++ ·) Settings.ofDocument?
  return { item, actor, capture, outcome, settings := a.adjust (settings.getD .usual) }

/-- The captures of a session that has seen the damage roll of the attack's capture, if it has one.
The session takes place at one moment. -/
def LoadedAttack.captures (a : LoadedAttack) : CaptureStore :=
  let store := Session.begin a.settings
  match a.capture with
  | some damage =>
    (Session.observe a.settings 0 store
      ⟨[⟨RollRecord.damageType, some damage⟩], some a.item.id⟩).2
  | none => store

/-- The attack as a chat entry. -/
def LoadedAttack.entry (a : LoadedAttack) (visibility : Visibility) : Attack :=
  ⟨some a.item, a.actor, a.outcome, visibility⟩

/-- A part as a document. -/
def partDocument (p : Part) : Document :=
  .record [("expression", .text p.expression), ("damage_type", p.type.toDocument),
    ("category", p.category.toDocument), ("kind", .text p.kind.key)]

/-- A total as text. -/
def total (n : Int) : String := String.ofList (Decimal.integer n)

/-- Shows the formula of an item, as a table or as a document. -/
def runFormula (a : LoadedAttack) (json : Bool) : Output :=
  if !a.settings.enabled then .failure RollError.disabled.message []
  else
    let critical := Outcome.isCritical a.outcome
    let options := a.settings.options critical
    if Session.breaksOff a.captures 0 a.item a.actor options Tier.order then .brokenOff
    else
      match Session.resolve a.captures 0 a.item a.actor options with
      | none => .failure (RollError.noDamage a.item.name).message []
      | some (tier, parts) =>
        if json then .success [(Document.list (parts.map partDocument)).pretty]
        else
          let outcome := if critical then "critical" else "normal hit"
          let rows := parts.zipIdx.map fun (p, i) =>
            [toString (i + 1), p.expression, p.type.text, p.category.text, p.kind.text]
          .success (["  " ++ a.item.name ++ " (" ++ outcome ++ ", " ++ tier.text ++ ")", ""] ++
            Table.lines ["#", "Expression", "Type", "Category", "Source"] rows ++
            ["", "  Combined: " ++ combined parts] ++
            if tier.isLossy then ["  " ++ missingModifiersNote] else [])

/-- The lines of a text; the carriage returns at their ends are dropped, and so is an empty last
line. -/
def textLines (s : String) : List String :=
  let lines := s.toList.splitOn '\n'
  let lines := if lines.getLast? = some [] then lines.dropLast else lines
  lines.map fun cs =>
    String.ofList (if cs.getLast? = some '\r' then cs.dropLast else cs)

/-- A message as it is shown on a terminal. -/
def postLines (p : Post) : List String :=
  (textLines p.flavor).map ("  " ++ ·) ++
    ["  [" ++ p.visibility.text ++ "] " ++ p.speaker.getD "(no speaker)", ""] ++
    Table.lines ["Formula", "Dice", "Maxed", "Total"] (p.rolls.map fun r =>
      [r.expression, Dice.rollsText r.dice,
        toString (Dice.maxedCount r.dice) ++ "/" ++ toString r.dice.length, total r.total]) ++
    ["", "  Total: " ++ total p.total]

/-- A host that rolls with the given faces and accepts every message. -/
def faceHost : Host Dice.Faces where
  evaluate _ expression faces := rollWithFaces expression faces
  post _ faces := (.ok (), faces)

/-- The dice terms that the parts roll, in order. -/
def diceOf (parts : List Part) : List (Count × Die) :=
  parts.flatMap fun p =>
    match Formula.read p.expression with
    | .ok f => f.leaves
    | .error _ => []

/-- Rolls an item and shows the message. -/
def runRoll (w : World) (a : LoadedAttack) (seed : Nat) (visibility : Visibility) : Output :=
  let options := a.settings.options (Outcome.isCritical a.outcome)
  let parts := match Session.resolve a.captures 0 a.item a.actor options with
    | some (_, parts) => parts
    | none => []
  let faces := w.faces seed (diceOf parts)
  let t := Session.roll a.settings 0 a.captures faceHost (a.entry visibility) faces
  let warnings := t.effects.filterMap fun
    | .warn message => some message
    | _ => none
  match t.result with
  | .ok report => .success (postLines report.post)
  | .error .overflow => .brokenOff
  | .error (.evaluation reason) =>
    if rollsBreakOff (parts.map (·.expression)) faces then .brokenOff
    else .failure (RollError.evaluation reason).message warnings
  | .error e => .failure e.message warnings

/-- Shows the least and the greatest total of each formula of a set, and of all together. -/
def runBounds (source : String) : Output :=
  match Formula.readSet source with
  | .error e => .failure e.message []
  | .ok formulas =>
    let range := Formula.rangeSum formulas
    let rows := formulas.zipIdx.map fun (f, i) =>
      [toString (i + 1), ", ".intercalate f.tags, total f.min, total f.max]
    .success (Table.lines ["#", "Tags", "Min", "Max"] rows ++
      ["", "  Range: " ++ total range.low ++ "..=" ++ total range.high])

/-- Runs a command. -/
def Invocation.run (w : World) : Invocation → Output
  | .formula args json =>
    match w.loadAttack args with
    | .ok a => runFormula a json
    | .error e => .failure e []
  | .roll args seed visibility =>
    match w.loadAttack args with
    | .error e => .failure e []
    | .ok a =>
      match Visibility.ofName visibility with
      | .ok v => runRoll w a seed v
      | .error e => .failure e.message []
  | .bounds source => runBounds source

/-- Runs the program with the given arguments. Wrong arguments end it with status 2. -/
def run (w : World) (args : List String) : Output :=
  match read? args with
  | some (.run invocation) => invocation.run w
  | some (.help topic) => .success (helpLines topic)
  | some (.version command) => .success [versionLine command]
  | none => ⟨2, "", ""⟩

end CriticalDamage.Command
