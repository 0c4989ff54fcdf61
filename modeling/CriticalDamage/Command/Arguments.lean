import CriticalDamage.Number.Decimal

/-!
# Command line arguments

The program has three commands: `formula` shows the formula of an item, `roll` rolls it, `bounds`
shows the totals a formula can have. Options are read from left to right; the first that is wrong
ends the reading, as does a request for help or for the version.
-/

namespace CriticalDamage.Command

/-- What the value of an option may be. -/
inductive ValueForm where
  /-- A path, which is not empty. -/
  | path
  | text
  /-- A seed for random numbers. -/
  | seed
deriving DecidableEq, Repr

/-- An option of a command; one without a form takes no value. -/
structure OptionSpec where
  short : Option Char
  long : String
  form : Option ValueForm
  about : String
deriving Repr

/-- Reads a seed, a number of 64 bits. -/
def seed? (s : String) : Option Nat := Decimal.unsigned? Width.unsigned64 s.toList

/-- The value has the form. -/
def ValueForm.accepts : ValueForm → String → Bool
  | .path, s => !s.isEmpty
  | .text, _ => true
  | .seed, s => (seed? s).isSome

/-- The option that every command has. -/
def verboseOption : OptionSpec :=
  ⟨some 'v', "verbose", none, "Log tier selection and capture decisions to stderr"⟩

/-- The options that describe an attack. -/
def attackOptions : List OptionSpec :=
  [⟨some 'i', "item", some .path, "Item JSON file"⟩,
    verboseOption,
    ⟨some 'a', "actor", some .path, "Actor JSON file (ability modifiers, speaker name)"⟩,
    ⟨none, "capture", some .path,
      "Damage JSON captured from an earlier damage roll of the same item"⟩,
    ⟨some 'c', "critical", none, "Treat the attack as a critical hit"⟩,
    ⟨none, "outcome", some .text,
      "Outcome flag (criticalSuccess, success, failure, criticalFailure); " ++
        "overrides --critical"⟩,
    ⟨none, "settings", some .path, "Settings JSON file"⟩,
    ⟨none, "double-static", none, "Double static modifiers on a critical hit"⟩,
    ⟨none, "double-all-static", none, "Double static modifiers attached to dice as well"⟩,
    ⟨none, "disabled", none, "Switch the feature off (everything fails as disabled)"⟩]

/-- The commands. -/
inductive CommandName where
  | formula
  | roll
  | bounds
deriving DecidableEq, Repr

namespace CommandName

def all : List CommandName := [.formula, .roll, .bounds]

def text : CommandName → String
  | .formula => "formula"
  | .roll => "roll"
  | .bounds => "bounds"

def about : CommandName → String
  | .formula => "Show the alternative critical formula for an item"
  | .roll => "Roll alternative damage for an item and print the chat message"
  | .bounds => "Show the smallest and largest total of a formula or `\x7ba,b\x7d` set"

def options : CommandName → List OptionSpec
  | .formula => attackOptions ++ [⟨none, "json", none, "Print the formula parts as JSON"⟩]
  | .roll => attackOptions ++
    [⟨some 's', "seed", some .seed, "RNG seed for reproducible rolls [default: 42]"⟩,
      ⟨none, "visibility", some .text,
        "Chat visibility: public, gm, blind, self [default: public]"⟩]
  | .bounds => [verboseOption]

/-- How many arguments that are no options the command takes. -/
def positionals : CommandName → Nat
  | .bounds => 1
  | _ => 0

/-- The arguments the command needs, as its usage line shows them. -/
def needed : CommandName → String
  | .bounds => "<FORMULA>"
  | _ => "--item <ITEM>"

end CommandName

/-- The files and flags of an attack. -/
structure AttackArguments where
  item : String
  actor : Option String
  capture : Option String
  outcome : Option String
  settings : Option String
  critical : Bool
  doubleStatic : Bool
  doubleAllStatic : Bool
  disabled : Bool
deriving DecidableEq, Repr

/-- A command with its arguments. -/
inductive Invocation where
  | formula (attack : AttackArguments) (json : Bool)
  | roll (attack : AttackArguments) (seed : Nat) (visibility : String)
  | bounds (formula : String)
deriving DecidableEq, Repr

/-- What a help text is about. -/
inductive HelpTopic where
  | program
  | command (name : CommandName)
  /-- The command that prints help texts. -/
  | help
deriving DecidableEq, Repr

/-- What the arguments ask for. -/
inductive Request where
  | run (invocation : Invocation)
  | help (topic : HelpTopic)
  | version (command : Option CommandName)
deriving DecidableEq, Repr

/-- Why reading arguments ends before the last one. -/
inductive Stop where
  | usage
  | help
  | version
deriving DecidableEq, Repr

/-- Options and other arguments, in order. -/
structure Given where
  options : List (String × String)
  positionals : List String
deriving DecidableEq, Repr

namespace Given

def has (g : Given) (long : String) : Bool := g.options.any (·.1 == long)

def value? (g : Given) (long : String) : Option String :=
  (g.options.find? (·.1 == long)).map (·.2)

/-- Adds an option, which may be given once. -/
def add (g : Given) (spec : OptionSpec) (value : String) : Except Stop Given :=
  let accepted := match spec.form with
    | some form => form.accepts value
    | none => true
  if g.has spec.long || !accepted then .error .usage
  else .ok { g with options := g.options ++ [(spec.long, value)] }

end Given

/-- Reads the letters after a single hyphen: flags, and at the end perhaps an option with its value
directly after it. The result is also the option whose value is still to come. -/
def readLetters (specs : List OptionSpec) (g : Given) :
    List Char → Except Stop (Given × Option OptionSpec)
  | [] => .ok (g, none)
  | c :: rest =>
    if c = 'h' then .error .help
    else if c = 'V' then .error .version
    else match specs.find? (·.short == some c) with
      | none => .error .usage
      | some spec =>
        if spec.form.isSome then
          match rest with
          | [] => .ok (g, some spec)
          | '=' :: value => (g.add spec (String.ofList value)).map (·, none)
          | value => (g.add spec (String.ofList value)).map (·, none)
        else do
          let g ← g.add spec ""
          readLetters specs g rest

/-- Reads what follows two hyphens: the name of an option, perhaps with a value after an equals
sign. -/
def readLong (specs : List OptionSpec) (g : Given) (cs : List Char) :
    Except Stop (Given × Option OptionSpec) :=
  let name := String.ofList (cs.takeWhile (· ≠ '='))
  let attached := cs.dropWhile (· ≠ '=')
  if name = "help" ∧ attached = [] then .error .help
  else if name = "version" ∧ attached = [] then .error .version
  else match specs.find? (·.long == name) with
    | none => .error .usage
    | some spec =>
      match spec.form, attached with
      | some _, [] => .ok (g, some spec)
      | some _, _ :: value => (g.add spec (String.ofList value)).map (·, none)
      | none, [] => (g.add spec "").map (·, none)
      | none, _ :: _ => .error .usage

/-- Adds an argument that is no option. -/
def addPositional (limit : Nat) (g : Given) (s : String) : Except Stop Given :=
  if g.positionals.length < limit then .ok { g with positionals := g.positionals ++ [s] }
  else .error .usage

/-- Reads the arguments of a command, with `pending` waiting for its value. -/
def readArguments (specs : List OptionSpec) (limit : Nat) (pending : Option OptionSpec)
    (g : Given) : List String → Except Stop Given
  | [] => if pending.isSome then .error .usage else .ok g
  | s :: rest =>
    match s.toList, pending with
    | '-' :: '-' :: [], none => rest.foldlM (addPositional limit) g
    | '-' :: '-' :: cs, none => do
      let (g, pending) ← readLong specs g cs
      readArguments specs limit pending g rest
    | '-' :: c :: cs, none => do
      let (g, pending) ← readLetters specs g (c :: cs)
      readArguments specs limit pending g rest
    | '-' :: _ :: _, some _ => .error .usage
    | _, some spec => do
      let g ← g.add spec s
      readArguments specs limit none g rest
    | _, none => do
      let g ← addPositional limit g s
      readArguments specs limit none g rest

/-- The attack that the options describe. -/
def Given.attack? (g : Given) : Option AttackArguments := do
  let item ← g.value? "item"
  return {
    item
    actor := g.value? "actor"
    capture := g.value? "capture"
    outcome := g.value? "outcome"
    settings := g.value? "settings"
    critical := g.has "critical"
    doubleStatic := g.has "double-static"
    doubleAllStatic := g.has "double-all-static"
    disabled := g.has "disabled" }

/-- The command with its arguments, if none that it needs is missing. -/
def Given.invocation? (g : Given) : CommandName → Option Invocation
  | .formula => g.attack?.map fun attack => .formula attack (g.has "json")
  | .roll => g.attack?.map fun attack =>
    let seed := (g.value? "seed").bind seed?
    .roll attack (seed.getD 42) ((g.value? "visibility").getD "public")
  | .bounds => g.positionals.head?.map .bounds

/-- Reads the arguments of a named command. -/
def readCommand (name : CommandName) (args : List String) : Option Request :=
  match readArguments name.options name.positionals none ⟨[], []⟩ args with
  | .ok g => (g.invocation? name).map .run
  | .error .help => some (.help (.command name))
  | .error .version => some (.version (some name))
  | .error .usage => none

def commandNamed? (s : String) : Option CommandName := CommandName.all.find? (·.text == s)

/-- The topic that the arguments of the command `help` name. -/
def helpTopic? : List String → Option HelpTopic
  | [] => some .program
  | [s] => if s = "help" then some .help else (commandNamed? s).map .command
  | _ => none

/-- Reads the options before the command, and then the command. `g` holds the options so far. -/
def readFrom (g : Given) : List String → Option Request
  | [] => none
  | s :: rest =>
    let go (r : Except Stop (Given × Option OptionSpec)) : Option Request :=
      match r with
      | .ok (g, none) => readFrom g rest
      | .error .help => some (.help .program)
      | .error .version => some (.version none)
      | _ => none
    match s.toList with
    | '-' :: '-' :: [] => none
    | '-' :: '-' :: cs => go (readLong [verboseOption] g cs)
    | '-' :: c :: cs => go (readLetters [verboseOption] g (c :: cs))
    | _ =>
      if s = "help" then (helpTopic? rest).map .help
      else (commandNamed? s).bind fun name => readCommand name rest

/-- Reads the arguments of the program; nothing if they are wrong. -/
def read? (args : List String) : Option Request := readFrom ⟨[], []⟩ args

end CriticalDamage.Command
