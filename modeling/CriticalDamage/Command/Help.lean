import CriticalDamage.Command.Arguments

/-!
# Help

The help texts of the program and of its commands.
-/

namespace CriticalDamage.Command

/-- The name of the program. -/
def programName : String := "altcrit"

/-- The version of the program. -/
def programVersion : String := "0.1.0"

/-- An option with its letter, its name and the name of its value. -/
def OptionSpec.shown (o : OptionSpec) : String :=
  let letter := match o.short with
    | some c => "-" ++ String.singleton c ++ ", "
    | none => "    "
  let value := if o.form.isSome then " <" ++ o.long.toUpper ++ ">" else ""
  letter ++ "--" ++ o.long ++ value

/-- Lines of two columns, the second of which is aligned. -/
def columns (rows : List (String × String)) : List String :=
  let width := (rows.map (·.1.length)).foldl max 0
  rows.map fun r =>
    "  " ++ r.1 ++ String.ofList (List.replicate (width - r.1.length + 2) ' ') ++ r.2

/-- The lines that describe options. -/
def optionLines (options : List OptionSpec) : List String :=
  columns ((options.map fun o => (o.shown, o.about)) ++
    [("-h, --help", "Print help"), ("-V, --version", "Print version")])

/-- What the command `help` does. -/
def helpAbout : String := "Print this message or the help of the given subcommand(s)"

/-- The lines of a help text. -/
def helpLines : HelpTopic → List String
  | .program =>
    ["Alternative critical damage: roll the dice once, add their maximum", "",
      "Usage: " ++ programName ++ " [OPTIONS] <COMMAND>", "", "Commands:"] ++
    columns ((CommandName.all.map fun c => (c.text, c.about)) ++ [("help", helpAbout)]) ++
    ["", "Options:"] ++ optionLines [verboseOption]
  | .command c =>
    [c.about, "",
      "Usage: " ++ programName ++ " " ++ c.text ++ " [OPTIONS] " ++ c.needed, ""] ++
    (if c = .bounds then
      ["Arguments:",
        "  <FORMULA>  The formula, e.g. \"\x7b(2d6+12+1)[piercing],6[untyped]\x7d\"", ""]
    else []) ++
    ["Options:"] ++ optionLines c.options
  | .help =>
    [helpAbout, "", "Usage: " ++ programName ++ " help [COMMAND]...", "", "Arguments:",
      "  [COMMAND]...  Print help for the subcommand(s)"]

/-- The line that names the version. -/
def versionLine : Option CommandName → String
  | none => programName ++ " " ++ programVersion
  | some c => programName ++ "-" ++ c.text ++ " " ++ programVersion

end CriticalDamage.Command
