import Cadence.Text.Styled

/-!
# Command-line specifications

A program's command line is a set of options at the top and a set of subcommands, each with
options of its own. An option has a long name, perhaps a one-letter short name, a description,
and either is a switch or takes one value: a count, a path, or one of a list of named choices.
A global option is accepted at the top and in every subcommand alike.

Every level also answers `-h`/`--help`, and the top answers `-V`/`--version`. The top has one
more subcommand, `help`, that shows the help of the subcommands named after it.

A level is what the parser and the help see at one place of the command line: its name, its
description, every option it accepts (globals and help included) and its subcommands. Options
are listed in help by their position, then by their short name (lowercased, a lowercase letter
before an uppercase one) or long name; the generated ones come last.
-/
namespace Cadence.Cli

open Text

/-- How the value of an option is read. -/
inductive ValueKind where
  /-- A whole number below 2^64. -/
  | count
  /-- A path: any text but the empty one. -/
  | path
  /-- One of the named choices, each with a description. -/
  | choice (choices : List (String × String))
  deriving Repr, BEq, Inhabited

/-- The value an option takes: its placeholder, how it is read, and its default. -/
structure ValueSpec where
  placeholder : String
  kind : ValueKind
  defaultValue : Option String := none
  deriving Repr, BEq, Inhabited

/-- What giving an option does. -/
inductive Action where
  /-- A switch, on when given. -/
  | flag
  /-- An option with one value. -/
  | value (spec : ValueSpec)
  /-- Shows the help. -/
  | help
  /-- Shows the version. -/
  | version
  deriving Repr, BEq, Inhabited

/-- An option of a command line. -/
structure Arg where
  id : String
  short : Option Char := none
  long : String
  help : String
  /-- The description in long help, when it differs. -/
  longHelp : Option String := none
  action : Action
  /-- Whether the option is accepted in every subcommand too. -/
  global : Bool := false
  /-- Position in help listings. -/
  order : Nat
  deriving Repr, BEq, Inhabited

namespace Arg

/-- The value an option takes, if any. -/
def value? (a : Arg) : Option ValueSpec :=
  match a.action with
  | .value v => some v
  | _ => none

/-- The choices of an option's value, if it is one of a list. -/
def choices (a : Arg) : List (String × String) :=
  match a.value? with
  | some { kind := .choice cs, .. } => cs
  | _ => []

/-- The option as named in messages: `--long`, then ` <VALUE>` for an option with a value. -/
def display (a : Arg) : String :=
  "--" ++ a.long ++
    (match a.value? with
     | some v => " <" ++ v.placeholder ++ ">"
     | none => "")

/-- Whether the option's choices have descriptions, listed one a line in long help. -/
def describesChoices (a : Arg) : Bool := a.choices.any (·.2 != "")

/-- Whether long help says more about the option. -/
def hasLongHelp (a : Arg) : Bool := a.longHelp.isSome || a.describesChoices

end Arg

/-- A subcommand: its name, description and options. -/
structure Command where
  name : String
  about : String
  args : List Arg
  deriving Repr, Inhabited

/-- A program's command line. -/
structure Program where
  name : String
  version : String
  about : String
  /-- The options at the top, globals among them. -/
  args : List Arg
  commands : List Command
  deriving Repr, Inhabited

/-- What the parser and the help see at one place of a command line. -/
structure Level where
  /-- The program's name, then the subcommand's. -/
  path : List String
  about : String
  /-- Every option accepted here, in the order they were declared. -/
  args : List Arg
  /-- The subcommands, with their descriptions. -/
  commands : List (String × String) := []
  /-- Words the level takes, as shown in usage, with their description. -/
  words : Option (String × String) := none
  /-- Whether a subcommand must be given. -/
  needsCommand : Bool := false
  /-- The option to suggest after an error, if any. -/
  helpFlag : Option String := some "--help"
  /-- What the version option shows. -/
  version : String := ""
  deriving Repr, Inhabited

namespace Level

/-- The name of the level as used in usage lines. -/
def name (lv : Level) : String := " ".intercalate lv.path

/-- Whether long help says more than short help here. -/
def hasLongHelp (lv : Level) : Bool := lv.args.any Arg.hasLongHelp

/-- The option with this long name. -/
def findLong (lv : Level) (long : String) : Option Arg := lv.args.find? (·.long == long)

/-- The option with this short name. -/
def findShort (lv : Level) (c : Char) : Option Arg := lv.args.find? (·.short == some c)

/-- The option with this id. -/
def find (lv : Level) (id : String) : Option Arg := lv.args.find? (·.id == id)

end Level

/-- The description of the `help` subcommand. -/
def helpAbout : String := "Print this message or the help of the given subcommand(s)"

/-- The generated help option of a level; its text says whether long help says more. -/
def helpArg (longer : Bool) : Arg :=
  { id := "help", short := some 'h', long := "help", action := .help, order := 999,
    help := if longer then "Print help (see more with '--help')" else "Print help",
    longHelp := if longer then some "Print help (see a summary with '-h')" else none }

/-- The generated version option of the top. -/
def versionArg : Arg :=
  { id := "version", short := some 'V', long := "version", help := "Print version",
    action := .version, order := 999 }

namespace Program

/-- The top level: the top options, help and version, and the subcommands with `help` last. -/
def top (p : Program) : Level :=
  { path := [p.name], about := p.about,
    args := p.args ++ [helpArg (p.args.any Arg.hasLongHelp), versionArg],
    commands := p.commands.map (fun c => (c.name, c.about)) ++ [("help", helpAbout)],
    needsCommand := true, version := p.name ++ " " ++ p.version ++ "\n" }

/-- The level of a subcommand: its options, the global ones, and help. -/
def level (p : Program) (c : Command) : Level :=
  { path := [p.name, c.name], about := c.about,
    args := c.args ++ p.args.filter (·.global) ++ [helpArg (c.args.any Arg.hasLongHelp)] }

/-- The level of the `help` subcommand: it takes the names of subcommands and no options. -/
def helpLevel (p : Program) : Level :=
  { path := [p.name, "help"], about := helpAbout, args := [],
    words := some ("[COMMAND]...", "Print help for the subcommand(s)"), helpFlag := none }

/-- The level of the subcommand with this name, `help` included. -/
def levelOf? (p : Program) (name : String) : Option Level :=
  if name == "help" then some p.helpLevel
  else (p.commands.find? (·.name == name)).map p.level

end Program

/-! The styles of the parts of help and error messages. -/
namespace Palette

/-- Section headers and the word `Usage:`. -/
def header : Style := { bold := true, underline := true }

/-- The word `error:`. -/
def error : Style := { bold := true, color := some .red }

/-- Names to be typed as shown. -/
def literal : Style := { bold := true }

/-- Suggested and accepted values. -/
def valid : Style := Style.colored .green

/-- The offending word. -/
def invalid : Style := Style.colored .yellow

end Palette

end Cadence.Cli
