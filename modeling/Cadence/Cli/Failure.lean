import Cadence.Cli.Help
import Cadence.Text.Similarity

/-!
# Command lines that do not run the program

A command line either runs the program or ends it at once: because it asked for help or the
version (shown on standard output, status 0), or because it is wrong (shown on standard error,
status 2). A wrong command line is reported as `error: ` and the problem, then a tip naming
similar words if there are any, then the usage line when it helps, and last the option that
shows help.
-/
namespace Cadence.Cli

open Text

/-- Why a command line does not run the program. -/
inductive ErrorKind where
  | displayHelp
  | displayVersion
  /-- Nothing at all was given, where a subcommand was needed: help is shown as an error. -/
  | displayHelpOnMissingArgumentOrSubcommand
  | invalidValue
  | valueValidation
  | unknownArgument
  | invalidSubcommand
  | argumentConflict
  | tooManyValues
  | missingSubcommand
  deriving Repr, BEq, Inhabited

/-- The name of a kind of failure. -/
def ErrorKind.name : ErrorKind → String
  | .displayHelp => "DisplayHelp"
  | .displayVersion => "DisplayVersion"
  | .displayHelpOnMissingArgumentOrSubcommand => "DisplayHelpOnMissingArgumentOrSubcommand"
  | .invalidValue => "InvalidValue"
  | .valueValidation => "ValueValidation"
  | .unknownArgument => "UnknownArgument"
  | .invalidSubcommand => "InvalidSubcommand"
  | .argumentConflict => "ArgumentConflict"
  | .tooManyValues => "TooManyValues"
  | .missingSubcommand => "MissingSubcommand"

/-- Whether the command line asked to see something rather than being wrong. -/
def ErrorKind.isRequest : ErrorKind → Bool
  | .displayHelp | .displayVersion => true
  | _ => false

/-- A command line that does not run the program: why, and the text shown. -/
structure Failure where
  kind : ErrorKind
  text : Styled
  deriving Inhabited

/-- The exit status after a failure. -/
def Failure.status (f : Failure) : Nat := if f.kind.isRequest then 0 else 2

/-- An error message in parts. -/
structure Report where
  body : Styled
  /-- What kind of word similar ones were found for, and which. -/
  similar : Option (String × List String) := none
  tips : List Styled := []
  usage : Option Styled := none
  helpFlag : Option String := some "--help"

/-- A suggested word, quoted. -/
def quotedValid (w : String) : Styled :=
  Styled.plain "'" ++ Styled.styled Palette.valid w ++ Styled.plain "'"

/-- The full text of an error message. -/
def Report.text (r : Report) : Styled :=
  let tip : Styled := Styled.plain "\n\n  " ++ Styled.styled Palette.valid "tip:"
  let similar : Styled := match r.similar with
    | some (what, [w]) => tip ++ Styled.plain (" a similar " ++ what ++ " exists: ") ++ quotedValid w
    | some (what, ws) =>
      tip ++ Styled.plain (" some similar " ++ what ++ "s exist: ") ++
        joinStyled (Styled.plain ", ") (ws.map quotedValid)
    | none => []
  let tips : Styled :=
    if r.tips.isEmpty then []
    else
      (if r.similar.isSome then [] else Styled.plain "\n") ++
        r.tips.flatMap fun t =>
          Styled.plain "\n  " ++ Styled.styled Palette.valid "tip:" ++ Styled.plain " " ++ t
  let usage : Styled := match r.usage with
    | some u => Styled.plain "\n\n" ++ u
    | none => []
  let help : Styled := match r.helpFlag with
    | some h =>
      Styled.plain "\n\nFor more information, try '" ++ Styled.styled Palette.literal h ++
        Styled.plain "'.\n"
    | none => Styled.plain "\n"
  Styled.styled Palette.error "error:" ++ Styled.plain " " ++ r.body ++ similar ++ tips ++ usage ++
    help

/-- A failure of a kind with its message. -/
def Report.fail (r : Report) (kind : ErrorKind) : Failure := { kind, text := r.text }

/-- A word of the command line, as the offending one. -/
def invalidWord (w : String) : Styled := Styled.styled Palette.invalid w

/-- The list of accepted words after a message, if there are any. -/
def valuesList (title : String) (words : List String) : Styled :=
  if words.isEmpty then []
  else
    Styled.plain ("\n  [" ++ title ++ ": ") ++
      joinStyled (Styled.plain ", ") (words.map (Styled.styled Palette.valid)) ++ Styled.plain "]"

/-- Help asked for, short or long. -/
def helpRequest (lv : Level) (long : Bool) : Failure :=
  { kind := .displayHelp, text := helpText lv long }

/-- The version asked for. -/
def versionRequest (lv : Level) : Failure :=
  { kind := .displayVersion, text := Styled.plain lv.version }

/-- A value that is not one of the choices, or is empty. -/
def badValue (lv : Level) (a : Arg) (v : String) : Failure :=
  let names := a.choices.map (·.1)
  let body :=
    if v.isEmpty then
      Styled.plain "a value is required for '" ++ Styled.styled Palette.literal a.display ++
        Styled.plain "' but none was supplied"
    else
      Styled.plain "invalid value '" ++ invalidWord v ++ Styled.plain "' for '" ++
        Styled.styled Palette.literal a.display ++ Styled.plain "'"
  let similar := (similarWords v names).getLast?.map fun w => ("value", [w])
  Report.fail { body := body ++ valuesList "possible values" names, similar,
                helpFlag := lv.helpFlag } .invalidValue

/-- A value its reader rejects, and why. -/
def invalidValue (lv : Level) (a : Arg) (v why : String) : Failure :=
  Report.fail
    { body := Styled.plain "invalid value '" ++ invalidWord v ++ Styled.plain "' for '" ++
        Styled.styled Palette.literal a.display ++ Styled.plain ("': " ++ why),
      helpFlag := lv.helpFlag } .valueValidation

/-- An option given twice. -/
def givenTwice (lv : Level) (a : Arg) : Failure :=
  Report.fail
    { body := Styled.plain "the argument '" ++ invalidWord a.display ++
        Styled.plain "' cannot be used multiple times",
      usage := some (usageBlock lv []), helpFlag := lv.helpFlag } .argumentConflict

/-- A value attached to a switch. -/
def unexpectedValue (lv : Level) (a : Arg) (v : String) (used : List String) : Failure :=
  Report.fail
    { body := Styled.plain "unexpected value '" ++ invalidWord v ++ Styled.plain "' for '" ++
        Styled.styled Palette.literal a.display ++ Styled.plain "' found; no more were expected",
      usage := some (usageBlock lv used), helpFlag := lv.helpFlag } .tooManyValues

/-- A word that is no option here. -/
def unknownArgument (lv : Level) (w : String) (similar : Option (String × List String))
    (tips : List Styled) (used : List String) : Failure :=
  Report.fail
    { body := Styled.plain "unexpected argument '" ++ invalidWord w ++ Styled.plain "' found",
      similar, tips, usage := some (usageBlock lv used), helpFlag := lv.helpFlag }
    .unknownArgument

/-- A word where a subcommand was expected, with the similar subcommand names. -/
def unknownSubcommand (lv : Level) (w : String) (similar : List String) : Failure :=
  Report.fail
    { body := Styled.plain "unrecognized subcommand '" ++ invalidWord w ++ Styled.plain "'",
      similar := if similar.isEmpty then none else some ("subcommand", similar),
      usage := some (usageBlock lv []), helpFlag := lv.helpFlag } .invalidSubcommand

/-- A subcommand name after `--`, where it is only a value. -/
def commandAfterEscape (lv : Level) (w : String) : Failure :=
  unknownArgument lv w none
    [Styled.plain "subcommand '" ++ Styled.styled Palette.valid w ++
      Styled.plain "' exists; to use it, remove the '" ++ invalidWord "--" ++
      Styled.plain "' before it"] []

/-- No subcommand where one was needed. -/
def missingCommand (lv : Level) : Failure :=
  Report.fail
    { body := Styled.plain "'" ++ invalidWord lv.name ++
        Styled.plain "' requires a subcommand but one was not provided" ++
        valuesList "subcommands" (lv.commands.map (·.1)),
      usage := some (usageBlock lv []), helpFlag := lv.helpFlag } .missingSubcommand

/-- Nothing given where a subcommand was needed: the short help, as an error. -/
def nothingGiven (lv : Level) : Failure :=
  { kind := .displayHelpOnMissingArgumentOrSubcommand, text := helpText lv false }

end Cadence.Cli
