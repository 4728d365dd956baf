import Cadence.Cli.Spec

/-!
# Usage lines and help

The usage line of a level is its name, `[OPTIONS]` when it has options besides help and
version, the words it takes, and `<COMMAND>` when a subcommand must follow. After an error that
names options already given, the usage line lists those instead of `[OPTIONS]`.

Help is the description, the usage line, and the sections `Commands:`, `Arguments:` and
`Options:`. In short help each entry's description stands in a column after the longest entry,
with the option's default and choices after it; when that column starts past two fifths of a
100-column line and some description does not fit the rest, every description goes on the next
line, indented by ten. Long help always does that, shows the default on a line of its own, lists
described choices one a line, and leaves a blank line between options.
-/
namespace Cadence.Cli

open Text

/-- A run of blanks. -/
def blanks (n : Nat) : String := String.ofList (List.replicate n ' ')

/-- Styled pieces joined by a separator. -/
def joinStyled (sep : Styled) : List Styled → Styled
  | [] => []
  | [s] => s
  | s :: rest => s ++ sep ++ joinStyled sep rest

/-- How help is laid out in a line of this many columns. -/
def lineWidth : Nat := 100

/-- Whether descriptions go on the next line: the column after entries of width `longest` starts
past two fifths of the line, and a description of width `w` does not fit the rest. -/
def forcedNextLine (longest w : Nat) : Bool :=
  let taken := longest + 4
  lineWidth ≥ taken && taken * 5 > lineWidth * 2 && w > lineWidth - taken

/-- The usage line of a level when nothing was given. -/
def usage (lv : Level) : Styled :=
  let hasOptions := lv.args.any fun a => a.long != "help" && a.long != "version"
  Styled.styled Palette.literal lv.name ++
    (if hasOptions then Styled.plain " [OPTIONS]" else []) ++
    (match lv.words with
     | some (w, _) => Styled.plain (" " ++ w)
     | none => []) ++
    (if lv.needsCommand then Styled.plain " <COMMAND>" else [])

/-- An option as written in a usage line: its long name, then its placeholder. -/
def usageArg (a : Arg) : Styled :=
  Styled.styled Palette.literal ("--" ++ a.long) ++
    (match a.value? with
     | some v => Styled.plain (" <" ++ v.placeholder ++ ">")
     | none => [])

/-- The usage line naming the options given, each once. -/
def usageOf (lv : Level) (used : List String) : Styled :=
  let ids := used.foldl (fun acc i => if acc.contains i then acc else acc ++ [i]) []
  Styled.styled Palette.literal lv.name ++
    (ids.filterMap lv.find).flatMap (fun a => Styled.plain " " ++ usageArg a) ++
    (if lv.needsCommand then Styled.plain " <COMMAND>" else [])

/-- The usage block of an error: the plain usage line, or the one naming the options given. -/
def usageBlock (lv : Level) (used : List String) : Styled :=
  Styled.styled Palette.header "Usage:" ++ Styled.plain " " ++
    (if used.isEmpty then usage lv else usageOf lv used)

/-- The key options are listed by: position, then short name or long name. -/
def sortKey (a : Arg) : Nat × String :=
  (a.order,
    match a.short with
    | some c => c.toLower.toString ++ (if c.isLower then "0" else "1")
    | none => a.long)

/-- Whether an option is listed no later than another. -/
def listedBefore (a b : Arg) : Bool :=
  let (o, s) := sortKey a
  let (p, t) := sortKey b
  o < p || (o == p && !decide (t < s))

/-- The values shown after an option's description: its default, and its choices unless long
help lists them one a line. -/
def specValues (a : Arg) (long : Bool) : List String :=
  (match a.value? with
   | some { defaultValue := some d, .. } => ["[default: " ++ d ++ "]"]
   | _ => []) ++
  (if a.choices.isEmpty || (long && a.describesChoices) then []
   else ["[possible values: " ++ ", ".intercalate (a.choices.map (·.1)) ++ "]"])

/-- The described choices of an option, one a line, as long help lists them. -/
def choiceLines (a : Arg) : Styled :=
  let longest := a.choices.foldl (fun m (n, _) => max m n.length) 0
  Styled.plain "Possible values:" ++
    a.choices.flatMap fun (n, h) =>
      Styled.plain ("\n" ++ blanks 10 ++ "- ") ++ Styled.styled Palette.literal n ++
        (if h.isEmpty then []
         else Styled.plain (": " ++ blanks (longest - n.length) ++
           h.replace "\n" ("\n" ++ blanks 12)))

/-- One option's entry in help. -/
def argEntry (a : Arg) (long nextLine : Bool) (longest : Nat) : Styled :=
  let names : Styled :=
    Styled.plain "  " ++
      (match a.short with
       | some c => Styled.styled Palette.literal ("-" ++ c.toString) ++ Styled.plain ", "
       | none => Styled.plain "    ") ++
      usageArg a
  let about := if long then a.longHelp.getD a.help else a.help
  let spec := specValues a long
  let specText := (if long then "\n" else " ").intercalate spec
  let body :=
    if spec.isEmpty then about
    else if about.isEmpty then specText
    else about ++ (if long then "\n\n" else " ") ++ specText
  let indent := if nextLine then 10 else longest + 4
  let body := body.replace "\n" ("\n" ++ blanks indent)
  let lead :=
    if nextLine then "\n" ++ blanks 10 else blanks (longest + 2 - (a.display.length + 4))
  let choices :=
    if long && a.describesChoices then
      (if body.isEmpty then [] else Styled.plain ("\n\n" ++ blanks 10)) ++ choiceLines a
    else []
  names ++ Styled.plain (lead ++ body) ++ choices

/-- The `Options:` section. -/
def optionsSection (args : List Arg) (long : Bool) : Styled :=
  let listed := args.mergeSort listedBefore
  let longest := listed.foldl (fun m a => max m (a.display.length + 4)) 2
  let nextLine := long || listed.any fun a =>
    forcedNextLine longest (a.help.length + (" ".intercalate (specValues a false)).length)
  let sep := if nextLine && long then "\n\n" else "\n"
  joinStyled (Styled.plain sep) (listed.map fun a => argEntry a long nextLine longest)

/-- The `Commands:` section. -/
def commandsSection (commands : List (String × String)) : Styled :=
  let longest := commands.foldl (fun m (n, _) => max m n.length) 2
  let nextLine := commands.any fun (_, about) => forcedNextLine longest about.length
  joinStyled (Styled.plain "\n") (commands.map fun (n, about) =>
    Styled.plain "  " ++ Styled.styled Palette.literal n ++
      Styled.plain ((if nextLine then "\n" ++ blanks 10 else blanks (longest + 2 - n.length)) ++
        about))

/-- The `Arguments:` section for the words a level takes. -/
def wordsSection (words : String) (about : String) : Styled :=
  let longest := max 2 words.length
  Styled.plain ("  " ++ words ++ blanks (longest + 2 - words.length) ++ about)

/-- The help of a level; long help when asked for and it says more. -/
def helpText (lv : Level) (long : Bool) : Styled :=
  let long := long && lv.hasLongHelp
  let heading (title : String) (body : Styled) : Styled :=
    Styled.styled Palette.header (title ++ ":") ++ Styled.plain "\n" ++ body
  let sections :=
    (if lv.commands.isEmpty then [] else [heading "Commands" (commandsSection lv.commands)]) ++
    (match lv.words with
     | some (w, about) => [heading "Arguments" (wordsSection w about)]
     | none => []) ++
    (if lv.args.isEmpty then [] else [heading "Options" (optionsSection lv.args long)])
  let text :=
    Styled.plain (lv.about ++ "\n\n") ++ Styled.styled Palette.header "Usage:" ++
      Styled.plain " " ++ usage lv ++ Styled.plain "\n\n" ++ joinStyled (Styled.plain "\n\n") sections
  text.trimEnd ++ Styled.plain "\n"

end Cadence.Cli
