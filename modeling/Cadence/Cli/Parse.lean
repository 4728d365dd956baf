import Cadence.Cli.Failure

/-!
# Parsing a command line

The words are read left to right at the top level until a subcommand name, which hands the rest
to that subcommand; a subcommand name is recognised even where an option waits for its value.

* `--` makes every later word a value.
* `--name` names an option by its long name, `--name=value` gives it a value at once; a switch
  takes no value.
* `-abc` gives the switches `a`, `b`, `c` in turn; an option among them takes the rest of the
  word as its value (after an optional `=`), or the next word.
* Any other word is the value of the option waiting for one, and otherwise an error.

An option is given its value only when the next option is met, or at the end: so an option left
without a value is reported then, and an error about a later word wins over it. An option may be
given once. The subcommand is read before the top finishes: its errors come first. With no
subcommand, a command line with no option at all shows the help as an error, and otherwise is
missing its subcommand. The words after `help` name the subcommand whose long help to show.

Counts are read as a 64-bit unsigned number: an optional `+`, then decimal digits, the first
problem from the left deciding the error.
-/
namespace Cadence.Cli

open Text

/-- A value given to an option. -/
inductive Given where
  | flag
  | count (n : Nat)
  | path (s : String)
  | choice (name : String)
  deriving Repr, BEq, Inhabited

/-- An option waiting for its value: the option, the values it has, and whether it was named by
its long name. -/
structure Pending where
  arg : Arg
  values : List String
  long : Bool
  deriving Inhabited

/-- Where the parser is within one level. -/
structure State where
  /-- The ids of the options given, in the order given. -/
  given : List String := []
  /-- The values read, by option id. -/
  values : List (String × Given) := []
  pending : Option Pending := none
  /-- Whether `--` was met: every later word is a value. -/
  trailing : Bool := false
  deriving Inhabited

/-- A parsed command line: the options given at the top, the subcommand, and its options. -/
structure Parsed where
  top : List (String × Given)
  command : String
  options : List (String × Given)
  deriving Repr, Inhabited

/-- Reads a count: an optional `+`, then decimal digits, below 2^64. -/
def countOf (s : String) : Except String Nat :=
  let digits := match s.toList with
    | ['+'] => ['+']
    | '+' :: ds => ds
    | ds => ds
  if s.isEmpty then .error "cannot parse integer from empty string"
  else digits.foldlM (fun n c =>
    if !c.isDigit then .error "invalid digit found in string"
    else
      let m := n * 10 + (c.toNat - '0'.toNat)
      if m < Nat.pow 2 64 then .ok m else .error "number too large to fit in target type") 0

/-- Reads the value of an option by its kind. -/
def readValue (lv : Level) (a : Arg) (v : ValueSpec) (s : String) : Except Failure Given :=
  match v.kind with
  | .count =>
    match countOf s with
    | .ok n => .ok (.count n)
    | .error why => .error (invalidValue lv a s why)
  | .path => if s.isEmpty then .error (badValue lv a s) else .ok (.path s)
  | .choice cs => if cs.any (·.1 == s) then .ok (.choice s) else .error (badValue lv a s)

/-- Gives an option its values. Help and version end the parse; an option given before is
dropped and reported; a value that does not read is reported after its option counts as given.
Answers the state and the failure, if any. -/
def apply (lv : Level) (st : State) (a : Arg) (values : List String) (long : Bool) :
    State × Option Failure :=
  let dropped : State :=
    { st with given := st.given.filter (· != a.id), values := st.values.filter (·.1 != a.id) }
  match a.action with
  | .help => (st, some (helpRequest lv long))
  | .version => (st, some (versionRequest lv))
  | .flag =>
    if st.given.contains a.id then (dropped, some (givenTwice lv a))
    else ({ st with given := st.given ++ [a.id], values := st.values ++ [(a.id, .flag)] }, none)
  | .value v =>
    match values with
    | [] => (st, some (badValue lv a ""))
    | s :: _ =>
      if st.given.contains a.id then (dropped, some (givenTwice lv a))
      else
        let started := { st with given := st.given ++ [a.id] }
        match readValue lv a v s with
        | .ok g => ({ started with values := st.values ++ [(a.id, g)] }, none)
        | .error f => (started, some f)

/-- Gives the waiting option its values. -/
def resolve (lv : Level) (st : State) : State × Option Failure :=
  match st.pending with
  | none => (st, none)
  | some p => apply lv { st with pending := none } p.arg p.values p.long

/-- The state after a step, or its failure. -/
def strict : State × Option Failure → Except Failure State
  | (_, some f) => .error f
  | (st, none) => .ok st

/-- Gives an option its values, after the waiting option has its own. -/
def react (lv : Level) (st : State) (a : Arg) (values : List String) (long : Bool) :
    State × Option Failure :=
  match resolve lv st with
  | (st, some f) => (st, some f)
  | (st, none) => apply lv st a values long

/-- Makes an option wait for its value. -/
def await (lv : Level) (st : State) (a : Arg) (long : Bool) : Except Failure State := do
  let st ← strict (resolve lv st)
  pure { st with pending := some ⟨a, [], long⟩ }

/-- The failure for an unknown long option: the long name here most like it, or else one of a
subcommand named later on the line. -/
def unknownLong (lv : Level) (subs : List Level) (st : State) (name : String)
    (rest : List String) : Failure :=
  let longs (l : Level) : List String := l.args.map (·.long)
  match (similarWords name (longs lv)).getLast? with
  | some w =>
    let used := match lv.findLong w with
      | some a => if st.given.contains a.id then st.given else st.given ++ [a.id]
      | none => st.given
    unknownArgument lv ("--" ++ name) (some ("argument", ["--" ++ w])) [] used
  | none =>
    let found := subs.filterMap fun l =>
      match (similarWords name (longs l)).getLast?, l.path.getLast? with
      | some w, some n => (rest.idxOf? n).map fun i => (i, n, w)
      | _, _ => none
    let best := found.foldl (fun acc x =>
      match acc with
      | some y => if x.1 < y.1 then some x else some y
      | none => some x) none
    match best with
    | some (_, n, w) =>
      unknownArgument lv ("--" ++ name) none
        [Styled.plain "'" ++ Styled.styled Palette.valid (n ++ " --" ++ w) ++
          Styled.plain "' exists"] st.given
    | none => unknownArgument lv ("--" ++ name) none [] st.given

/-- Reads a word `--name` or `--name=value`. -/
def longWord (lv : Level) (subs : List Level) (st : State) (word : String)
    (rest : List String) : Except Failure State :=
  let body := (word.drop 2).toString
  let name := (body.takeWhile (· != '=')).toString
  let attached : Option String :=
    if body.contains '=' then some ((body.dropWhile (· != '=')).drop 1).toString else none
  match lv.findLong name with
  | some a =>
    match a.action, attached with
    | .value _, some v => strict (react lv st a [v] true)
    | .value _, none => await lv st a true
    | _, some v => .error (unexpectedValue lv a v (st.given ++ [a.id]))
    | _, none => strict (react lv st a [] true)
  | none => .error (unknownLong lv subs (resolve lv st).1 name rest)

/-- Reads the letters of a word `-abc`. -/
def shortWord (lv : Level) : State → List Char → Except Failure State
  | st, [] => .ok st
  | st, c :: rest =>
    match lv.findShort c with
    | none => .error (unknownArgument lv ("-" ++ c.toString) none [] [])
    | some a =>
      match a.action with
      | .value _ =>
        match rest with
        | [] => await lv st a false
        | '=' :: more => strict (react lv st a [String.ofList more] false)
        | _ => strict (react lv st a [String.ofList rest] false)
      | _ => do
        let st ← strict (react lv st a [] false)
        shortWord lv st rest

/-- How the words of a level ended: all read, or at a subcommand with the words after it. -/
inductive Outcome where
  | done (st : State)
  | command (st : State) (name : String) (rest : List String)
  deriving Inhabited

/-- A word that is neither an option nor a value. -/
def strayWord (lv : Level) (st : State) (w : String) : Failure :=
  let names := lv.commands.map (·.1)
  if names.isEmpty then unknownArgument lv w none [] []
  else if st.trailing && names.contains w then commandAfterEscape lv w
  else unknownSubcommand lv w (similarWords w names)

/-- Whether a word reads as an option, or as the `--` that ends them, where options may
still come. -/
def optionWord (st : State) (w : String) : Bool :=
  !st.trailing && (w.startsWith "--" || (w.startsWith "-" && w.length > 1))

/-- Reads the words of a level. A word that is not an option goes to an option still waiting
for its value before anything else, even when it names a subcommand. -/
def parseWords (lv : Level) (subs : List Level) : State → List String → Except Failure Outcome
  | st, [] => .ok (.done st)
  | st, w :: rest =>
    let waiting := match st.pending with
      | some p => p.values.isEmpty
      | none => false
    if waiting && !optionWord st w then
      parseWords lv subs { st with pending := st.pending.map fun p => { p with values := [w] } } rest
    else if !st.trailing && lv.commands.any (·.1 == w) then .ok (.command st w rest)
    else if !st.trailing && w == "--" then parseWords lv subs { st with trailing := true } rest
    else if !st.trailing && w.startsWith "--" then do
      let st ← longWord lv subs st w rest
      parseWords lv subs st rest
    else if !st.trailing && w.startsWith "-" && w.length > 1 then do
      let st ← shortWord lv st (w.toList.drop 1)
      parseWords lv subs st rest
    else
      match st.pending with
      | some p =>
        if p.values.isEmpty then
          parseWords lv subs { st with pending := some { p with values := [w] } } rest
        else .error (strayWord lv (resolve lv st).1 w)
      | none => .error (strayWord lv st w)

/-- The long help of the subcommand the words after `help` name. -/
def helpFor (p : Program) (names : List String) : Failure :=
  let rec walk (lv : Level) (top : Bool) : List String → Failure
    | [] => helpRequest lv true
    | n :: rest =>
      match (if top && lv.commands.any (·.1 == n) then p.levelOf? n else none) with
      | some sub => walk sub false rest
      | none => unknownSubcommand lv n []
  walk p.top true names

/-- Parses the words of a command line. -/
def parse (p : Program) (words : List String) : Except Failure Parsed := do
  let top := p.top
  let subs := p.commands.map p.level ++ [p.helpLevel]
  match ← parseWords top subs {} words with
  | .command st name rest =>
    if name == "help" then .error (helpFor p rest)
    else
      match p.commands.find? (·.name == name) with
      | none => .error (unknownSubcommand top name [])
      | some c =>
        let lv := p.level c
        let inner ← match ← parseWords lv [] {} rest with
          | .done st => pure st
          | .command st _ _ => pure st
        let inner ← strict (resolve lv inner)
        let st ← strict (resolve top st)
        pure { top := st.values, command := name, options := inner.values }
  | .done st =>
    let st ← strict (resolve top st)
    if st.given.isEmpty then .error (nothingGiven top) else .error (missingCommand top)

end Cadence.Cli
