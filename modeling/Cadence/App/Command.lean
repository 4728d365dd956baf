import Cadence.Cli.Parse

/-!
# The program's command line

`loopkit [-c CONFIG] [-v] <COMMAND>`, where the command is

* `run`: one counter loop, with a strategy (`throttled` unless named), an optional timeout, an
  optional count to stop at, an optional interval, an optional time to cancel it after, an
  optional call to fail on, whether a failure ends the program, and whether the report is JSON;
* `group`: one counter per strategy, cancelled together after a time (2500 ms unless given),
  with an interval for the throttled ones (500 ms) and a count the busy one stops at (10).

The configuration path and verbosity are accepted at the top and after the subcommand alike;
given after the subcommand, the path wins, and verbosity holds if given anywhere.
-/
namespace Cadence.App

open Cli

/-- How a `run` counter loop iterates. -/
inductive Strategy where
  | busy
  | throttled
  | reinterrupt
  deriving Repr, BEq, Inhabited

/-- The name of a strategy in messages. -/
def Strategy.debugText : Strategy → String
  | .busy => "Busy"
  | .throttled => "Throttled"
  | .reinterrupt => "Reinterrupt"

/-- What `run` was asked to do. -/
structure RunOptions where
  strategy : Strategy := .throttled
  timeoutMs : Option Nat := none
  stopAt : Option Nat := none
  intervalMs : Option Nat := none
  cancelAfterMs : Option Nat := none
  failOn : Option Nat := none
  propagate : Bool := false
  json : Bool := false
  deriving Repr, BEq, Inhabited

/-- What `group` was asked to do. -/
structure GroupOptions where
  afterMs : Nat := 2500
  intervalMs : Nat := 500
  threshold : Nat := 10
  deriving Repr, BEq, Inhabited

/-- The subcommand asked for. -/
inductive Request where
  | run (o : RunOptions)
  | group (o : GroupOptions)
  deriving Repr, BEq, Inhabited

/-- A command line that runs the program. -/
structure Invocation where
  config : Option String
  verbose : Bool
  request : Request
  deriving Repr, BEq, Inhabited

/-- An option taking a count. -/
def countArg (id : String) (short : Option Char) (help : String) (order : Nat)
    (defaultValue : Option String) : Arg :=
  { id, short, long := id.map (fun c => if c == '_' then '-' else c), help, order,
    action := .value { placeholder := id.toUpper, kind := .count, defaultValue } }

/-- A switch. -/
def flagArg (id : String) (short : Option Char) (help : String) (order : Nat) : Arg :=
  { id, short, long := id, help, order, action := .flag }

/-- The choices of `--strategy`. -/
def strategyChoices : List (String × String) :=
  [("busy", "No delay, cancellation polled each iteration"),
   ("throttled", "Fixed delay, cancellation ends the delay"),
   ("reinterrupt", "Fixed delay, cancellation re-armed and seen by the loop condition")]

/-- The `--strategy` option of `run`. -/
def strategyArg : Arg :=
  { id := "strategy", short := some 's', long := "strategy", help := "Iteration strategy",
    order := 0,
    action := .value ⟨"STRATEGY", .choice strategyChoices, some "throttled"⟩ }

/-- The program's command line. -/
def program : Program where
  name := "loopkit"
  version := "0.1.0"
  about := "Loop decorators that repeat a unit of work until a predicate, a deadline, or cooperative cancellation ends it"
  args :=
    [{ id := "config", short := some 'c', long := "config", help := "Optional config file path",
       action := .value { placeholder := "CONFIG", kind := .path }, global := true, order := 0 },
     { flagArg "verbose" (some 'v') "Verbose output" 1 with global := true }]
  commands :=
    [{ name := "run", about := "Run a counter loop until it terminates, fails, or is cancelled",
       args :=
        [strategyArg,
         countArg "timeout_ms" (some 't') "Stop after this many milliseconds" 1 none,
         countArg "until" (some 'u') "Stop once the counter reaches this value" 2 none,
         countArg "interval_ms" (some 'i') "Delay between iterations (throttled strategies)" 3 none,
         countArg "cancel_after_ms" none "Cancel the loop after this many milliseconds" 4 none,
         countArg "fail_on" none "Make the unit of work fail on this call" 5 none,
         flagArg "propagate" none "Return the failure instead of containing it" 6,
         flagArg "json" none "Print the report as JSON" 7] },
     { name := "group",
       about := "Run one counter per strategy and cancel them all from a canceller loop",
       args :=
        [countArg "after_ms" (some 'a') "When the canceller fires, in milliseconds" 0 (some "2500"),
         countArg "interval_ms" (some 'i') "Delay between iterations for the throttled counters" 1
           (some "500"),
         countArg "threshold" (some 'n') "Busy counter stops on its own at this value" 2
           (some "10")] }]

/-- The count given to an option. -/
def countGiven (values : List (String × Given)) (id : String) : Option Nat :=
  match values.lookup id with
  | some (.count n) => some n
  | _ => none

/-- Whether a switch was given. -/
def flagGiven (values : List (String × Given)) (id : String) : Bool :=
  values.lookup id == some .flag

/-- The path given to an option. -/
def pathGiven (values : List (String × Given)) (id : String) : Option String :=
  match values.lookup id with
  | some (.path p) => some p
  | _ => none

/-- The strategy named, `throttled` when none was. -/
def strategyGiven (values : List (String × Given)) : Strategy :=
  match values.lookup "strategy" with
  | some (.choice "busy") => .busy
  | some (.choice "reinterrupt") => .reinterrupt
  | _ => .throttled

/-- The invocation a parsed command line stands for. -/
def Invocation.ofParsed (p : Parsed) : Invocation :=
  let o := p.options
  { config := (pathGiven o "config").orElse fun _ => pathGiven p.top "config",
    verbose := flagGiven p.top "verbose" || flagGiven o "verbose",
    request :=
      if p.command == "group" then
        .group { afterMs := (countGiven o "after_ms").getD 2500,
                 intervalMs := (countGiven o "interval_ms").getD 500,
                 threshold := (countGiven o "threshold").getD 10 }
      else
        .run { strategy := strategyGiven o, timeoutMs := countGiven o "timeout_ms",
               stopAt := countGiven o "until", intervalMs := countGiven o "interval_ms",
               cancelAfterMs := countGiven o "cancel_after_ms", failOn := countGiven o "fail_on",
               propagate := flagGiven o "propagate", json := flagGiven o "json" } }

/-- Reads the words after the program's name. -/
def invocationOf (words : List String) : Except Failure Invocation :=
  (parse program words).map Invocation.ofParsed

end Cadence.App
