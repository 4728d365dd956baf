import Cadence.App.Command
import Cadence.App.World
import Cadence.App.Trouble
import Cadence.Config.Load
import Cadence.Json.Write

/-!
# The program

`loopkit` reads its command line, loads its configuration (the path given, else the first
configuration file found that loads, else the defaults), sets up its log file below the data
directory, and runs the command:

* `run` builds one counter loop from the configuration and the options, with a canceller that
  signals the loop's token when the cancel deadline comes or Ctrl-C is pressed, whichever is
  first, and prints the loop's report as a line or as JSON;
* `group` runs a busy, a throttled and a reinterrupt counter on tokens of one group, and a
  throttled canceller on a token of its own whose end cancels the whole group; it prints the
  four reports in that order.

A command line that asks for help or the version prints it and ends with status 0; a wrong one
prints the error and ends with status 2. A failure to load the configuration, to set up the
log, or of a unit of work under the `propagate` policy is printed as an error chain and ends
with status 1.

The program runs on a virtual clock (see `World`): everything it does takes no time but the
waits of its loops. The group's canceller is run first; the time it ends is when the other
loops' tokens are signalled.

Loops are bounded: a loop is given as many iterations as the first count, failure, deadline or
signal that must end it needs, and a loop that none of them can end is stopped after a million
iterations as running past its bound.
-/
namespace Cadence.App

open Log

/-- What the program sees of the machine it runs on. -/
structure Machine where
  args : List String
  files : Files.Tree
  places : Config.Places
  /-- The directory for the program's data; the log goes below it. -/
  dataDir : Files.Path
  /-- Whether output is coloured. -/
  color : Bool := false
  /-- When Ctrl-C is pressed, in milliseconds after the start. -/
  interruptAfter : Option Nat := none
  deriving Inhabited

/-- What the program did: its exit status, its output, and its log. -/
structure Transcript where
  status : Nat
  stdout : String := ""
  stderr : String := ""
  /-- The log records, in the order written. -/
  log : List Record := []
  deriving Inhabited

/-- The program's output and log while it runs. -/
structure Output where
  stdout : String := ""
  stderr : String := ""
  filter : Filter
  /-- The records written, oldest first. -/
  records : List Record := []
  deriving Inhabited

namespace Output

/-- Writes an `info` record of the program's own at `time`, if the filter admits it. -/
def infoAt (o : Output) (message : String) (time : Nat) : Output :=
  if o.filter.admits .info "loopkit" message then
    { o with records := o.records ++ [⟨.info, "loopkit", message, time⟩] }
  else o

/-- Writes an `info` record of the program's own at the start. -/
def info (o : Output) (message : String) : Output := o.infoAt message 0

/-- Prints a line. -/
def print (o : Output) (line : String) : Output := { o with stdout := o.stdout ++ line ++ "\n" }

/-- Adds records a loop wrote. -/
def absorb (o : Output) (records : List Record) : Output := { o with records := o.records ++ records }

/-- The transcript of a run that ends with `status`. -/
def finish (o : Output) (status : Nat) : Transcript :=
  { status, stdout := o.stdout, stderr := o.stderr, log := interleave o.records }

end Output

/-- Text in a colour, when output is coloured. -/
def paint (color : Bool) (c : Text.Color) (s : String) : String :=
  let st := Text.Style.colored c
  if color then st.start ++ s ++ st.reset else s

/-- The colour a loop's ending is printed in. -/
def Exit.color : Exit → Text.Color
  | .terminated => .green
  | .cancelled => .yellow
  | .failed _ => .red

/-- The line a loop's report is printed as. -/
def reportLine (color : Bool) (name : String) (r : Report Nat) (elapsedMs : Nat) : String :=
  paint color .cyan (padRight name 12) ++ " " ++ paint color (Exit.color r.exit) r.exit.describe ++
    " value=" ++ toString r.value ++ " iterations=" ++ toString r.iterations ++
    " elapsed=" ++ toString elapsedMs ++ "ms"

/-- The JSON form of a loop's report. -/
def reportJson (r : Report Nat) (elapsedMs : Nat) : Json :=
  .object [("value", .nat r.value), ("iterations", .nat r.iterations), ("exit", r.exit.toJson),
    ("elapsed_ms", .nat elapsedMs)]

/-- The most iterations a loop is given. -/
def iterationCap : Nat := 1000000

/-- A bound on the iterations of a paced loop with waits of `interval` nanoseconds that ends
by `limitMs` milliseconds. -/
def pacedBound (interval : Nat) (limitMs : Option Nat) : Option Nat :=
  if interval == 0 then none else limitMs.map fun l => l * nanosPerMilli / interval + 3

/-- The smallest of some bounds, or the cap when there is none. -/
def boundOf (bounds : List (Option Nat)) : Nat :=
  match bounds.filterMap id with
  | [] => iterationCap
  | b :: bs => bs.foldl min b

/-- The failure of a loop that ran past its bound. -/
def pastBound (fuel : Nat) : Trouble :=
  { context := "Application failed",
    causes := ["the loop ran past its bound of " ++ toString fuel ++ " iterations"] }

/-- The failure of a unit of work under the `propagate` policy. -/
def workFailed (f : Fault) : Trouble :=
  { context := "Application failed", causes := [(LoopError.work f).message, f.text] }

/-- Whole milliseconds of a span of nanoseconds. -/
def millisOf (nanos : Nat) : Nat := nanos / nanosPerMilli

/-- The pacing call for a strategy and an optional interval. -/
def pacing (s : Strategy) (intervalMs : Option Nat) : Call Nat World Nat :=
  match s, intervalMs with
  | .busy, _ => .busy
  | .throttled, some i => .throttledAt (Duration.ofMillis i)
  | .throttled, none => .throttled
  | .reinterrupt, some i => .reinterruptAt (Duration.ofMillis i)
  | .reinterrupt, none => .reinterrupt

/-- The builder calls of a `run` counter loop: the configuration first, then the pacing, the
count to stop at, the timeout and the policy, each if asked for. -/
def runCalls (cfg : Config) (opts : RunOptions) : List (Call Nat World Nat) :=
  [.withConfig cfg, pacing opts.strategy opts.intervalMs] ++
    (opts.stopAt.map fun n => [Call.until (.condition n)]).getD [] ++
    (opts.timeoutMs.map fun t => [Call.timeout (Duration.ofMillis t)]).getD [] ++
    (if opts.propagate then [.failurePolicy .propagate] else [])

/-- The counter loop of `run`, built at the start of the clock. -/
def runHandle (cfg : Config) (opts : RunOptions) : CounterLoop :=
  ((Factory.plain.start World.count).applyAll (runCalls cfg opts)).build 0

/-- The iterations a `run` loop with waits of `interval` nanoseconds is given: enough for the
first of its count, its failing call, its deadline and a cancellation due by `cancelMs` that
must end it. -/
def runBound (opts : RunOptions) (interval : Nat) (cancelMs : Option Nat) : Nat :=
  let deadline := pacedBound interval opts.timeoutMs
  boundOf
    -- with a deadline too, the count is only asked once the deadline has passed
    [match opts.stopAt, opts.timeoutMs with
      | some n, none => some (n + 2)
      | some n, some _ => deadline.map (max (n + 2))
      | none, _ => deadline,
     -- no call is numbered zero
     opts.failOn.bind fun f => if f = 0 then none else some (f + 1),
     pacedBound interval cancelMs]

/-- When the canceller of `run` signals the loop, in nanoseconds, and what it logs: at the
cancel deadline or when Ctrl-C is pressed, whichever is first. The deadline's timer fires a
moment after its time, so a wait that ends at the same time ends first; Ctrl-C is timed from the
program's start, before the loop's, so it comes a moment before. -/
def cancelPlan (deadline interrupt : Option Nat) : Option (Nat × String) :=
  let byDeadline := deadline.map fun t => (t * nanosPerMilli + 1, "Cancel deadline reached")
  let byInterrupt := interrupt.map fun t =>
    (t * nanosPerMilli - 1, "Ctrl-C received, cancelling loop")
  match byDeadline, byInterrupt with
  | some d, some i => if i.1 ≤ d.1 then some i else some d
  | some d, none => some d
  | none, i => i

/-- The output after a loop's report: the report printed, or the failure it ended with. -/
def reported (o : Output) (fuel : Nat) (fin : Finish) (present : Report Nat → Nat → String) :
    Output × Option Trouble :=
  match fin.answer with
  | none => (o, some (pastBound fuel))
  | some (.error f) => (o, some (workFailed f))
  | some (.ok r) => (o.print (present r (millisOf fin.elapsed)), none)

/-- The `run` command: its output, and the failure it ended with, if any. -/
def runCommand (m : Machine) (cfg : Config) (opts : RunOptions) (o : Output) :
    Output × Option Trouble :=
  let o := o.info ("Running " ++ opts.strategy.debugText ++ " counter loop")
  let handle := runHandle cfg opts
  let plan := cancelPlan opts.cancelAfterMs m.interruptAfter
  let interval := (handle.iteration.interval?.map Duration.toNanos).getD 0
  let fuel := runBound opts interval (plan.map (·.1 / nanosPerMilli + 1))
  let world : World :=
    { filter := o.filter, failOn := opts.failOn, due := plan.map (·.1) }
  let (fin, w) := runCounter handle fuel world
  let o := o.absorb w.records
  let o := match plan with
    | some (due, message) =>
      if due ≤ w.clock then o.infoAt message (due / nanosPerMilli) else o
    | none => o
  reported o fuel fin fun r ms =>
    if opts.json then Json.pretty (reportJson r ms) else reportLine m.color "counter" r ms

/-- The effect of the group's canceller ending: it logs, and cancels the `n` loops of the
group. -/
def cancelGroup (n : Nat) (w : World) : World :=
  let w := w.write .info "loopkit" "Canceller finished, stopping every counter"
  let w := w.write .info "loopkit::cancel" ("Cancelling " ++ toString n ++ " loop(s)")
  { w with finishedAt := some w.clock }

/-- The `group` command: its output, and the failure it ended with, if any. -/
def groupCommand (m : Machine) (opts : GroupOptions) (o : Output) : Output × Option Trouble :=
  let o := o.info ("Running group demo, cancelling after " ++ toString opts.afterMs ++ "ms")
  let o := o.print (paint m.color .cyan "Starting one counter per strategy...")
  let interval := Duration.ofMillis opts.intervalMs
  let horizon := interval.scale 20
  let half := interval.divide 2
  let loop (f : Factory) (calls : List (Call Nat World Nat)) : CounterLoop :=
    ((f.start World.count).applyAll calls).build 0
  let members : List (String × CounterLoop × Nat) :=
    [("busy", loop .hyper [.until (.condition opts.threshold)], opts.threshold + 2),
     ("throttled", loop (.sleepyAt interval) [.timeout horizon],
       boundOf [pacedBound interval.toNanos (some horizon.toMillis)]),
     ("reinterrupt", loop (.sleepyReinterruptAt interval) [.timeout horizon],
       boundOf [pacedBound interval.toNanos (some horizon.toMillis)])]
  let cancellerFuel := boundOf [pacedBound half.toNanos (some opts.afterMs)]
  let canceller := loop (.sleepyAt half)
    [.timeout (Duration.ofMillis opts.afterMs), .onFinish (cancelGroup members.length)]
  let (cancelled, cw) := runCounter canceller cancellerFuel { filter := o.filter }
  let runs := members.map fun (name, h, fuel) =>
    -- the signal comes a moment after the canceller's end
    let (fin, w) := runCounter h (min fuel iterationCap)
      { filter := o.filter, due := cw.finishedAt.map (· + 1) }
    (name, fin, fuel, w.records)
  let all := runs ++ [("canceller", cancelled, cancellerFuel, cw.records)]
  let o := o.absorb (all.flatMap fun (_, _, _, rs) => rs)
  all.foldl (fun (o, trouble) (name, fin, fuel, _) =>
    match trouble with
    | some t => (o, some t)
    | none => reported o fuel fin (reportLine m.color name)) (o, none)

/-- Creates the log directory and opens the log file; answers the log file's path. -/
def setupLogging (m : Machine) : Except Trouble Files.Path := do
  let logDir := m.dataDir ++ ["loopkit", "logs"]
  let fail (step : String) (e : IoError) : Trouble :=
    { context := "Failed to setup logging", causes := [step, e.message] }
  let tree ← match m.files.makeDirectories logDir with
    | .ok t => pure t
    | .error e => throw (fail "Failed to create log directory" e)
  let logFile := logDir ++ ["loopkit.log"]
  match tree.openToAppend logFile with
  | .ok _ => pure logFile
  | .error e => throw (fail "Failed to open log file" e)

/-- How the configuration path is shown: `None`, or `Some("path")`. -/
def showPath : Option String → String
  | some p => "Some(" ++ Text.quoted p ++ ")"
  | none => "None"

/-- The program on a machine, once its command line has been read as `inv`: it loads its
configuration, sets up its log, and runs the command. -/
def invoke (m : Machine) (inv : Invocation) : Transcript :=
  match Config.load m.files m.places inv.config with
  | .error e =>
    { status := 1,
      stderr := Trouble.render
        { context := "Failed to load configuration", causes := e.message :: e.cause?.toList } }
  | .ok cfg =>
    match setupLogging m with
    | .error t => { status := 1, stderr := t.render }
    | .ok logFile =>
      let (filter, warnings) := Filter.parse cfg.logFilter
      let o : Output := { filter, stderr := String.join warnings }
      let o := o.info ("Logging initialized, writing to: " ++ Files.display logFile)
      let o := o.info ("Starting with config from: " ++ showPath inv.config)
      let o := o.info "Starting application"
      let o := if inv.verbose then o.print (paint m.color .yellow "Verbose mode enabled") else o
      let (o, trouble) := match inv.request with
        | .run opts => runCommand m cfg opts o
        | .group opts => groupCommand m opts o
      match trouble with
      | none => o.finish 0
      | some t => { o with stderr := o.stderr ++ t.render }.finish 1

/-- The whole program on a machine. -/
def execute (m : Machine) : Transcript :=
  match invocationOf m.args with
  | .error f =>
    let text := f.text.render m.color
    if f.kind.isRequest then { status := f.status, stdout := text }
    else { status := f.status, stderr := text }
  | .ok inv => invoke m inv

end Cadence.App
