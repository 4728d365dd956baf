import Cadence.Scenario.Scene

/-!
# Scripted runs

A run builds a loop from a factory and a list of builder calls over a scripted unit of work,
optionally signals its own token just before running it, and runs it against that token, or against a fresh
private token when it is detached. Runs of one scenario follow each other and share the
group's tokens.

A run of `k` scripted steps calls its unit of work at most `k + 1` times, since the call after
the last step fails; `k + 2` iterations therefore always suffice.
-/
namespace Cadence.Scenario

/-- How one run is set up. -/
structure RunSpec (α : Type) where
  steps : List (Step α)
  factory : Factory := .plain
  calls : List (Call Probe (Scene α) α) := []
  /-- The number of probes whose counters the run reports. -/
  probes : Nat := 0
  token : Nat := 0
  presignal : Bool := false
  detached : Bool := false
  /-- Whether the loop is run, or only built. -/
  execute : Bool := true

/-- What one run shows. -/
structure RunResult (α : Type) where
  iteration : Iteration
  policy : FailurePolicy
  debug : String
  /-- The run's answer, or `none` if the loop was only built. -/
  answer : Option (Except Fault (Report α))
  fired : List (Fired α)
  workCalls : Nat
  checks : List Nat
  /-- The flags of the group's first tokens after the run. -/
  flags : List Bool

variable {α : Type}

/-- Runs one spec on the shared tokens; `shown` is the number of tokens whose flags are
reported. Answers the result and the tokens after the run. -/
def RunSpec.run [Inhabited α] (spec : RunSpec α) (tokens : Tokens) (shown : Nat) :
    RunResult α × Tokens :=
  let handle := ((spec.factory.start (Scene.work spec.steps)).applyAll spec.calls).build 0
  let tokens := if spec.execute && spec.presignal then tokens.signal spec.token else tokens
  let (tokens, flag) := if spec.detached then tokens.fresh else (tokens, spec.token)
  let scene : Scene α :=
    { tokens, own := spec.token, flag, counters := List.replicate spec.probes 0 }
  let result (answer : Option (Except Fault (Report α))) (s : Scene α) : RunResult α :=
    { iteration := handle.iteration, policy := handle.policy, debug := handle.debugText,
      answer, fired := s.fired, workCalls := s.calls, checks := s.counters,
      flags := (List.range shown).map s.tokens.isSignalled }
  if spec.execute then
    match handle.run Scene.ask Scene.now Scene.runFlag (fun _ s => s) (spec.steps.length + 2) scene with
    | some (answer, s) => (result (some answer) s, s.tokens)
    | none => (result none scene, scene.tokens)
  else (result none scene, scene.tokens)

/-- Runs specs one after another on `n` group tokens, of which `presignalled` are signalled
first. -/
def runAll [Inhabited α] (n : Nat) (presignalled : List Nat) (specs : List (RunSpec α)) :
    List (RunResult α) :=
  let tokens := presignalled.foldl Tokens.signal (Tokens.ofGroup n)
  (specs.foldl (fun (acc, ts) spec =>
      let (r, ts) := spec.run ts n
      (acc ++ [r], ts)) ([], tokens)).1

/-- Checks a terminator `evals` times in a scene with one group token, which actions signal.
Answers each check's result and the scene afterwards. -/
def checkRepeatedly (t : Terminator Probe) (probes evals : Nat) :
    List Bool × Scene Unit :=
  let scene : Scene Unit :=
    { tokens := Tokens.ofGroup 1, own := 0, flag := 0, counters := List.replicate probes 0 }
  (List.range evals).foldl (fun (acc, s) _ =>
      let (b, s) := t.met Scene.ask Scene.now (fun _ s => s) s
      (acc ++ [b], s)) ([], scene)

end Cadence.Scenario
