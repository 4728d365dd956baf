import Cadence.Loop.Builder
import Cadence.Cancel.Tokens

/-!
# Scripted scenes

A scene is a world in which loops run against scripts instead of real work: the unit of work
answers a list of steps in order, condition terminators answer a list of booleans, and both may
perform actions that signal tokens. The scene keeps everything a run can change: the tokens,
the clock, a counter per condition, the number of work calls and the hooks fired.

* A step answers a value or a fault after performing its action. Once the steps are used up,
  every call fails with `script exhausted`.
* A probe (a scripted condition) counts its checks. On its `c`-th check it performs the action
  listed for `c`, if any, and answers its `c`-th boolean, or `otherwise` once they are used up.
* A wait on the run's flag that is not cancelled moves the clock on by the interval.
* An action signals the run's own token, every token the group issued, or one token by number.
-/
namespace Cadence.Scenario

/-- The tokens an action signals. -/
inductive Signal where
  /-- The run's own token. -/
  | own
  /-- Every token the group issued. -/
  | everyToken
  /-- Token number `i`. -/
  | token (i : Nat)
  deriving Repr, BEq

/-- Signals performed in order. -/
abbrev Action := List Signal

/-- One scripted answer of a unit of work, with the action performed before it. -/
inductive Step (α : Type) where
  | ok (value : α) (act : Action)
  | fail (fault : Fault) (act : Action)
  deriving Repr

/-- A scripted condition with its counter at position `id`; `acts` pairs a check number with an
action, and every pair of the current check is performed. -/
structure Probe where
  id : Nat
  answers : List Bool
  otherwise : Bool := true
  acts : List (Nat × Action) := []
  deriving Repr

/-- A record of a fired hook: an effect, or a consumer with the value it was given. -/
inductive Fired (α : Type) where
  | effect
  | consumer (value : α)
  deriving Repr

/-- The state of a scripted world. -/
structure Scene (α : Type) where
  tokens : Tokens
  /-- The token a `Signal.own` action signals. -/
  own : Nat
  /-- The token whose flag the running loop uses. -/
  flag : Nat
  clock : Nat := 0
  counters : List Nat := []
  calls : Nat := 0
  fired : List (Fired α) := []

namespace Scene

variable {α : Type}

/-- Performs one signal. -/
def signal (s : Scene α) : Signal → Scene α
  | .own => { s with tokens := s.tokens.signal s.own }
  | .everyToken => { s with tokens := s.tokens.cancelAll }
  | .token i => { s with tokens := s.tokens.signal i }

/-- Performs an action. -/
def perform (s : Scene α) (act : Action) : Scene α := act.foldl signal s

/-- The clock of a scene. -/
def now (s : Scene α) : Nat := s.clock

/-- One check of a probe. -/
def ask (p : Probe) (s : Scene α) : Bool × Scene α :=
  let c := s.counters.getD p.id 0 + 1
  let s := { s with counters := s.counters.set p.id c }
  let s := (p.acts.filter (·.1 == c)).foldl (fun s a => s.perform a.2) s
  (p.answers.getD (c - 1) p.otherwise, s)

/-- One call of a scripted unit of work. -/
def work (steps : List (Step α)) (s : Scene α) : Except Fault α × Scene α :=
  let s' := { s with calls := s.calls + 1 }
  match steps[s.calls]? with
  | some (.ok v act) => (.ok v, s'.perform act)
  | some (.fail e act) => (.error e, s'.perform act)
  | none => (.error (.message "script exhausted"), s')

/-- The run's cancellation flag; a wait that is not cancelled moves the clock on. -/
def runFlag : Flag (Scene α) where
  observe s := let (b, ts) := s.tokens.observe s.flag; (b, { s with tokens := ts })
  suspend d s :=
    let (b, ts) := s.tokens.suspend s.flag
    (b, { s with tokens := ts, clock := if b then s.clock else s.clock + d.toMillis })
  rearm s := { s with tokens := s.tokens.rearm s.flag }

/-- A hook call that records an effect, then performs `act`. -/
def onFinish (act : Action) : Call Probe (Scene α) α :=
  .onFinish fun s => ({ s with fired := s.fired ++ [Fired.effect] }).perform act

/-- A hook call that records a consumer with its value, then performs `act`. -/
def onComplete (act : Action) : Call Probe (Scene α) α :=
  .onComplete fun v s => ({ s with fired := s.fired ++ [Fired.consumer v] }).perform act

end Scene

end Cadence.Scenario
