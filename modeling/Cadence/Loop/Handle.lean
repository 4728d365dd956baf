import Cadence.Loop.Strategy
import Cadence.Loop.Terminator
import Cadence.Loop.Exit

/-!
# Loop handles

A handle is a loop ready to run: its unit of work, its terminator, its strategy, a hook to
fire when it ends, and a failure policy. Running it drives the strategy against a cancellation
flag and turns the stop into a report:

* a failure under the `propagate` policy is returned as the failure itself, and the hook does
  not fire;
* every other stop becomes a report whose value is the last value produced (the default when no
  iteration succeeded), with the number of successful iterations and the ending, and the hook
  fires once, after the loop's last check.
-/
namespace Cadence

/-- What a loop does with a failed unit of work. -/
inductive FailurePolicy where
  /-- End the loop with a `failed` ending and report it. -/
  | contain
  /-- Return the failure to the caller instead of a report. -/
  | propagate
  deriving Repr, BEq, DecidableEq, Inhabited

namespace FailurePolicy

/-- The lower-case name of a policy. -/
def name : FailurePolicy → String
  | .contain => "contain"
  | .propagate => "propagate"

/-- The diagnostic form of a policy. -/
def debugText : FailurePolicy → String
  | .contain => "Contain"
  | .propagate => "Propagate"

end FailurePolicy

/-- What runs when a loop ends: nothing, an action, or an action given the last value. -/
inductive Hook (σ α : Type) where
  | none
  | effect (fire : σ → σ)
  | consumer (fire : α → σ → σ)

namespace Hook

variable {σ α : Type}

/-- Fires a hook with the loop's last value. -/
def fire : Hook σ α → α → σ → σ
  | .none, _, s => s
  | .effect f, _, s => f s
  | .consumer f, v, s => f v s

/-- Whether there is no hook. -/
def isNone : Hook σ α → Bool
  | .none => true
  | _ => false

/-- The diagnostic form of a hook, which shows only its kind. -/
def debugText : Hook σ α → String
  | .none => "None"
  | .effect _ => "Effect"
  | .consumer _ => "Consumer"

end Hook

/-- Access to one cancellation flag in a world `σ`. -/
structure Flag (σ : Type) where
  /-- Read and clear the flag. -/
  observe : σ → Bool × σ
  /-- Wait, or end the wait early, clearing the flag, if it is set: `true` when cancelled. -/
  suspend : Duration → σ → Bool × σ
  /-- Set the flag. -/
  rearm : σ → σ

/-- What a finished loop reports. -/
structure Report (α : Type) where
  value : α
  iterations : Nat
  exit : Exit
  deriving Repr

/-- The ending a stop is reported as. -/
def Stop.toExit : Stop → Exit
  | .terminated => .terminated
  | .cancelled => .cancelled
  | .failed e => .failed e.text

/-- A loop ready to run, with conditions `γ`, world `σ` and values `α`. -/
structure Handle (γ σ α : Type) where
  work : σ → Except Fault α × σ
  terminator : Terminator γ
  iteration : Iteration
  hook : Hook σ α
  policy : FailurePolicy

namespace Handle

variable {γ σ α : Type}

/-- The host a handle's loop runs against: its own terminator and work, the given flag, and
the given way of taking notes. -/
def host (h : Handle γ σ α) (ask : γ → σ → Bool × σ) (now : σ → Nat) (flag : Flag σ)
    (note : Note → σ → σ) : Host σ α where
  met := h.terminator.met ask now note
  observe := flag.observe
  work := h.work
  suspend := flag.suspend
  rearm := flag.rearm
  note := note

/-- What a run answers once its loop has stopped with `o` in world `s`. A contained failure
is noted as an abort, a returned one as such; a report is noted once the hook has fired. -/
def settle (h : Handle γ σ α) (note : Note → σ → σ) (o : Outcome α) (s : σ) :
    Except Fault (Report α) × σ :=
  match o.stop, h.policy with
  | .failed e, .propagate => (.error e, note (.propagating o.iterations) s)
  | stop, _ =>
    let s := match stop with
      | .failed e => note (.aborted o.iterations e) s
      | _ => s
    let s := h.hook.fire o.last s
    (.ok ⟨o.last, o.iterations, stop.toExit⟩, note (.ended stop.toExit o.iterations) s)

/-- Runs a handle against `flag`, within `fuel` iterations, noting its course with `note`. -/
def run [Inhabited α] (h : Handle γ σ α) (ask : γ → σ → Bool × σ) (now : σ → Nat)
    (flag : Flag σ) (note : Note → σ → σ) (fuel : Nat) (s : σ) :
    Option (Except Fault (Report α) × σ) :=
  let s := note (.begin h.iteration) s
  (h.iteration.drive (h.host ask now flag note) fuel s).map fun (o, s) => h.settle note o s

/-- The diagnostic form of a handle: its strategy, hook and policy. -/
def debugText (h : Handle γ σ α) : String :=
  "LoopHandle \x7b iteration: " ++ h.iteration.debugText ++ ", hook: " ++ h.hook.debugText ++
    ", policy: " ++ h.policy.debugText ++ ", .. \x7d"

end Handle

end Cadence
