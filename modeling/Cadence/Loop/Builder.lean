import Cadence.Loop.Handle
import Cadence.Config.Basic

/-!
# Building a loop

A builder collects the parts of a loop one call at a time; each call sets one part and a later
call of the same kind wins. `build` then resolves them:

* the terminator is the one given by `terminator`, else the `until` condition, the `timeout`
  deadline, or both, where both means the deadline **and** the condition, with the condition
  asked only once the deadline has passed; with neither the loop is never done by itself;
* the strategy is the last pacing call's, and a throttled pacing that names no interval takes
  the builder's default interval, which is 1000 ms or that of the last configuration applied,
  whenever it was applied;
* the policy is that of the last `failurePolicy` call or configuration, `contain` if none;
* the hook is that of the last `onFinish` or `onComplete` call.

The deadline's clock starts when the loop is built.
-/
namespace Cadence

/-- A pacing call, with the interval it names, if any. -/
inductive Mode where
  | busy
  | throttled (interval : Option Duration)
  | reinterrupt (interval : Option Duration)
  deriving Repr

/-- The parts of a loop collected so far. -/
structure Builder (γ σ α : Type) where
  work : σ → Except Fault α × σ
  condition : Option (Terminator γ) := none
  deadline : Option Duration := none
  terminator : Option (Terminator γ) := none
  mode : Mode := .busy
  hook : Hook σ α := .none
  policy : FailurePolicy := .contain
  defaultInterval : Duration := Duration.ofMillis 1000

/-- One builder call. -/
inductive Call (γ σ α : Type) where
  | until (t : Terminator γ)
  | timeout (limit : Duration)
  | terminator (t : Terminator γ)
  | busy
  | throttled
  | throttledAt (interval : Duration)
  | reinterrupt
  | reinterruptAt (interval : Duration)
  | onFinish (fire : σ → σ)
  | onComplete (fire : α → σ → σ)
  | failurePolicy (p : FailurePolicy)
  | withConfig (c : Config)

/-- How a builder is started: plainly, or already set to a pacing. -/
inductive Factory where
  | plain
  | hyper
  | sleepy
  | sleepyAt (interval : Duration)
  | sleepyReinterruptAt (interval : Duration)
  deriving Repr

namespace Builder

variable {γ σ α : Type}

/-- Applies one call. -/
def apply (b : Builder γ σ α) : Call γ σ α → Builder γ σ α
  | .until t => { b with condition := some t }
  | .timeout d => { b with deadline := some d }
  | .terminator t => { b with terminator := some t }
  | .busy => { b with mode := .busy }
  | .throttled => { b with mode := .throttled none }
  | .throttledAt d => { b with mode := .throttled (some d) }
  | .reinterrupt => { b with mode := .reinterrupt none }
  | .reinterruptAt d => { b with mode := .reinterrupt (some d) }
  | .onFinish f => { b with hook := .effect f }
  | .onComplete f => { b with hook := .consumer f }
  | .failurePolicy p => { b with policy := p }
  | .withConfig c => { b with defaultInterval := c.defaultInterval, policy := c.failurePolicy }

/-- Applies calls in order. -/
def applyAll (b : Builder γ σ α) (calls : List (Call γ σ α)) : Builder γ σ α :=
  calls.foldl apply b

/-- The terminator the collected parts resolve to, with a deadline set at `now`. -/
def resolveTerminator (b : Builder γ σ α) (now : Nat) : Terminator γ :=
  match b.terminator, b.condition, b.deadline with
  | some t, _, _ => t
  | none, none, none => .never
  | none, some c, none => c
  | none, none, some d => .timeout ⟨now, d.toMillis⟩
  | none, some c, some d => .timeoutAnd c ⟨now, d.toMillis⟩

/-- The strategy the collected pacing resolves to. -/
def resolveIteration (b : Builder γ σ α) : Iteration :=
  match b.mode with
  | .busy => .busy
  | .throttled d => .throttled (d.getD b.defaultInterval)
  | .reinterrupt d => .reinterrupt (d.getD b.defaultInterval)

/-- Builds the loop at clock time `now`. -/
def build (b : Builder γ σ α) (now : Nat) : Handle γ σ α where
  work := b.work
  terminator := b.resolveTerminator now
  iteration := b.resolveIteration
  hook := b.hook
  policy := b.policy

end Builder

/-- The builder a factory starts with for a unit of work. -/
def Factory.start {γ σ α : Type} (f : Factory) (work : σ → Except Fault α × σ) :
    Builder γ σ α :=
  let b : Builder γ σ α := { work }
  match f with
  | .plain => b
  | .hyper => b.apply .busy
  | .sleepy => b.apply .throttled
  | .sleepyAt d => b.apply (.throttledAt d)
  | .sleepyReinterruptAt d => b.apply (.reinterruptAt d)

end Cadence
