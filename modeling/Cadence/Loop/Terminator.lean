import Cadence.Loop.Note

/-!
# Terminators

A terminator decides, each time a loop asks, whether the loop is done. It is never met, met
once a deadline has passed, met when a condition says so, or met when a deadline has passed
**and** its condition is met. In the last form the condition is asked only after the deadline
has passed, so a condition with effects or a count of its own is left untouched before then.

Conditions are left abstract: a terminator over `γ` is evaluated with a function that asks one
condition in a world `σ`, and with the world's clock in milliseconds. Each time a deadline is
asked, the world is told how long ago it was set.
-/
namespace Cadence

/-- A deadline: it has passed once `limit` milliseconds went by since `start`. -/
structure Deadline where
  start : Nat
  limit : Nat
  deriving Repr

namespace Deadline

/-- Milliseconds since the deadline was set. -/
def elapsed (d : Deadline) (now : Nat) : Nat := now - d.start

/-- Whether the deadline has passed at `now`. -/
def passed (d : Deadline) (now : Nat) : Bool := decide (d.limit ≤ d.elapsed now)

end Deadline

/-- When a loop is done. -/
inductive Terminator (γ : Type) where
  | never
  | timeout (d : Deadline)
  | timeoutAnd (condition : Terminator γ) (d : Deadline)
  | condition (c : γ)
  deriving Repr

namespace Terminator

variable {γ σ : Type}

/-- Asks a terminator once: conditions are asked with `ask`, deadlines read the clock `now` and
leave a note. -/
def met (ask : γ → σ → Bool × σ) (now : σ → Nat) (note : Note → σ → σ) :
    Terminator γ → σ → Bool × σ
  | .never, s => (false, s)
  | .timeout d, s => (d.passed (now s), note (.deadlineChecked (d.elapsed (now s))) s)
  | .timeoutAnd c d, s =>
    let s' := note (.deadlineChecked (d.elapsed (now s))) s
    if d.passed (now s) then met ask now note c s' else (false, s')
  | .condition g, s => ask g s

end Terminator

end Cadence
