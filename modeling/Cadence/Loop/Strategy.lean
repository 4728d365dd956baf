import Cadence.Loop.Iteration
import Cadence.Loop.Note
import Cadence.Fault

/-!
# Running a loop under a strategy

A loop repeats a unit of work and keeps the last value it produced and the number of successful
iterations. Between iterations it asks its terminator and its cancellation flag, in an order
that each strategy fixes:

* `busy`: ask the terminator (met: terminated), observe the flag (set: cancelled), then work
  (failure: failed) and repeat.
* `throttled`: ask the terminator (met: terminated), work (failure: failed), then wait the
  interval on the flag (cancelled: cancelled) and repeat. The flag is only seen by the wait, so
  a loop whose flag is already set still runs one iteration.
* `reinterrupt`: as `busy`, but after each successful iteration wait the interval on the flag;
  a cancelled wait raises the flag again, and the next observation ends the loop unless the
  terminator is met first.

The world the loop runs in is abstract: a `Host` gives the terminator, the unit of work and
the flag as functions on a state `σ`, and takes the loop's notes. Every run is bounded by `fuel` iterations and answers
`none` if that is not enough; the callers here give a bound that their work cannot exceed.
-/
namespace Cadence

/-- What a loop needs from its world. -/
structure Host (σ α : Type) where
  /-- Ask the terminator. -/
  met : σ → Bool × σ
  /-- Read and clear the cancellation flag. -/
  observe : σ → Bool × σ
  /-- Run the unit of work once. -/
  work : σ → Except Fault α × σ
  /-- Wait the interval, or end the wait early, clearing the flag, if it is set: `true` when
  the wait was cancelled. -/
  suspend : Duration → σ → Bool × σ
  /-- Set the cancellation flag again. -/
  rearm : σ → σ
  /-- Take a note of what the loop is doing. -/
  note : Note → σ → σ

/-- Why a loop stopped. -/
inductive Stop where
  | terminated
  | cancelled
  | failed (fault : Fault)
  deriving Repr, BEq, Inhabited

/-- What a loop has produced so far. -/
structure Progress (α : Type) where
  last : α
  iterations : Nat
  deriving Repr

/-- A finished loop: the last value, the number of successful iterations, and why it stopped. -/
structure Outcome (α : Type) where
  last : α
  iterations : Nat
  stop : Stop
  deriving Repr

namespace Progress

variable {α : Type}

/-- Nothing produced yet: the default value and no iterations. -/
def start [Inhabited α] : Progress α := ⟨default, 0⟩

/-- One more successful iteration that produced `v`. -/
def record (p : Progress α) (v : α) : Progress α := ⟨v, p.iterations + 1⟩

/-- The loop stops here for reason `r`. -/
def finish (p : Progress α) (r : Stop) : Outcome α := ⟨p.last, p.iterations, r⟩

end Progress

namespace Strategy

variable {σ α : Type}

/-- The `busy` loop from progress `p`. -/
def busy (host : Host σ α) : Nat → Progress α → σ → Option (Outcome α × σ)
  | 0, _, _ => none
  | fuel + 1, p, s =>
    match host.met s with
    | (true, s) => some (p.finish .terminated, s)
    | (false, s) =>
      match host.observe s with
      | (true, s) => some (p.finish .cancelled, s)
      | (false, s) =>
        match host.work (host.note (.iteration .busy (p.iterations + 1)) s) with
        | (.ok v, s) => busy host fuel (p.record v) s
        | (.error e, s) => some (p.finish (.failed e), s)

/-- The `throttled` loop with wait `interval` from progress `p`. -/
def throttled (host : Host σ α) (interval : Duration) :
    Nat → Progress α → σ → Option (Outcome α × σ)
  | 0, _, _ => none
  | fuel + 1, p, s =>
    match host.met s with
    | (true, s) => some (p.finish .terminated, s)
    | (false, s) =>
      match host.work (host.note (.iteration (.throttled interval) (p.iterations + 1)) s) with
      | (.error e, s) => some (p.finish (.failed e), s)
      | (.ok v, s) =>
        match host.suspend interval s with
        | (true, s) =>
          some ((p.record v).finish .cancelled, host.note (.waitCancelled (p.iterations + 1)) s)
        | (false, s) => throttled host interval fuel (p.record v) s

/-- The `reinterrupt` loop with wait `interval` from progress `p`. -/
def reinterrupt (host : Host σ α) (interval : Duration) :
    Nat → Progress α → σ → Option (Outcome α × σ)
  | 0, _, _ => none
  | fuel + 1, p, s =>
    match host.met s with
    | (true, s) => some (p.finish .terminated, s)
    | (false, s) =>
      match host.observe s with
      | (true, s) => some (p.finish .cancelled, s)
      | (false, s) =>
        match host.work (host.note (.iteration (.reinterrupt interval) (p.iterations + 1)) s) with
        | (.error e, s) => some (p.finish (.failed e), s)
        | (.ok v, s) =>
          match host.suspend interval s with
          | (true, s) =>
            reinterrupt host interval fuel (p.record v) (host.rearm (host.note .rearming s))
          | (false, s) => reinterrupt host interval fuel (p.record v) s

end Strategy

/-- Runs a loop under strategy `it` from the start, within `fuel` iterations. -/
def Iteration.drive [Inhabited α] (it : Iteration) (host : Host σ α) (fuel : Nat) (s : σ) :
    Option (Outcome α × σ) :=
  match it with
  | .busy => Strategy.busy host fuel .start s
  | .throttled d => Strategy.throttled host d fuel .start s
  | .reinterrupt d => Strategy.reinterrupt host d fuel .start s

end Cadence
