import Cadence.Loop.Iteration
import Cadence.Loop.Exit
import Cadence.Fault

/-!
# Notes a loop leaves

As a loop runs it tells its host what it is doing, so that a host can keep a journal (a log)
or ignore it. A note never changes the course of the loop.

* `begin`: a handle starts its loop under a strategy;
* `iteration`: the strategy is about to run its unit of work for the `number`th time;
* `waitCancelled`: a throttled loop's wait was cancelled after `iterations` iterations, which
  ends the loop;
* `rearming`: a reinterrupt loop's wait was cancelled and the flag is raised again;
* `deadlineChecked`: a deadline was asked, `elapsed` milliseconds after it was set;
* `aborted`: a unit of work failed and the failure is contained;
* `propagating`: a unit of work failed and the failure is returned;
* `ended`: the loop ended with a report.
-/
namespace Cadence

/-- What a loop tells its host. -/
inductive Note where
  | begin (iteration : Iteration)
  | iteration (strategy : Iteration) (number : Nat)
  | waitCancelled (iterations : Nat)
  | rearming
  | deadlineChecked (elapsed : Nat)
  | aborted (iterations : Nat) (fault : Fault)
  | propagating (iterations : Nat)
  | ended (exit : Exit) (iterations : Nat)
  deriving Repr

end Cadence
