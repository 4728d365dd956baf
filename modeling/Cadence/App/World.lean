import Cadence.Loop.Builder
import Cadence.Log.Filter
import Cadence.Log.Record

/-!
# A counter on a virtual clock

The program's loops count: the `n`th call of the unit of work answers `n`, and publishes it for
the loop's condition to read, unless `n` is the call it was told to fail on.

The loops run on a clock of nanoseconds that starts at zero. The work takes no time. A wait
of `d` from time `t` ends at `t + d`, unless a cancellation signal is due by then: the wait then
ends when the signal comes, or at once if the flag is already raised, and lowers the flag. A
signal raises the flag at the time it is due; a poll sees it from then on. Deadlines read the
clock in whole milliseconds.

Each note of the loop is written to the log as the library writes it, under a target naming
the part that wrote it; a record is kept only if the log filter admits it.
-/
namespace Cadence.App

open Log

/-- The world one counter loop runs in. -/
structure World where
  /-- The clock, in nanoseconds. -/
  clock : Nat := 0
  /-- The count the counter last published. -/
  seen : Nat := 0
  /-- The call the counter fails on. -/
  failOn : Option Nat := none
  /-- When a cancellation signal is due, in nanoseconds, if one is yet to come. -/
  due : Option Nat := none
  /-- The cancellation flag. -/
  raised : Bool := false
  filter : Filter
  /-- The records written, newest first. -/
  written : List Record := []
  /-- When the loop's hook fired, in nanoseconds. -/
  finishedAt : Option Nat := none
  deriving Inhabited

/-- Nanoseconds in a millisecond. -/
def nanosPerMilli : Nat := 1000000

namespace World

/-- The clock in whole milliseconds. -/
def now (w : World) : Nat := w.clock / nanosPerMilli

/-- Writes a record, if the filter admits it. -/
def write (w : World) (level : Level) (target message : String) : World :=
  if w.filter.admits level target message then
    { w with written := ⟨level, target, message, w.now⟩ :: w.written }
  else w

/-- The records written, oldest first. -/
def records (w : World) : List Record := w.written.reverse

/-- Raises the flag if the signal is due by now. -/
def deliver (w : World) : World :=
  match w.due with
  | some c => if c ≤ w.clock then { w with raised := true, due := none } else w
  | none => w

/-- Reads and lowers the flag. -/
def observe (w : World) : Bool × World :=
  let w := w.deliver
  (w.raised, { w with raised := false })

/-- Waits `d`, or until the signal comes: `true` when the wait was cut short. -/
def suspend (d : Duration) (w : World) : Bool × World :=
  let w := w.deliver
  if w.raised then (true, { w with raised := false })
  else
    let ends := w.clock + d.toNanos
    match w.due with
    | some c => if c ≤ ends then (true, { w with clock := c, due := none })
      else (false, { w with clock := ends })
    | none => (false, { w with clock := ends })

/-- Raises the flag again. -/
def rearm (w : World) : World := { w with raised := true }

/-- The cancellation flag of the world. -/
def flag : Flag World := ⟨observe, suspend, rearm⟩

/-- One call of the counter. -/
def count (w : World) : Except Fault Nat × World :=
  let n := w.seen + 1
  if w.failOn == some n then (.error (.message ("counter refused to reach " ++ toString n)), w)
  else (.ok n, { w with seen := n })

/-- Whether the published count has reached `limit`. -/
def reached (limit : Nat) (w : World) : Bool × World := (decide (limit ≤ w.seen), w)

end World

/-- The log target of a strategy. -/
def strategyTarget : Iteration → String
  | .busy => "loopkit::strategy::busy"
  | .throttled _ => "loopkit::strategy::throttled"
  | .reinterrupt _ => "loopkit::strategy::reinterrupt"

/-- The log target of loop handles. -/
def handleTarget : String := "loopkit::handle"

/-- The level, target and message a note is logged with. -/
def noteEntry : Note → Level × String × String
  | .begin it => (.debug, handleTarget, "Loop begin (" ++ it.describe ++ ")")
  | .iteration it n => (.debug, strategyTarget it, "Loop iteration " ++ toString n)
  | .waitCancelled n =>
    (.warn, "loopkit::strategy::throttled",
      "Loop suspension cancelled after " ++ toString n ++ " iteration(s)")
  | .rearming =>
    (.warn, "loopkit::strategy::reinterrupt", "Loop suspension cancelled during delay, re-arming")
  | .deadlineChecked ms => (.debug, "loopkit::terminator", "Duration: " ++ toString ms ++ "ms")
  | .aborted n f =>
    (.error, handleTarget, "Loop aborted after " ++ toString n ++ " iteration(s): " ++ f.text)
  | .propagating n =>
    (.debug, handleTarget, "Loop end: propagating failure after " ++ toString n ++ " iteration(s)")
  | .ended e n =>
    (.debug, handleTarget, "Loop end: " ++ e.describe ++ " after " ++ toString n ++ " iteration(s)")

/-- Writes a note to the world's log. -/
def World.note (n : Note) (w : World) : World :=
  let (level, target, message) := noteEntry n
  w.write level target message

/-- A counter loop: its conditions are counts to reach, its world a `World`. -/
abbrev CounterLoop := Handle Nat World Nat

/-- How a counter loop ended: its answer and how long it ran, in nanoseconds; none if it ran
past its bound. -/
structure Finish where
  answer : Option (Except Fault (Report Nat))
  elapsed : Nat
  deriving Inhabited

/-- Runs a counter loop from the world's time for at most `fuel` iterations. -/
def runCounter (h : CounterLoop) (fuel : Nat) (w : World) : Finish × World :=
  match h.run World.reached World.now World.flag World.note fuel w with
  | some (answer, w') => (⟨some answer, w'.clock - w.clock⟩, w')
  | none => (⟨none, 0⟩, w)

end Cadence.App
