import Cadence.Time.Duration

/-!
# Iteration strategies

How a loop paces itself: `busy` runs the next iteration at once, `throttled` waits a fixed
interval after each successful iteration and ends when that wait is cancelled, and `reinterrupt`
waits the same way but, when the wait is cancelled, raises the cancellation again so that the
loop's next check sees it.
-/
namespace Cadence

/-- The pacing of a loop. -/
inductive Iteration where
  | busy
  | throttled (interval : Duration)
  | reinterrupt (interval : Duration)
  deriving Repr

namespace Iteration

/-- The wait after each iteration, if the strategy waits. -/
def interval? : Iteration → Option Duration
  | .busy => none
  | .throttled d => some d
  | .reinterrupt d => some d

/-- The text of a strategy, with its interval in whole milliseconds. -/
def describe : Iteration → String
  | .busy => "busy"
  | .throttled d => "throttled every " ++ toString d.toMillis ++ "ms"
  | .reinterrupt d => "throttled every " ++ toString d.toMillis ++ "ms (reinterrupt)"

/-- The diagnostic form of a strategy. -/
def debugText : Iteration → String
  | .busy => "Busy"
  | .throttled d => "Throttled(" ++ d.debugText ++ ")"
  | .reinterrupt d => "ThrottledReinterrupt(" ++ d.debugText ++ ")"

end Iteration

end Cadence
