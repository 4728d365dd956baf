import Cadence.Log.Level
import Cadence.Json.Basic
import Cadence.Text.Quoted

/-!
# How a loop ended

A loop ends because its terminator was met, because it was cancelled, or because its unit of
work failed with a message. Each ending has a text, a log level (`debug`, `warn`, `error`), a
diagnostic form, and a JSON form tagged by `cause`, with the failure's text under `message`.
-/
namespace Cadence

/-- How a loop ended. -/
inductive Exit where
  | terminated
  | cancelled
  | failed (message : String)
  deriving Repr, BEq, DecidableEq, Inhabited

namespace Exit

/-- The text of an ending. -/
def describe : Exit → String
  | .terminated => "terminated"
  | .cancelled => "cancelled"
  | .failed m => "failed: " ++ m

/-- The level at which an ending is logged. -/
def level : Exit → Level
  | .terminated => .debug
  | .cancelled => .warn
  | .failed _ => .error

/-- The diagnostic form of an ending. -/
def debugText : Exit → String
  | .terminated => "Terminated"
  | .cancelled => "Cancelled"
  | .failed m => "Failed(" ++ Text.quoted m ++ ")"

/-- The tag of an ending. -/
def cause : Exit → String
  | .terminated => "terminated"
  | .cancelled => "cancelled"
  | .failed _ => "failed"

/-- The JSON form: the tag under `cause`, and a failure's text under `message`. -/
def toJson : Exit → Json
  | .failed m => .object [("cause", .string "failed"), ("message", .string m)]
  | e => .object [("cause", .string e.cause)]

end Exit

end Cadence
