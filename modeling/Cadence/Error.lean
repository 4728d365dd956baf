import Cadence.Fault
import Cadence.Yaml.Error

/-!
# Loop errors

The errors the library returns: a unit of work that failed under the `propagate` policy, a
configuration that is not valid, a configuration file that could not be read, and one whose
text is not a valid configuration. Each has a text; all but the invalid configuration have a
cause, the error they wrap.
-/
namespace Cadence

/-- An error the library returns. -/
inductive LoopError where
  | work (fault : Fault)
  | invalidConfig (reason : String)
  | io (e : IoError)
  | yaml (e : Yaml.Error)
  deriving Repr, BEq, Inhabited

namespace LoopError

/-- The text of an error. -/
def message : LoopError → String
  | .work f => "Unit of work failed: " ++ f.text
  | .invalidConfig r => "Invalid config: " ++ r
  | .io e => "IO error: " ++ e.message
  | .yaml e => "YAML error: " ++ e.message

/-- The text of the error this one wraps, if any. -/
def cause? : LoopError → Option String
  | .work f => some f.text
  | .invalidConfig _ => none
  | .io e => some e.message
  | .yaml e => some e.message

/-- The diagnostic form of an error. -/
def debugText : LoopError → String
  | .work f => "Work(" ++ f.debugText ++ ")"
  | .invalidConfig r => "InvalidConfig(" ++ Text.quoted r ++ ")"
  | .io e => "Io(" ++ e.debugText ++ ")"
  | .yaml e => "Yaml(" ++ e.debugText ++ ")"

/-- The name of an error's kind. -/
def kindName : LoopError → String
  | .work _ => "Work"
  | .invalidConfig _ => "InvalidConfig"
  | .io _ => "Io"
  | .yaml _ => "Yaml"

end LoopError

end Cadence
