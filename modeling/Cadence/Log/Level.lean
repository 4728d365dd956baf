/-!
# Log levels

The five levels of a log record, from the most to the least severe, and their names. A level
filter admits a record when the record's level is at most as verbose as the filter's; `off`
admits nothing.
-/
namespace Cadence

/-- The severity of a log record. -/
inductive Level where
  | error
  | warn
  | info
  | debug
  | trace
  deriving Repr, BEq, DecidableEq, Inhabited

namespace Level

/-- The rank of a level: 1 for `error` up to 5 for `trace`. -/
def rank : Level → Nat
  | .error => 1
  | .warn => 2
  | .info => 3
  | .debug => 4
  | .trace => 5

/-- The upper-case name of a level. -/
def name : Level → String
  | .error => "ERROR"
  | .warn => "WARN"
  | .info => "INFO"
  | .debug => "DEBUG"
  | .trace => "TRACE"

end Level

end Cadence
