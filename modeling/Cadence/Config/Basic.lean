import Cadence.Loop.Handle
import Cadence.Json.Basic

/-!
# Loop configuration

The settings a loop takes from a configuration file: the log filter (`info` unless given; it
may be given as absent), the interval of throttled loops that name none (1000 ms unless given),
and the failure policy (`contain` unless given). A configuration is valid when its interval is
not zero.
-/
namespace Cadence

/-- Loop settings. -/
structure Config where
  logLevel : Option String := some "info"
  defaultIntervalMs : Nat := 1000
  failurePolicy : FailurePolicy := .contain
  deriving Repr, BEq, Inhabited

namespace Config

/-- The interval of throttled loops that name none. -/
def defaultInterval (c : Config) : Duration := Duration.ofMillis c.defaultIntervalMs

/-- The log filter: the log level, or `info` when it is absent. -/
def logFilter (c : Config) : String := c.logLevel.getD "info"

/-- Checks a configuration: the interval must not be zero. The error is the reason. -/
def validate (c : Config) : Except String Unit :=
  if c.defaultIntervalMs = 0 then .error "default_interval_ms must be > 0" else .ok ()

/-- The JSON form of a configuration. -/
def toJson (c : Config) : Json :=
  .object [("default_interval_ms", .nat c.defaultIntervalMs),
    ("failure_policy", .string c.failurePolicy.name),
    ("log_level", Json.opt Json.string c.logLevel)]

end Config

end Cadence
