import Courier.Yaml.Fault

/-!
# What can be wrong with a configuration

A configuration is refused because its file cannot be read, because its text is not the YAML that
is expected, or because its values break a rule. A rule that is broken is told by a violation.
-/

namespace Courier.Config

/-- A rule that the values of a configuration break. -/
inductive Violation where
  | unknownVersion (version : Nat)
  | blankHost
  | zeroPort
  | connectTimeoutOutOfRange
  | blankId
  | noPaths
  | relativePath (path : String)
  | repeatedPath (path : String)
  | unregisteredPath (path : String)
  | frameLimitOutOfRange
  | heartbeatOutOfRange
  | noQueue
deriving DecidableEq, Repr

/-- The wording of a violation. -/
def Violation.message : Violation → String
  | .unknownVersion version => s!"unsupported config version: {version}"
  | .blankHost => "coordinator.host must not be empty"
  | .zeroPort => "coordinator.port must not be 0"
  | .connectTimeoutOutOfRange => "coordinator.connect_timeout_ms must be between 100 and 60000"
  | .blankId => "client.id must not be empty"
  | .noPaths => "client.paths must not be empty"
  | .relativePath path => s!"client.paths entry must start with '/': {path}"
  | .repeatedPath path => s!"client.paths contains duplicate: {path}"
  | .unregisteredPath path => s!"client.static_responses refers to unregistered path: {path}"
  | .frameLimitOutOfRange => "session.max_frame_bytes must be between 64 and 4294967295"
  | .heartbeatOutOfRange => "session.heartbeat_interval_ms must be between 100 and 60000"
  | .noQueue => "session.inbound_queue must be at least 1"

/-- Why there is no configuration. -/
inductive Fault where
  /-- The file at a path cannot be read. -/
  | unreadable (path reason : String)
  | yaml (fault : Yaml.Fault)
  | violation (rule : Violation)
  /-- Words from elsewhere. -/
  | stated (text : String)
deriving DecidableEq, Repr

/-- The wording of a fault. -/
def Fault.wording : Fault → String
  | .unreadable path reason => s!"read config failed ({path}): {reason}"
  | .yaml fault => "invalid yaml: " ++ fault.message
  | .violation rule => rule.message
  | .stated text => text

end Courier.Config
