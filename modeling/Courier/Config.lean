import Courier.Config.Fault
import Courier.Frame
import Courier.Json.Value
import Courier.Text.Blank

/-!
# Configuration

What a client has to know before it starts: where the coordinator is, under which name and for
which paths it registers, and the limits of a session. Everything but the name and the paths can
be left out. A configuration is used only if it keeps all rules; of several broken rules the
first one is reported, in the order of the sections and of the members in them.
-/

namespace Courier

/-- Where the coordinator is. -/
structure Config.Coordinator where
  host : String
  port : Nat
  /-- How long a connection may take to be made, in milliseconds. -/
  connectTimeout : Nat
deriving DecidableEq, Repr

/-- Who the client is and what it serves. -/
structure Config.Client where
  id : String
  paths : List String
  /-- The documents that are served, by path; requests for other paths are echoed. -/
  served : OrderedMap Json.Value

/-- The limits of a session. -/
structure Config.Limits where
  /-- The longest payload that is accepted. -/
  frameLimit : Nat
  /-- How often the client says in its log that it is alive, in milliseconds. -/
  heartbeat : Nat
  /-- How many inbound envelopes may wait. -/
  queue : Nat
deriving DecidableEq, Repr

/-- What a client has to know before it starts. -/
structure Config where
  version : Nat
  coordinator : Config.Coordinator
  client : Config.Client
  session : Config.Limits

namespace Config

/-- The documents that are served, in ascending order of their paths. -/
def Client.documents (c : Client) : List (String × Json.Value) := c.served.entries

/-- Each path has one document at most, and the documents stand in the order of the paths. -/
theorem Client.ascending_documents (c : Client) : Ascending c.documents := c.served.ascending

/-- The coordinator where none is configured. -/
def Coordinator.standard : Coordinator := ⟨"localhost", 8081, 5000⟩

/-- The limits where none are configured. -/
def Limits.standard : Limits := ⟨Frame.defaultLimit, 1000, 1024⟩

/-! ## Rules -/

/-- A rule, and whether it is kept. -/
def require (kept : Bool) (rule : Violation) : Option Violation := if kept then none else some rule

/-- Whether a period in milliseconds is neither too short nor too long. -/
def isPeriod (milliseconds : Nat) : Bool := 100 ≤ milliseconds && milliseconds ≤ 60000

/-- The version that is understood. -/
def currentVersion : Nat := 1

/-- The first rule that a coordinator breaks. -/
def Coordinator.violation? (c : Coordinator) : Option Violation :=
  (require (!Text.isBlank c.host) .blankHost).or <|
  (require (c.port ≠ 0) .zeroPort).or <|
  require (isPeriod c.connectTimeout) .connectTimeoutOutOfRange

/-- The first path that is relative or repeats an earlier one. -/
def pathViolation? (earlier : List String) : List String → Option Violation
  | [] => none
  | path :: rest =>
    if path.toList.head? ≠ some '/' then some (.relativePath path)
    else if path ∈ earlier then some (.repeatedPath path)
    else pathViolation? (path :: earlier) rest

/-- The first document for a path that is not served. -/
def documentViolation? (paths : List String) (documents : List (String × Json.Value)) :
    Option Violation :=
  (documents.find? fun entry => entry.1 ∉ paths).map fun entry => .unregisteredPath entry.1

/-- The first rule that a client breaks. -/
def Client.violation? (c : Client) : Option Violation :=
  (require (!Text.isBlank c.id) .blankId).or <|
  (require (!c.paths.isEmpty) .noPaths).or <|
  (pathViolation? [] c.paths).or <|
  documentViolation? c.paths c.documents

/-- The first rule that limits break. -/
def Limits.violation? (l : Limits) : Option Violation :=
  (require (64 ≤ l.frameLimit && l.frameLimit ≤ Frame.largestLength) .frameLimitOutOfRange).or <|
  (require (isPeriod l.heartbeat) .heartbeatOutOfRange).or <|
  require (1 ≤ l.queue) .noQueue

/-- The first rule that a configuration breaks. -/
def violation? (c : Config) : Option Violation :=
  (require (c.version = currentVersion) (.unknownVersion c.version)).or <|
  c.coordinator.violation?.or <|
  c.client.violation?.or <|
  c.session.violation?

/-- The configuration, if it keeps all rules. -/
def validate (c : Config) : Except Fault Config :=
  match c.violation? with
  | none => .ok c
  | some rule => .error (.violation rule)

end Config

end Courier
