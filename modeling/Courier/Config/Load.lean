import Courier.Config
import Courier.Text.Utf8
import Courier.Yaml.Document
import Courier.Yaml.Reading

/-!
# Loading a configuration

A configuration is a YAML document with four sections. Each section has known members, of which
none may be given twice, and no other member may be given. What is left out has its standard
value.
-/

namespace Courier.Config

open Yaml

/-! ## Sections as they are given -/

/-- The members of a coordinator that are given. -/
structure Coordinator.Given where
  host : Option String
  port : Option Nat
  connectTimeout : Option Nat

/-- The members of a client that are given. -/
structure Client.Given where
  id : Option String
  paths : Option (List String)
  served : Option (OrderedMap Json.Value)

/-- The members of limits that are given. -/
structure Limits.Given where
  frameLimit : Option Nat
  heartbeat : Option Nat
  queue : Option Nat

/-- The sections that are given. -/
structure Given where
  version : Option Nat
  coordinator : Option Coordinator
  client : Option Client
  session : Option Limits

/-- A member of some type, with the way to see it and to put it into its section. -/
def member {σ α : Type} (name : String) (get : σ → Option α) (put : σ → α → σ)
    (read : Node → Reading α) : Member σ where
  name := name
  given draft := (get draft).isSome
  read node draft := do return put draft (← read node)

/-- What a member must be given as. -/
def needed {α : Type} (name : String) : Option α → Reading α
  | some a => return a
  | none => Reading.unfit (.missingField name)

/-- A period or a count. -/
def readWord64 (expected : String) (node : Node) : Reading Nat := node.readWord expected 64

/-! ## The coordinator -/

/-- The members of a coordinator. -/
def Coordinator.members : List (Member Coordinator.Given) := [
  member "host" (·.host) (fun s host => { s with host := some host }) (·.readText Node.anyText),
  member "port" (·.port) (fun s port => { s with port := some port }) (·.readWord "u16" 16),
  member "connect_timeout_ms" (·.connectTimeout) (fun s t => { s with connectTimeout := some t })
    (readWord64 "u64")]

/-- The coordinator with standard values for what is not given. -/
def Coordinator.Given.complete (given : Coordinator.Given) : Coordinator where
  host := given.host.getD Coordinator.standard.host
  port := given.port.getD Coordinator.standard.port
  connectTimeout := given.connectTimeout.getD Coordinator.standard.connectTimeout

/-- Read a coordinator. -/
def Coordinator.ofNode (node : Node) : Reading Coordinator := do
  let given ← node.readSection "CoordinatorSection" Coordinator.members ⟨none, none, none⟩
  return given.complete

/-! ## The client -/

/-- How deep sequences and mappings may stand inside each other in a document that is served. -/
def documentDepth : Nat := 125

/-- The members of a client. -/
def Client.members : List (Member Client.Given) := [
  member "id" (·.id) (fun s id => { s with id := some id }) (·.readText Node.anyText),
  member "paths" (·.paths) (fun s paths => { s with paths := some paths })
    (·.readList (Node.readText Node.anyText)),
  member "static_responses" (·.served) (fun s ds => { s with served := some ds })
    (·.readDocuments documentDepth)]

/-- The client, if its name and its paths are given. -/
def Client.Given.complete (given : Client.Given) : Reading Client := do
  return ⟨← needed "id" given.id, ← needed "paths" given.paths, given.served.getD .empty⟩

/-- Read a client. -/
def Client.ofNode (node : Node) : Reading Client := do
  (← node.readSection "NodeSection" Client.members ⟨none, none, none⟩).complete

/-! ## The limits -/

/-- The members of limits. -/
def Limits.members : List (Member Limits.Given) := [
  member "max_frame_bytes" (·.frameLimit) (fun s n => { s with frameLimit := some n })
    (readWord64 "usize"),
  member "heartbeat_interval_ms" (·.heartbeat) (fun s t => { s with heartbeat := some t })
    (readWord64 "u64"),
  member "inbound_queue" (·.queue) (fun s n => { s with queue := some n }) (readWord64 "usize")]

/-- The limits with standard values for what is not given. -/
def Limits.Given.complete (given : Limits.Given) : Limits where
  frameLimit := given.frameLimit.getD Limits.standard.frameLimit
  heartbeat := given.heartbeat.getD Limits.standard.heartbeat
  queue := given.queue.getD Limits.standard.queue

/-- Read limits. -/
def Limits.ofNode (node : Node) : Reading Limits := do
  let given ← node.readSection "SessionSection" Limits.members ⟨none, none, none⟩
  return given.complete

/-! ## The whole -/

/-- The sections of a configuration. -/
def members : List (Member Given) := [
  member "version" (·.version) (fun s v => { s with version := some v }) (·.readWord "u32" 32),
  member "coordinator" (·.coordinator) (fun s c => { s with coordinator := some c })
    Coordinator.ofNode,
  member "client" (·.client) (fun s c => { s with client := some c }) Client.ofNode,
  member "session" (·.session) (fun s l => { s with session := some l }) Limits.ofNode]

/-- The configuration, if its version and its client are given. -/
def Given.complete (given : Given) : Reading Config := do
  return ⟨← needed "version" given.version, given.coordinator.getD Coordinator.standard,
    ← needed "client" given.client, given.session.getD Limits.standard⟩

/-- Read a configuration, which need not keep the rules. -/
def ofNode (node : Node) : Reading Config := do
  (← node.readSection "ClientConfig" members ⟨none, none, none, none⟩).complete

/-- The configuration that a document holds. -/
def ofDocument (document : Document) : Except Fault Config :=
  match document.readAs ofNode with
  | .ok config => config.validate
  | .error fault => .error (.yaml fault)

/-- The configuration that a text holds. -/
def ofText (text : String) : Except Fault Config := ofDocument (Document.read text)

/-- The configuration in a file, of which the bytes are known or the reason why they are not. -/
def ofFile (path : String) (content : Except String Bytes) : Except Fault Config :=
  match content with
  | .error reason => .error (.unreadable path reason)
  | .ok bytes =>
    match Text.Utf8.decode? bytes with
    | some text => ofText text
    | none => .error (.unreadable path "stream did not contain valid UTF-8")

end Courier.Config
