import Courier.Client.Eager
import Courier.Config.Load
import Std.Async.DNS
import Std.Async.Signal
import Std.Async.TCP
import Std.Async.Timer

/-!
# The program

The program loads a configuration and runs its client once over a network connection, until the
coordinator closes, something fails, or the program is interrupted. Everything here is passing on:
the run says what it needs, and is told what has come of it.
-/

namespace Courier

namespace Main

/-- The two directions of a connection, and the wish of the user to stop. -/
structure Outside where
  socket : Std.Async.TCP.Socket.Client
  interrupt : Std.Async.Signal.Waiter

/-- Something that comes from outside. -/
inductive News where
  | arrived (bytes : Option ByteArray)
  | interrupted
  | timePassed

/-- Milliseconds as a span of time. -/
def milliseconds (n : Nat) : Std.Time.Millisecond.Offset := .ofNat n

/-- Do something, and tell whether and why it failed. -/
def attempt (act : Std.Async.Async α) : Std.Async.Async (Except String α) := do
  try
    return .ok (← act)
  catch e =>
    return .error (toString e)

/-- Connect to the first address of a host that accepts. -/
def connectAny (socket : Std.Async.TCP.Socket.Client) (host : String) (port : Nat) :
    Std.Async.Async Unit := do
  let mut reason := "failed to lookup address information"
  for address in ← Std.Async.DNS.getAddrInfo host (toString port) do
    let target : Std.Net.SocketAddress :=
      match address with
      | .v4 addr => .v4 ⟨addr, port.toUInt16⟩
      | .v6 addr => .v6 ⟨addr, port.toUInt16⟩
    match ← attempt (socket.connect target) with
    | .ok () => return
    | .error why => reason := why
  throw (IO.userError reason)

/-- Connect within some time; what comes of it is told as an action. -/
def connect (outside : Outside) (host : String) (port timeout : Nat) :
    Std.Async.Async Run.Action := do
  let connected : Std.Async.Async (Except String (Option String)) := attempt do
    connectAny outside.socket host port
    outside.socket.noDelay
    let peer ← outside.socket.getPeerName
    return some (toString peer)
  let made := do return some (← connected)
  let late := do
    Std.Async.sleep (milliseconds timeout)
    return none
  match ← Std.Async.Async.race made late with
  | none => return .timedOut
  | some (.ok peer) => return .connected peer
  | some (.error reason) => return .refused reason

/-- Wait for something that comes from outside. -/
def listen (outside : Outside) (heartbeat : Nat) (bytes : Bool) : Std.Async.Async News := do
  let pause ← Std.Async.Selector.sleep (milliseconds heartbeat)
  let always : Array (Std.Async.Selectable News) :=
    #[.case outside.interrupt.selector fun () => return .interrupted,
      .case pause fun () => return .timePassed]
  let arrival : Std.Async.Selectable News :=
    .case (outside.socket.recvSelector Inbound.chunkLength.toUInt64) fun got =>
      return .arrived got
  Std.Async.Selectable.one (if bytes then #[arrival] ++ always else always)

/-- What comes from outside, as an action. -/
def News.action : Except String News → Run.Action
  | .ok (.arrived (some bytes)) => .read bytes.data.toList
  | .ok (.arrived none) => .readEnd
  | .ok .interrupted => .set true
  | .ok .timePassed => .heartbeat
  | .error reason => .readFailure reason

/-- Give a run what it needs. -/
def provide (outside : Outside) (heartbeat : Nat) : Run.Need → Std.Async.Async Run.Action
  | .connection host port timeout => connect outside host port timeout
  | .write bytes => do
    match ← attempt (outside.socket.send ⟨bytes.toArray⟩) with
    | .ok () => return .accept bytes.length
    | .error reason => return .refuse reason
  | .flush => return .flush
  | .news bytes => do return News.action (← attempt (listen outside heartbeat bytes))

/-- Whether the sink was taken away. -/
def isShut (r : Run) : Bool := r.session.outbound.any Outbound.shut

/-- Run until there is an outcome. -/
partial def drive (outside : Outside) (r : Run) : Std.Async.Async (Except Failure Unit) := do
  match r.outcome?, r.eager? with
  | some outcome, _ => return outcome
  | none, some next =>
    if isShut next && !isShut r then
      let _ ← attempt outside.socket.shutdown
    drive outside next
  | none, none =>
    let action ← provide outside r.client.config.session.heartbeat r.need
    match r.step? action with
    | some next => drive outside next
    | none => throw (IO.userError "the client cannot go on")

/-- Run a client once. -/
def run (client : Client) : Std.Async.Async (Except Failure Unit) := do
  let outside : Outside :=
    ⟨← Std.Async.TCP.Socket.Client.mk, ← Std.Async.Signal.Waiter.mk .sigint false⟩
  drive outside (.start client .off)

/-- The content of a file, or why it cannot be read. -/
def contentOf (path : String) : IO (Except String Bytes) := do
  try
    return .ok (← IO.FS.readBinFile path).data.toList
  catch e =>
    return .error (toString e)

end Main

end Courier

/-- Run the client that a configuration describes. -/
def main (args : List String) : IO UInt32 := do
  let path := args.headD "pathlink.yaml"
  match Courier.Config.ofFile path (← Courier.Main.contentOf path) with
  | .error fault =>
    IO.eprintln ("config load failed: " ++ (Courier.Failure.invalidConfig fault).message)
    return 101
  | .ok c =>
    match ← (Courier.Main.run (.ofConfig c)).block with
    | .ok () => return 0
    | .error failure =>
      IO.eprintln (failure.code ++ ": " ++ failure.message)
      return 1
