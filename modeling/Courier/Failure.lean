import Courier.Config.Fault
import Courier.Envelope
import Courier.Phase

/-!
# Failures

Whatever goes wrong is a failure of one of nine kinds. Each kind has a code that peers and
operators rely on. Failures of one frame or one request are local to it; all other failures end
the session.
-/

namespace Courier

/-- Why a connection cannot be made or kept. -/
inductive ConnectionFault where
  | connectedIn (phase : Phase)
  | refused (host : String) (port : Nat) (reason : String)
  | timedOut (host : String) (port : Nat) (milliseconds : Nat)
  | unreadable (reason : String)
  /-- Words from elsewhere. -/
  | stated (text : String)
deriving DecidableEq, Repr

/-- Some milliseconds, in seconds if there is a whole one, without zeros at the end. -/
def durationText (milliseconds : Nat) : String :=
  if milliseconds < 1000 then s!"{milliseconds}ms"
  else
    let thousandths := (Nat.toDigits 10 (1000 + milliseconds % 1000)).drop 1
    let fraction := (thousandths.reverse.dropWhile (· = '0')).reverse
    let point := if fraction.isEmpty then "" else "."
    s!"{milliseconds / 1000}{point}{String.ofList fraction}s"

/-- The wording of a connection fault. -/
def ConnectionFault.wording : ConnectionFault → String
  | .connectedIn phase => s!"connect called in state {phase.name}"
  | .refused host port reason => s!"connect {host}:{port} failed: {reason}"
  | .timedOut host port milliseconds =>
    s!"connect {host}:{port} timed out after {durationText milliseconds}"
  | .unreadable reason => s!"read failed: {reason}"
  | .stated text => text

/-- Why an envelope cannot be sent. -/
inductive WriteFault where
  | registeredIn (phase : Phase)
  | noConnection
  | closed
  | cancelled (subject : String)
  | failed (subject reason : String)
  /-- Words from elsewhere. -/
  | stated (text : String)
deriving DecidableEq, Repr

/-- The wording of a write fault. -/
def WriteFault.wording : WriteFault → String
  | .registeredIn phase => s!"register called in state {phase.name}"
  | .noConnection => "no connection"
  | .closed => "connection closed"
  | .cancelled subject => s!"send {subject} cancelled by close"
  | .failed subject reason => s!"send {subject} failed: {reason}"
  | .stated text => text

/-- Why a step of the client itself cannot be taken. -/
inductive InternalFault where
  | receivingIn (phase : Phase)
  | receivingAlready
  | writerMissing
  /-- Words from elsewhere. -/
  | stated (text : String)
deriving DecidableEq, Repr

/-- The wording of an internal fault. -/
def InternalFault.wording : InternalFault → String
  | .receivingIn phase => s!"start_receiving called in state {phase.name}"
  | .receivingAlready => "receive loop already started"
  | .writerMissing => "writer missing after register"
  | .stated text => text

/-- What went wrong. -/
inductive Failure where
  | connection (fault : ConnectionFault)
  | write (fault : WriteFault)
  | malformedEnvelope (fault : Envelope.Fault)
  | incompleteFrame (buffered : Nat)
  | frameTooLarge (length limit : Nat)
  | invalidConfig (fault : Config.Fault)
  | unknownPath (path : String)
  | handler (text : String)
  | internal (fault : InternalFault)
deriving DecidableEq, Repr

/-- A framing fault as a failure. -/
def Frame.Fault.failure : Frame.Fault → Failure
  | .tooLarge length limit => .frameTooLarge length limit
  | .incomplete buffered => .incompleteFrame buffered

namespace Failure

/-- The code of the kind of a failure. -/
def code : Failure → String
  | .connection _ => "CONNECTION_ERROR"
  | .write _ => "WRITE_ERROR"
  | .malformedEnvelope _ => "MALFORMED_ENVELOPE"
  | .incompleteFrame _ => "INCOMPLETE_FRAME_AT_CLOSE"
  | .frameTooLarge _ _ => "FRAME_TOO_LARGE"
  | .invalidConfig _ => "INVALID_CONFIG"
  | .unknownPath _ => "UNKNOWN_PATH"
  | .handler _ => "HANDLER_ERROR"
  | .internal _ => "INTERNAL"

/-- The wording of a failure. -/
def message : Failure → String
  | .connection fault => "connection error: " ++ fault.wording
  | .write fault => "write error: " ++ fault.wording
  | .malformedEnvelope fault => "malformed envelope: " ++ fault.wording
  | .incompleteFrame buffered => (Frame.Fault.incomplete buffered).message
  | .frameTooLarge length limit => (Frame.Fault.tooLarge length limit).message
  | .invalidConfig fault => "invalid config: " ++ fault.wording
  | .unknownPath path => "no handler registered for path: " ++ path
  | .handler text => "handler failed: " ++ text
  | .internal fault => "internal: " ++ fault.wording

/-- Whether a failure ends the session. -/
def isFatal : Failure → Bool
  | .malformedEnvelope _ | .unknownPath _ | .handler _ => false
  | _ => true

end Failure

end Courier
