import Courier.Client.Run

/-!
# The eager schedule

A run leaves open who goes first. The eager schedule settles this: whatever can go on without the
outside does so at once, and only then is the outside asked for what the run needs. The pump goes
before the runner, so a reply that could not be written is noticed as such.
-/

namespace Courier

/-- What a run needs from outside before it can go on. -/
inductive Run.Need where
  /-- A connection to a host at a port, within some milliseconds. -/
  | connection (host : String) (port timeout : Nat)
  /-- The sink is to take some of these bytes. -/
  | write (bytes : Bytes)
  /-- The sink is to be flushed. -/
  | flush
  /-- Something is to be read or to be told; bytes are welcome or not. -/
  | news (bytes : Bool)
deriving DecidableEq, Repr

namespace Run

/-- Whether the pump waits for an envelope. -/
def isPumpWaiting (r : Run) : Bool :=
  match r.pump with
  | some .waiting => true
  | _ => false

/-- Whether the end of receiving, for which a call waits, has come. -/
def isAnswered (r : Run) : Bool :=
  match r.session.call with
  | some .waitReceiver | some .closeReceiver => r.session.unawaitedOutcome?.isSome
  | _ => false

/-- What can be tried without the outside, in the order of its precedence. -/
def eager (r : Run) : List Action :=
  [.receive] ++ (if r.isPumpWaiting then [.pump] else []) ++
    [.noticeSwitch, .noticePump, .noticeReceiver, .close] ++
    if r.isAnswered then [.poll] else []

/-- Go on without the outside, if that is possible. -/
def eager? (r : Run) : Option Run := r.eager.findSome? r.step?

/-- What the run needs when it cannot go on without the outside. -/
def need (r : Run) : Need :=
  match r.session.call, r.session.outbound.bind Outbound.running? with
  | some (.connect host port), _ => .connection host port r.session.options.connectTimeout
  | _, some a =>
    if a.taken = a.send.frame.length then .flush else .write (a.send.frame.drop a.taken)
  | _, none => .news (r.session.inbound.any Inbound.isReading)

end Run

end Courier
