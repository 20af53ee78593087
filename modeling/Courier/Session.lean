import Courier.Config
import Courier.Envelope.Registration
import Courier.Inbound
import Courier.Outbound

/-!
# Sessions

A session is one connection to the coordinator, from its making to its end. It is connected once,
registers once, receives once, and is closed; each of these is a call, and one call is made at a
time. A call made in the wrong phase fails and changes nothing. An ended session stays as it is.

While a call waits, receiving and the sends of others go on, so a session is described by steps:
what the callers do, what the connection does, and how calls that wait look again. Whoever once
had the writer of a session can send through it for as long as there is a sink.
-/

namespace Courier

/-- The limits of a session. -/
structure Session.Options where
  /-- How long a connection may take to be made, in milliseconds. -/
  connectTimeout : Nat
  /-- The longest payload that is accepted. -/
  frameLimit : Nat
  /-- How many inbound envelopes may wait. -/
  queue : Nat
deriving DecidableEq, Repr

namespace Session.Options

/-- The limits where none are configured. -/
def standard : Session.Options := ⟨5000, Frame.defaultLimit, 1024⟩

/-- The limits that a configuration sets. -/
def ofConfig (c : Config) : Session.Options :=
  ⟨c.coordinator.connectTimeout, c.session.frameLimit, c.session.queue⟩

/-- The greatest number of items that a queue can be made for. -/
def greatestQueue : Nat := Nat.pow 2 61 - 1

/-- Whether the queue can be made at all. -/
def allowQueue (o : Session.Options) : Bool := 1 ≤ o.queue && o.queue ≤ greatestQueue

end Session.Options

/-- A call that waits. -/
inductive Session.Call where
  | connect (host : String) (port : Nat)
  /-- The registration with some request number is being sent. -/
  | register (request : Int64) (paths : List String) (send : Nat)
  | waitReceiver
  /-- Closing waits for its turn to take the sink away. -/
  | closeWriter (shutdown : Nat)
  /-- Closing waits for the end of receiving. -/
  | closeReceiver
deriving DecidableEq, Repr

/-- What a call returns. -/
inductive Session.Return where
  | done
  | registered (request : Int64)
  | failed (failure : Failure)
  /-- The call breaks a condition that it takes for granted, and does not return. -/
  | crashed
deriving DecidableEq, Repr

/-- A connection to the coordinator. -/
structure Session where
  options : Session.Options
  phase : Phase
  numbers : RequestNumbers
  /-- The address of the coordinator. -/
  peer : Option String
  /-- The paths that were announced. -/
  paths : List String
  /-- Whether the session has its writer. -/
  writer : Bool
  /-- Whether the session has the side of the connection that is read. -/
  reader : Bool
  /-- The sending side, once there is a connection. -/
  outbound : Option Outbound
  /-- The receiving side, once it was started. -/
  inbound : Option Inbound
  /-- Whether the end of receiving is still to be waited for. -/
  unawaited : Bool
  /-- How many sends and shutdowns have been started. -/
  sends : Nat
  call : Option Session.Call
  /-- What calls have returned, in order. -/
  returned : List Session.Return

namespace Session

/-- A session that is not connected. -/
def start (options : Options) : Session where
  options := options
  phase := .disconnected
  numbers := .fresh
  peer := none
  paths := []
  writer := false
  reader := false
  outbound := none
  inbound := none
  unawaited := false
  sends := 0
  call := none
  returned := []

/-- Go on to a phase, unless the session has ended. -/
def advance (s : Session) (next : Phase) : Session := { s with phase := s.phase.advance next }

@[simp] theorem phase_advance (s : Session) (next : Phase) :
    (s.advance next).phase = s.phase.advance next := rfl

/-- Return from the call. -/
def answer (s : Session) (r : Return) : Session :=
  { s with call := none, returned := s.returned ++ [r] }

@[simp] theorem phase_answer (s : Session) (r : Return) : (s.answer r).phase = s.phase := rfl

/-- Return a failure. -/
def fail (s : Session) (failure : Failure) : Session := s.answer (.failed failure)

@[simp] theorem phase_fail (s : Session) (failure : Failure) :
    (s.fail failure).phase = s.phase := rfl

/-- What the last call has returned. -/
def lastReturn? (s : Session) : Option Return := s.returned.getLast?

@[simp] theorem lastReturn?_answer (s : Session) (r : Return) :
    (s.answer r).lastReturn? = some r := List.getLast?_concat

@[simp] theorem lastReturn?_fail (s : Session) (failure : Failure) :
    (s.fail failure).lastReturn? = some (.failed failure) := s.lastReturn?_answer _

/-- Take the next request number. -/
def nextRequest (s : Session) : Int64 × Session :=
  let (request, numbers) := s.numbers.take
  (request, { s with numbers })

/-! ## Connecting -/

/-- Begin to connect. -/
def connect (s : Session) (host : String) (port : Nat) : Session :=
  if s.phase = .disconnected then { s.advance .connecting with call := some (.connect host port) }
  else s.fail (.connection (.connectedIn s.phase))

/-- A connection was made. -/
def connected (s : Session) (peer : Option String) : Session :=
  ({ s with peer, reader := true, writer := true, outbound := some .start }.advance
    .connected).answer .done

/-- No connection was made. -/
def connectFailed (s : Session) (fault : ConnectionFault) : Session :=
  (s.advance .failed).fail (.connection fault)

/-! ## Registering -/

/-- Go on with a registration once it is sent or cannot be. -/
def settle (s : Session) : Session :=
  match s.call, s.outbound with
  | some (.register request paths send), some o =>
    match o.result? send with
    | none => s
    | some (.error failure) => (s.advance .failed).fail failure
    | some (.ok ()) => ({ s with paths }.advance .streaming).answer (.registered request)
  | _, _ => s

/-- Begin to register. -/
def register (s : Session) (metrics : Metrics) (clientId : String) (paths : List String) :
    Session × Metrics :=
  if s.phase ≠ .connected then (s.fail (.write (.registeredIn s.phase)), metrics)
  else
    match s.writer, s.outbound with
    | true, some o =>
      let (request, s) := (s.advance .registering).nextRequest
      let e := Registration.toEnvelope ⟨clientId, paths⟩ request
      match o.step? metrics (.send s.sends e) with
      | none => (s, metrics)
      | some (o, metrics) =>
        ({ s with
          outbound := some o
          sends := s.sends + 1
          call := some (.register request paths s.sends) }.settle, metrics)
    | _, _ => (s.fail (.write .noConnection), metrics)

/-! ## Receiving -/

/-- Start receiving. -/
def startReceiving (s : Session) : Session :=
  if s.phase ≠ .streaming then s.fail (.internal (.receivingIn s.phase))
  else if !s.reader then s.fail (.internal .receivingAlready)
  else
    let s := { s with reader := false }
    if !s.options.allowQueue then s.answer .crashed
    else
      { s with
        inbound := some (.start s.options.frameLimit s.options.queue)
        unawaited := true }.answer .done

/-- The phase that the end of receiving leads to. -/
def phaseAfter : Except Failure Unit → Phase
  | .ok () => .closed
  | .error _ => .failed

/-- Receiving ends the session for good. -/
@[simp] theorem isTerminal_phaseAfter (outcome : Except Failure Unit) :
    (phaseAfter outcome).isTerminal = true := by
  cases outcome <;> rfl

/-- A session fails with receiving, and only then. -/
@[simp] theorem phaseAfter_eq_failed_iff (outcome : Except Failure Unit) :
    phaseAfter outcome = .failed ↔ ∃ failure, outcome = .error failure := by
  cases outcome with
  | ok => exact ⟨Phase.noConfusion, by rintro ⟨failure, ⟨⟩⟩⟩
  | error failure => exact ⟨fun _ => ⟨failure, rfl⟩, fun _ => rfl⟩

/-- Take over what became of receiving, whose end ends the session. -/
def withInbound (s : Session) (r : Inbound) : Session :=
  match r.outcome? with
  | none => { s with inbound := some r }
  | some outcome => { s with inbound := some r }.advance (phaseAfter outcome)

section WithInbound

variable (s : Session) (r : Inbound)

@[simp] theorem inbound_withInbound : (s.withInbound r).inbound = some r := by
  unfold withInbound
  split <;> rfl

@[simp] theorem outbound_withInbound : (s.withInbound r).outbound = s.outbound := by
  unfold withInbound
  split <;> rfl

@[simp] theorem call_withInbound : (s.withInbound r).call = s.call := by
  unfold withInbound
  split <;> rfl

@[simp] theorem sends_withInbound : (s.withInbound r).sends = s.sends := by
  unfold withInbound
  split <;> rfl

end WithInbound

/-- How receiving ended, if it did and this was not waited for yet. -/
def unawaitedOutcome? (s : Session) : Option (Except Failure Unit) :=
  if s.unawaited then s.inbound.bind Inbound.outcome? else none

/-- What waiting for the end of receiving returns. -/
def returnOf : Except Failure Unit → Return
  | .ok () => .done
  | .error failure => .failed failure

/-- Go on with waiting for the end of receiving. -/
def goOnWaiting (s : Session) : Session :=
  match s.unawaitedOutcome? with
  | none => s
  | some outcome => { s with unawaited := false }.answer (returnOf outcome)

/-- Begin to wait for the end of receiving. -/
def waitReceiver (s : Session) : Session :=
  if s.unawaited then { s with call := some .waitReceiver }.goOnWaiting else s.answer .done

/-! ## Closing -/

/-- Go on with closing when the end of receiving is waited for. -/
def goOnClosing (s : Session) : Session :=
  if !s.unawaited then (s.advance .closed).answer .done
  else if s.unawaitedOutcome?.isSome then ({ s with unawaited := false }.advance .closed).answer .done
  else s

/-- Go on with closing when the writer has been given up. -/
def closeReader (s : Session) : Session :=
  { s with reader := false, call := some .closeReceiver }.goOnClosing

/-- Go on with closing once the sink has been taken away. -/
def settleClosing (s : Session) (shutdown : Nat) : Session :=
  if s.outbound.any fun o => (o.result? shutdown).isSome then s.closeReader else s

/-- Turn the switch on, for both sides. -/
def turnOn (s : Session) : Session :=
  { s with
    outbound := s.outbound.map fun o => { o with cancelled := true }
    inbound := s.inbound.map fun r => { r with disturbed := true } }

@[simp] theorem outbound_turnOn (s : Session) :
    s.turnOn.outbound = s.outbound.map fun o => { o with cancelled := true } := rfl

@[simp] theorem inbound_turnOn (s : Session) :
    s.turnOn.inbound = s.inbound.map fun r => { r with disturbed := true } := rfl

/-- Begin to close. -/
def close (s : Session) (metrics : Metrics) : Session × Metrics :=
  let s := s.turnOn
  match s.writer, s.outbound with
  | true, some o =>
    match o.step? metrics (.shutdown s.sends) with
    | none => (s, metrics)
    | some (o, metrics) =>
      ({ s with
        writer := false
        outbound := some o
        sends := s.sends + 1
        call := some (.closeWriter s.sends) }.settleClosing s.sends, metrics)
  | _, _ => ({ s with writer := false }.closeReader, metrics)

/-! ## Steps -/

/-- What can happen to a session. -/
inductive Action where
  | connect (host : String) (port : Nat)
  | register (clientId : String) (paths : List String)
  | startReceiving
  | waitReceiver
  | close
  /-- Somebody takes a request number. -/
  | nextRequest
  /-- The call that waits looks again. -/
  | poll
  /-- The connection that is waited for was made. -/
  | connected (peer : Option String)
  /-- The connection that is waited for cannot be made. -/
  | refused (reason : String)
  /-- The connection that is waited for takes too long. -/
  | timedOut
  /-- Somebody with the writer starts to send. -/
  | send (e : Envelope)
  /-- A send of somebody looks again at what it waits for. -/
  | pollSend (send : Nat)
  /-- A send of somebody is given up. -/
  | abandonSend (send : Nat)
  /-- The sink takes some bytes. -/
  | accept (count : Nat)
  /-- The sink has flushed a frame. -/
  | flush
  /-- Writing or flushing fails. -/
  | refuse (reason : String)
  /-- Something happens to receiving. -/
  | inbound (action : Inbound.Action)
deriving DecidableEq, Repr

/-- Whether a send or shutdown belongs to the call that waits. -/
def isOwn (s : Session) (send : Nat) : Bool :=
  match s.call with
  | some (.register _ _ own) | some (.closeWriter own) => send = own
  | _ => false

@[simp] theorem isOwn_iff {s : Session} {send : Nat} :
    s.isOwn send = true ↔
      (∃ request paths, s.call = some (.register request paths send)) ∨
        s.call = some (.closeWriter send) := by
  unfold isOwn
  split <;> simp_all [eq_comm]

/-- Make a call, if none is waiting. -/
def call? (s : Session) (made : Session × Metrics) : Option (Session × Metrics) :=
  if s.call.isNone then some made else none

/-- A call is made just where none waits. -/
@[simp] theorem call?_eq_some_iff {s : Session} {made after : Session × Metrics} :
    s.call? made = some after ↔ s.call = none ∧ made = after := by
  simp [call?]

/-- Let something happen to the sending side. -/
def outbound? (s : Session) (metrics : Metrics) (action : Outbound.Action) :
    Option (Session × Metrics) :=
  match s.outbound with
  | none => none
  | some o =>
    (o.step? metrics action).map fun (o, metrics) => ({ s with outbound := some o }.settle, metrics)

/-- Let the call that waits look again. -/
def poll? (s : Session) (metrics : Metrics) : Option (Session × Metrics) :=
  match s.call with
  | some (.register _ _ send) => s.outbound? metrics (.poll send)
  | some (.closeWriter shutdown) =>
    (s.outbound? metrics (.poll shutdown)).map fun (s, metrics) =>
      (s.settleClosing shutdown, metrics)
  | some .waitReceiver => some (s.goOnWaiting, metrics)
  | some .closeReceiver => some (s.goOnClosing, metrics)
  | _ => none

/-- What an action leads to, if it can happen. -/
def step? (s : Session) (metrics : Metrics) : Action → Option (Session × Metrics)
  | .connect host port => s.call? (s.connect host port, metrics)
  | .register clientId paths => s.call? (s.register metrics clientId paths)
  | .startReceiving => s.call? (s.startReceiving, metrics)
  | .waitReceiver => s.call? (s.waitReceiver, metrics)
  | .close => s.call? (s.close metrics)
  | .nextRequest => s.call? (s.nextRequest.2, metrics)
  | .poll => s.poll? metrics
  | .connected peer =>
    match s.call with
    | some (.connect _ _) => some (s.connected peer, metrics)
    | _ => none
  | .refused reason =>
    match s.call with
    | some (.connect host port) => some (s.connectFailed (.refused host port reason), metrics)
    | _ => none
  | .timedOut =>
    match s.call with
    | some (.connect host port) =>
      some (s.connectFailed (.timedOut host port s.options.connectTimeout), metrics)
    | _ => none
  | .send e =>
    (s.outbound? metrics (.send s.sends e)).map fun (s, metrics) =>
      ({ s with sends := s.sends + 1 }, metrics)
  | .pollSend send => if s.isOwn send then none else s.outbound? metrics (.poll send)
  | .abandonSend send => if s.isOwn send then none else s.outbound? metrics (.abandon send)
  | .accept count => s.outbound? metrics (.accept count)
  | .flush => s.outbound? metrics .flush
  | .refuse reason => s.outbound? metrics (.refuse reason)
  | .inbound .disturb => none
  | .inbound action =>
    match s.inbound with
    | none => none
    | some r => (r.step? metrics action).map fun (r, metrics) => (s.withInbound r, metrics)

end Session

end Courier
