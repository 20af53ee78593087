import Courier.Client
import Courier.Session

/-!
# Running a client

A run is one session from its making to its close. When the session has registered, two tasks
share it: receiving fills a queue, and the pump takes envelopes out of the queue, one by one, and
sends the answers. The runner then only waits: for its own switch, for the end of receiving, for
the end of the pump, and for its heartbeat. Of several things that are ready it may notice any
first. What it notices decides how the run ends; it stops the pump and closes the session.

The steps here are what the tasks, the connection and the owner of the switch can do, and every
order of them is possible.
-/

namespace Courier

/-- How far the pump is. -/
inductive Run.Pump where
  /-- It waits for an envelope. -/
  | waiting
  /-- It sends an answer. -/
  | sending (send : Nat)
  | ended (result : Except Failure Unit)
  /-- It was stopped from outside. -/
  | stopped

/-- How far the runner is. -/
inductive Run.Stage where
  | connecting
  | registering
  /-- It waits for something to notice. -/
  | serving
  /-- The pump has ended well, and the end of receiving decides. -/
  | awaitingReceiver
  /-- The pump is stopped, and the session is to be closed. -/
  | stopping (outcome : Except Failure Unit)
  | closing (outcome : Except Failure Unit)
  | ended (outcome : Except Failure Unit)
  /-- It broke a condition that it takes for granted. -/
  | crashed

/-- The switch that ends a run, as the runner knows it. -/
structure Run.Switch where
  on : Bool
  /-- Whether it was set since the runner last looked at it. -/
  unseen : Bool
  /-- Whether nobody can set it any more. -/
  gone : Bool
deriving DecidableEq, Repr

/-- A switch that is off and was never set. -/
def Run.Switch.off : Run.Switch := ⟨false, false, false⟩

/-- A switch that was set to some value. -/
def Run.Switch.set (s : Run.Switch) (on : Bool) : Run.Switch := { s with on, unseen := true }

/-- A run of a client. -/
structure Run where
  client : Client
  session : Session
  stage : Run.Stage
  /-- The pump, once it was started. -/
  pump : Option Run.Pump
  switch : Run.Switch
  metrics : Metrics

namespace Run

/-- The outcome of a run, if it has one. -/
def outcome? (r : Run) : Option (Except Failure Unit) :=
  match r.stage with
  | .ended outcome => some outcome
  | _ => none

/-- A run has an outcome when it has ended with it. -/
@[simp] theorem outcome?_eq_some_iff {r : Run} {outcome : Except Failure Unit} :
    r.outcome? = some outcome ↔ r.stage = .ended outcome := by
  cases hstage : r.stage <;> simp [outcome?, hstage]

/-- The beginning of a run. -/
def start (client : Client) (switch : Switch) : Run where
  client := client
  session := (Session.start (.ofConfig client.config)).connect client.config.coordinator.host
    client.config.coordinator.port
  stage := .connecting
  pump := none
  switch := switch
  metrics := .zero

/-- Let something happen to the session, if it can. -/
def onSession? (r : Run) (action : Session.Action) : Option Run :=
  (r.session.step? r.metrics action).map fun (session, metrics) => { r with session, metrics }

/-- The same, where it can. -/
def onSession (r : Run) (action : Session.Action) : Run := (r.onSession? action).getD r

section OnSession

variable {r next : Run}

/-- What happens to the session leaves the rest of the run alone. -/
theorem exists_of_onSession? {a : Session.Action} (h : r.onSession? a = some next) :
    ∃ session metrics, r.session.step? r.metrics a = some (session, metrics) ∧
      next = { r with session, metrics } := by
  obtain ⟨⟨session, metrics⟩, hsession, rfl⟩ := Option.map_eq_some_iff.1 h
  exact ⟨session, metrics, hsession, rfl⟩

/-- What may happen to the session leaves the rest of the run alone. -/
theorem exists_onSession_eq (r : Run) (a : Session.Action) :
    ∃ session metrics, r.onSession a = { r with session, metrics } := by
  unfold onSession
  cases h : r.onSession? a with
  | none => exact ⟨r.session, r.metrics, rfl⟩
  | some next =>
    obtain ⟨session, metrics, -, rfl⟩ := exists_of_onSession? h
    exact ⟨session, metrics, rfl⟩

/-- What may happen to the session happens to it, or the run stays as it is. -/
theorem onSession_cases (r : Run) (a : Session.Action) :
    r.onSession a = r ∨ r.onSession? a = some (r.onSession a) := by
  unfold onSession
  cases r.onSession? a with
  | none => exact Or.inl rfl
  | some next => exact Or.inr rfl

/-- What can happen to the session happens. -/
theorem onSession_of_step? {a : Session.Action} {session : Session} {metrics : Metrics}
    (h : r.session.step? r.metrics a = some (session, metrics)) :
    r.onSession a = { r with session, metrics } := by
  rw [onSession, onSession?, h]
  rfl

/-- Where no call waits receiving can be started. -/
@[simp] theorem onSession_startReceiving (hcall : r.session.call = none) :
    r.onSession .startReceiving = { r with session := r.session.startReceiving } :=
  onSession_of_step? (Session.call?_eq_some_iff.2 ⟨hcall, rfl⟩)

/-- Where no call waits the end of receiving can be waited for. -/
@[simp] theorem onSession_waitReceiver (hcall : r.session.call = none) :
    r.onSession .waitReceiver = { r with session := r.session.waitReceiver } :=
  onSession_of_step? (Session.call?_eq_some_iff.2 ⟨hcall, rfl⟩)

variable (r : Run) (a : Session.Action)

@[simp] theorem stage_onSession : (r.onSession a).stage = r.stage := by
  obtain ⟨_, _, h⟩ := r.exists_onSession_eq a
  rw [h]

@[simp] theorem pump_onSession : (r.onSession a).pump = r.pump := by
  obtain ⟨_, _, h⟩ := r.exists_onSession_eq a
  rw [h]

@[simp] theorem switch_onSession : (r.onSession a).switch = r.switch := by
  obtain ⟨_, _, h⟩ := r.exists_onSession_eq a
  rw [h]

end OnSession

/-! ## The pump -/

/-- The pump ends, and nobody takes inbound envelopes any more. -/
def endPump (r : Run) (pump : Pump) : Run :=
  { r with pump := some pump }.onSession (.inbound .leave)

@[simp] theorem pump_endPump (r : Run) (pump : Pump) : (r.endPump pump).pump = some pump := by
  rw [endPump, pump_onSession]

/-- Let the pump go on once its answer is sent or cannot be. -/
def settlePump (r : Run) : Run :=
  match r.pump, r.session.outbound with
  | some (.sending send), some o =>
    match o.result? send with
    | none => r
    | some (.ok ()) => { r with pump := some .waiting }
    | some (.error failure) => r.endPump (.ended (.error failure))
  | _, _ => r

/-- The pump goes on as it is, waits for the next envelope, or ends since its answer failed. -/
theorem settlePump_cases (r : Run) :
    r.settlePump = r ∨ r.settlePump = { r with pump := some .waiting } ∨
      ∃ failure, r.settlePump = r.endPump (.ended (.error failure)) := by
  unfold settlePump
  split
  · split
    · exact Or.inl rfl
    · exact Or.inr (Or.inl rfl)
    · exact Or.inr (Or.inr ⟨_, rfl⟩)
  · exact Or.inl rfl

/-- The pump hands an envelope to the dispatcher, and starts to send the answer if there is one. -/
def answer (r : Run) (e : Envelope) : Run :=
  let reply := r.client.dispatcher.reply? e
  let r := { r with metrics := r.metrics.countReply reply }
  match reply with
  | none => r
  | some reply =>
    let send := r.session.sends
    ({ r with pump := some (.sending send) }.onSession (.send reply)).settlePump

/-- The pump goes on, if it can. -/
def pump? (r : Run) : Option Run :=
  match r.pump, r.session.inbound with
  | some .waiting, some inbound =>
    match inbound.queue with
    | .ok e :: _ => (r.onSession? (.inbound .take)).map fun r => r.answer e
    | .error _ :: _ => r.onSession? (.inbound .take)
    | [] => if inbound.outcome?.isSome then some (r.endPump (.ended (.ok ()))) else none
  | some (.sending send), _ => (r.onSession? (.pollSend send)).map settlePump
  | _, _ => none

/-- Stop the pump, whatever it is doing. -/
def stopPump (r : Run) : Run :=
  match r.pump with
  | some .waiting => r.endPump .stopped
  | some (.sending send) => (r.onSession (.abandonSend send)).endPump .stopped
  | _ => r

/-! ## The runner -/

/-- Stop the pump because it is known how the run ends. -/
def stop (r : Run) (outcome : Except Failure Unit) : Run :=
  { r.stopPump with stage := .stopping outcome }

@[simp] theorem stage_stop (r : Run) (outcome : Except Failure Unit) :
    (r.stop outcome).stage = .stopping outcome := rfl

/-- Look at the switch, and stop if it is on. -/
def lookAtSwitch (r : Run) : Run :=
  let r := { r with switch := { r.switch with unseen := false } }
  if r.switch.on then r.stop (.ok ()) else { r with stage := .serving }

section LookAtSwitch

variable {r : Run}

/-- A runner that finds its switch on stops well. -/
@[simp] theorem lookAtSwitch_of_on (hon : r.switch.on = true) :
    r.lookAtSwitch = { r with switch := { r.switch with unseen := false } }.stop (.ok ()) :=
  if_pos hon

/-- A runner that finds its switch off goes on to serve, and has seen it. -/
@[simp] theorem lookAtSwitch_of_off (hoff : r.switch.on = false) :
    r.lookAtSwitch =
      { r with stage := .serving, switch := { r.switch with unseen := false } } :=
  if_neg (ne_true_of_eq_false hoff)

end LookAtSwitch

/-- Go on with closing. -/
def settleClosing (r : Run) (outcome : Except Failure Unit) : Run :=
  { r with stage := if r.session.call.isNone then .ended outcome else .closing outcome }

/-- Going on with closing waits for that or ends. -/
theorem settleClosing_cases (r : Run) (outcome : Except Failure Unit) :
    r.settleClosing outcome = { r with stage := .ended outcome } ∨
      r.settleClosing outcome = { r with stage := .closing outcome } := by
  cases hcall : r.session.call <;> simp [settleClosing, hcall]

/-- Close the session. -/
def close (r : Run) (outcome : Except Failure Unit) : Run :=
  (r.onSession .close).settleClosing outcome

/-- Start the pump and the heartbeat. -/
def serve (r : Run) : Run :=
  if !r.session.writer then r.close (.error (.internal .writerMissing))
  else
    let r := { r with pump := some .waiting }
    if r.client.config.session.heartbeat = 0 then { r with stage := .crashed } else r.lookAtSwitch

/-- Go on once the session has registered or failed to. -/
def settleRegistering (r : Run) : Run :=
  match r.session.call, r.session.lastReturn? with
  | none, some (.registered _) =>
    let r := r.onSession .startReceiving
    match r.session.lastReturn? with
    | some .done => r.serve
    | some (.failed failure) => r.close (.error failure)
    | _ => { r with stage := .crashed }
  | none, some (.failed failure) => r.close (.error failure)
  | _, _ => r

/-- Go on once the session is connected or failed to be. -/
def settleConnecting (r : Run) : Run :=
  match r.session.call, r.session.lastReturn? with
  | none, some .done =>
    let c := r.client.config.client
    ({ r with stage := .registering }.onSession (.register c.id c.paths)).settleRegistering
  | none, some (.failed failure) => { r with stage := .ended (.error failure) }
  | _, _ => r

/-- What waiting for the end of receiving has returned. -/
def returnedOutcome : Session.Return → Except Failure Unit
  | .failed failure => .error failure
  | _ => .ok ()

/-- Go on once the end of receiving is known. -/
def settleReceiver (r : Run) : Run :=
  match r.session.call, r.session.lastReturn? with
  | none, some returned => r.stop (returnedOutcome returned)
  | _, _ => { r with stage := .awaitingReceiver }

/-- Once the end of receiving is known the runner stops with it, and waits for it until then. -/
theorem settleReceiver_cases (r : Run) :
    (∃ returned, r.session.call = none ∧ r.session.lastReturn? = some returned ∧
        r.settleReceiver = r.stop (returnedOutcome returned)) ∨
      r.settleReceiver = { r with stage := .awaitingReceiver } := by
  cases hcall : r.session.call <;> cases hlast : r.session.lastReturn? <;>
    simp [settleReceiver, hcall, hlast]

/-- Go on where something that the runner waits for has happened. -/
def settle (r : Run) : Run :=
  let r := r.settlePump
  match r.stage with
  | .connecting => r.settleConnecting
  | .registering => r.settleRegistering
  | .awaitingReceiver => r.settleReceiver
  | .closing outcome => r.settleClosing outcome
  | _ => r

/-- Notice the end of receiving. -/
def noticeReceiver? (r : Run) : Option Run :=
  if r.session.unawaitedOutcome?.isSome then some (r.onSession .waitReceiver).settleReceiver
  else none

/-- Notice the end of the pump. -/
def noticePump? (r : Run) : Option Run :=
  match r.pump with
  | some (.ended (.ok ())) => some (r.onSession .waitReceiver).settleReceiver
  | some (.ended (.error failure)) => some (r.stop (.error failure))
  | _ => none

/-- Notice that the switch was set, or is gone. -/
def noticeSwitch? (r : Run) : Option Run :=
  if r.switch.unseen then some r.lookAtSwitch
  else if r.switch.gone then some (r.stop (.ok ()))
  else none

section Notice

variable {r next : Run}

/-- The end of receiving is noticed once it is known. -/
@[simp] theorem noticeReceiver?_eq_some_iff :
    r.noticeReceiver? = some next ↔ r.session.unawaitedOutcome?.isSome = true ∧
      (r.onSession .waitReceiver).settleReceiver = next := by
  simp [noticeReceiver?]

/-- The end of the pump is noticed once it has come to one. -/
@[simp] theorem noticePump?_eq_some_iff :
    r.noticePump? = some next ↔
      r.pump = some (.ended (.ok ())) ∧ (r.onSession .waitReceiver).settleReceiver = next ∨
        ∃ failure, r.pump = some (.ended (.error failure)) ∧ r.stop (.error failure) = next := by
  unfold noticePump?
  split
  · rename_i hended
    simp [hended]
  · rename_i failure hended
    simp [hended]
  · rename_i hgood hfailed
    simp only [reduceCtorEq, false_iff, not_or, not_and, not_exists]
    exact ⟨fun hended => absurd hended hgood, fun failure hended => absurd hended (hfailed failure)⟩

/-- The switch is noticed once it was set, or once it is gone. -/
@[simp] theorem noticeSwitch?_eq_some_iff :
    r.noticeSwitch? = some next ↔ r.switch.unseen = true ∧ r.lookAtSwitch = next ∨
      r.switch.unseen = false ∧ r.switch.gone = true ∧ r.stop (.ok ()) = next := by
  unfold noticeSwitch?
  cases hunseen : r.switch.unseen <;> simp

end Notice

/-- What can happen in a run. -/
inductive Action where
  | connected (peer : Option String)
  | refused (reason : String)
  | timedOut
  /-- Some bytes are read. -/
  | read (chunk : Bytes)
  /-- The coordinator sends no more. -/
  | readEnd
  | readFailure (reason : String)
  /-- Receiving looks again at what it waits for. -/
  | receive
  /-- The sink takes some bytes. -/
  | accept (count : Nat)
  /-- The sink has flushed a frame. -/
  | flush
  /-- Writing or flushing fails. -/
  | refuse (reason : String)
  /-- The pump goes on. -/
  | pump
  /-- The runner looks again at the call that it waits for. -/
  | poll
  | noticeSwitch
  | noticeReceiver
  | noticePump
  | heartbeat
  /-- The runner closes the session. -/
  | close
  /-- The switch is set. -/
  | set (on : Bool)
  /-- Nobody can set the switch any more. -/
  | drop
deriving DecidableEq, Repr

/-- Do something that only a runner that waits for something to notice does. -/
def whileServing? (r : Run) (next : Option Run) : Option Run :=
  match r.stage with
  | .serving => next
  | _ => none

/-- What an action leads to, if it can happen. -/
def step? (r : Run) : Action → Option Run
  | .connected peer => (r.onSession? (.connected peer)).map settle
  | .refused reason => (r.onSession? (.refused reason)).map settle
  | .timedOut => (r.onSession? .timedOut).map settle
  | .read chunk => r.onSession? (.inbound (.read chunk))
  | .readEnd => r.onSession? (.inbound .readEnd)
  | .readFailure reason => r.onSession? (.inbound (.readFailure reason))
  | .receive => r.onSession? (.inbound .resume)
  | .accept count => (r.onSession? (.accept count)).map settle
  | .flush => (r.onSession? .flush).map settle
  | .refuse reason => (r.onSession? (.refuse reason)).map settle
  | .pump => r.pump?
  | .poll => (r.onSession? .poll).map settle
  | .noticeSwitch => r.whileServing? r.noticeSwitch?
  | .noticeReceiver => r.whileServing? r.noticeReceiver?
  | .noticePump => r.whileServing? r.noticePump?
  | .heartbeat => r.whileServing? (some r.lookAtSwitch)
  | .close =>
    match r.stage with
    | .stopping outcome => some (r.close outcome)
    | _ => none
  | .set on => if r.switch.gone then none else some { r with switch := r.switch.set on }
  | .drop => some { r with switch := { r.switch with gone := true } }

end Run

end Courier
