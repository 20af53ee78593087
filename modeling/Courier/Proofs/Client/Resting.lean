import Courier.Proofs.Client.Step
import Courier.Proofs.Session.ReceivingStep

/-!
# Runs that have nothing more to write

Once the pump has ended or was stopped a run writes nothing more. Whatever happens then, the sink
keeps what it has taken, nothing is counted but what is received (`OnlyDisturbs`), and a runner that
no longer serves does not serve again (`StaysResting`).
-/

namespace Courier

namespace Run

variable {client : Client} {written : Bytes} {r next : Run} {action : Action}

/-! ## What at most disturbs receiving -/

/-- The pump is where it was and nothing is counted, but receiving may be disturbed. -/
structure OnlyDisturbs (r next : Run) : Prop where
  pump : next.pump = r.pump
  metrics : next.metrics = r.metrics
  inbound : next.session.inbound = r.session.inbound ∨
    next.session.inbound = r.session.inbound.map fun i => { i with disturbed := true }

/-- Whether an action concerns what is received, or is sure to be counted. -/
def isBusy : Session.Action → Bool
  | .inbound _ | .flush | .startReceiving => true
  | _ => false

/-- What neither receives nor flushes at most disturbs receiving. -/
theorem onlyDisturbs_onSession? {a : Session.Action} (ha : isBusy a = false)
    (h : r.onSession? a = some next) : OnlyDisturbs r next := by
  obtain ⟨session, metrics, hsession, rfl⟩ := exists_of_onSession? h
  have hreceiving := Session.receivingStep_of_step? hsession
  generalize hafter : session.inbound = after at hreceiving
  cases hreceiving with
  | received | flushed | started => cases ha
  | closed => exact ⟨rfl, rfl, Or.inr hafter⟩
  | silent => exact ⟨rfl, rfl, Or.inl hafter⟩

/-- What neither receives nor flushes, if it can happen, at most disturbs receiving. -/
theorem onlyDisturbs_onSession (r : Run) {a : Session.Action} (ha : isBusy a = false) :
    OnlyDisturbs r (r.onSession a) := by
  rcases r.onSession_cases a with hsame | hnext
  · rw [hsame]
    exact ⟨rfl, rfl, Or.inl rfl⟩
  · exact onlyDisturbs_onSession? ha hnext

/-- What a runner comes to by going on. -/
theorem OnlyDisturbs.of_same (h : OnlyDisturbs r next) {last : Run}
    (hsession : last.session = next.session) (hpump : last.pump = next.pump)
    (hmetrics : last.metrics = next.metrics) : OnlyDisturbs r last :=
  ⟨hpump.trans h.pump, hmetrics.trans h.metrics, hsession ▸ h.inbound⟩

/-! ## Rest -/

/-- Whether the session is still being opened. -/
def Stage.isOpening : Stage → Bool
  | .connecting | .registering => true
  | _ => false

/-- Whether the pump still answers. -/
def Pump.isLive : Pump → Bool
  | .waiting | .sending _ => true
  | _ => false

/-- A run of a client has been opened or given up, and nobody answers any more. -/
structure Resting (client : Client) (written : Bytes) (r : Run) : Prop where
  client_eq : r.client = client
  stage : r.stage.isOpening = false
  pump : r.pump.any Pump.isLive = false
  quiet : r.session.Quiet
  written_eq : r.session.written = written

/-- What happens to a quiet session leaves the rest of the run alone. -/
theorem exists_onSession (r : Run) {action : Session.Action} (haction : action.isOpening = false)
    (hquiet : r.session.Quiet) :
    ∃ session metrics, r.onSession action = { r with session, metrics } ∧ session.Quiet ∧
      session.written = r.session.written := by
  rcases r.onSession_cases action with hsame | hnext
  · exact ⟨r.session, r.metrics, hsame, hquiet, rfl⟩
  · obtain ⟨session, metrics, hsession, hafter⟩ := exists_of_onSession? hnext
    exact ⟨session, metrics, hafter, hquiet.step haction hsession⟩

/-- A session goes on at rest. -/
theorem Resting.onSession? (h : r.Resting client written) {action : Session.Action}
    (haction : action.isOpening = false) (hstep : r.onSession? action = some next) :
    next.Resting client written ∧ next.stage = r.stage := by
  obtain ⟨⟨session, metrics⟩, hsession, rfl⟩ := Option.map_eq_some_iff.1 hstep
  obtain ⟨hquiet, hwritten⟩ := h.quiet.step haction hsession
  exact ⟨⟨h.client_eq, h.stage, h.pump, hquiet, hwritten.trans h.written_eq⟩, rfl⟩

/-- A session that may go on does so at rest. -/
theorem Resting.onSession (h : r.Resting client written) {action : Session.Action}
    (haction : action.isOpening = false) :
    (r.onSession action).Resting client written ∧ (r.onSession action).stage = r.stage := by
  obtain ⟨session, metrics, hsession, hquiet, hwritten⟩ := r.exists_onSession haction h.quiet
  rw [hsession]
  exact ⟨⟨h.client_eq, h.stage, h.pump, hquiet, hwritten.trans h.written_eq⟩, rfl⟩

/-- Another stage that does not open the session is as good. -/
theorem Resting.withStage (h : r.Resting client written) {stage : Stage}
    (hstage : stage.isOpening = false) :
    { r with stage }.Resting client written :=
  ⟨h.client_eq, hstage, h.pump, h.quiet, h.written_eq⟩

/-- Where nobody answers there is no pump to settle. -/
theorem settlePump_of_not_live (hpump : r.pump.any Pump.isLive = false) : r.settlePump = r := by
  unfold settlePump
  split
  · rename_i hsending _
    simp [hsending, Pump.isLive] at hpump
  · rfl

/-- Stopping ends a pump that still answers, whose answer is abandoned if it sends one. -/
theorem stopPump_cases (r : Run) :
    r.pump.any Pump.isLive = false ∧ r.stopPump = r ∨ r.pump.any Pump.isLive = true ∧
      (r.stopPump = r.endPump .stopped ∨
        ∃ send, r.stopPump = (r.onSession (.abandonSend send)).endPump .stopped) := by
  unfold stopPump
  cases hpump : r.pump with
  | none => exact Or.inl ⟨rfl, rfl⟩
  | some pump =>
    cases pump with
    | waiting => exact Or.inr ⟨rfl, Or.inl rfl⟩
    | sending send => exact Or.inr ⟨rfl, Or.inr ⟨send, rfl⟩⟩
    | ended | stopped => exact Or.inl ⟨rfl, rfl⟩

/-- Where nobody answers there is no pump to stop. -/
theorem stopPump_of_not_live (hpump : r.pump.any Pump.isLive = false) : r.stopPump = r := by
  rcases r.stopPump_cases with ⟨-, hsame⟩ | ⟨hlive, -⟩
  · exact hsame
  · cases hpump.symm.trans hlive

/-- Where nobody answers there is no pump to go on. -/
theorem pump?_of_not_live (hpump : r.pump.any Pump.isLive = false) : r.pump? = none := by
  unfold pump?
  split
  · rename_i hwaiting _
    simp [hwaiting, Pump.isLive] at hpump
  · rename_i hsending
    simp [hsending, Pump.isLive] at hpump
  · rfl

/-- Going on with closing a quiet session writes nothing, and does not serve again. -/
theorem resting_settleClosing (hclient : r.client = client) (hpump : r.pump.any Pump.isLive = false)
    (hquiet : r.session.Quiet) (outcome : Except Failure Unit) :
    (r.settleClosing outcome).Resting client r.session.written ∧
      (r.settleClosing outcome).stage ≠ .serving := by
  rcases r.settleClosing_cases outcome with hclosed | hclosed <;> rw [hclosed] <;>
    exact ⟨⟨hclient, rfl, hpump, hquiet, rfl⟩, Stage.noConfusion⟩

/-- Closing a quiet session writes nothing, and does not serve again. -/
theorem resting_close (hclient : r.client = client) (hpump : r.pump.any Pump.isLive = false)
    (hquiet : r.session.Quiet) (outcome : Except Failure Unit) :
    (r.close outcome).Resting client r.session.written ∧ (r.close outcome).stage ≠ .serving := by
  obtain ⟨session, metrics, hsession, hstill, hwritten⟩ := r.exists_onSession
    (rfl : Session.Action.close.isOpening = false) hquiet
  rw [Run.close, hsession, ← hwritten]
  exact resting_settleClosing (r := { r with session, metrics }) hclient hpump hstill outcome

/-! ## Going on at rest -/

/-- What a run at rest comes to by going on: it stays at rest, nothing is counted, and it serves
only if it did so before. -/
structure StaysResting (client : Client) (written : Bytes) (r next : Run) : Prop where
  resting : next.Resting client written
  onlyDisturbs : OnlyDisturbs r next
  serving : next.stage = .serving → r.stage = .serving

/-- A run at rest may stay as it is. -/
theorem Resting.staysResting (h : r.Resting client written) : StaysResting client written r r :=
  ⟨h, ⟨rfl, rfl, Or.inl rfl⟩, id⟩

/-- A run at rest may come to another stage. -/
theorem StaysResting.withStage (h : StaysResting client written r next) {stage : Stage}
    (hstage : stage.isOpening = false) (hserving : stage = .serving → r.stage = .serving) :
    StaysResting client written r { next with stage } :=
  ⟨h.resting.withStage hstage, h.onlyDisturbs.of_same rfl rfl rfl, hserving⟩

/-- At rest the switch may change. -/
theorem StaysResting.withSwitch (h : StaysResting client written r next) (switch : Switch) :
    StaysResting client written r { next with switch } :=
  ⟨⟨h.resting.client_eq, h.resting.stage, h.resting.pump, h.resting.quiet, h.resting.written_eq⟩,
    h.onlyDisturbs.of_same rfl rfl rfl, h.serving⟩

/-- A session that may go on does so at rest. -/
theorem Resting.staysResting_onSession (h : r.Resting client written) {a : Session.Action}
    (hopening : a.isOpening = false) (hbusy : isBusy a = false) :
    StaysResting client written r (r.onSession a) := by
  obtain ⟨hresting, hstage⟩ := h.onSession hopening
  exact ⟨hresting, r.onlyDisturbs_onSession hbusy, fun hserving => hstage ▸ hserving⟩

/-- At rest stopping comes to another stage. -/
theorem stop_eq_of_not_live (hpump : r.pump.any Pump.isLive = false)
    (outcome : Except Failure Unit) : r.stop outcome = { r with stage := .stopping outcome } := by
  unfold stop
  rw [stopPump_of_not_live hpump]

/-- Stopping writes nothing. -/
theorem StaysResting.stop (h : StaysResting client written r next) (outcome : Except Failure Unit) :
    StaysResting client written r (next.stop outcome) := by
  rw [stop_eq_of_not_live h.resting.pump]
  exact h.withStage rfl Stage.noConfusion

/-- Looking at the switch writes nothing. -/
theorem StaysResting.lookAtSwitch (h : StaysResting client written r next)
    (hserving : r.stage = .serving) :
    StaysResting client written r next.lookAtSwitch := by
  have hseen := h.withSwitch { next.switch with unseen := false }
  cases hon : next.switch.on with
  | true =>
    rw [lookAtSwitch_of_on hon]
    exact hseen.stop _
  | false =>
    rw [lookAtSwitch_of_off hon]
    exact hseen.withStage rfl fun _ => hserving

/-- Going on at the end of receiving writes nothing, and does not serve again. -/
theorem StaysResting.settleReceiver (h : StaysResting client written r next) :
    StaysResting client written r next.settleReceiver := by
  rcases next.settleReceiver_cases with ⟨_, -, -, hstop⟩ | hwait
  · rw [hstop]
    exact h.stop _
  · rw [hwait]
    exact h.withStage rfl Stage.noConfusion

/-- Going on writes nothing, and does not serve again. -/
theorem StaysResting.settle (h : StaysResting client written r next) :
    StaysResting client written r next.settle := by
  have hstage := h.resting.stage
  unfold Run.settle
  rw [settlePump_of_not_live h.resting.pump]
  dsimp only
  split
  · rename_i hconnecting
    simp [hconnecting, Stage.isOpening] at hstage
  · rename_i hregistering
    simp [hregistering, Stage.isOpening] at hstage
  · exact h.settleReceiver
  · obtain ⟨hresting, hstop⟩ :=
      resting_settleClosing h.resting.client_eq h.resting.pump h.resting.quiet _
    exact ⟨h.resting.written_eq ▸ hresting, h.onlyDisturbs.of_same rfl rfl rfl,
      fun hserving => absurd hserving hstop⟩
  · exact h

/-- At rest nothing is flushed. -/
theorem Resting.action_ne_flush (h : r.Resting client written)
    (hstep : r.step? action = some next) :
    action ≠ .flush := by
  rintro rfl
  obtain ⟨after, hafter, -⟩ := Option.map_eq_some_iff.1 hstep
  obtain ⟨_, _, hsession, -⟩ := exists_of_onSession? hafter
  obtain ⟨o, _, ho, hflush, -⟩ := Session.exists_of_outbound? h.quiet.call hsession
  exact (h.quiet.outbound o ho).not_step rfl hflush

/-- What an action means for the session opens nothing, and is sure to be counted only if it is a
flush. -/
theorem isOpening_of_session? {a : Session.Action} (h : action.session? = some a) :
    a.isOpening = false ∧ (action ≠ .flush → isBusy a = false) := by
  cases action <;> cases h <;> first | exact ⟨rfl, fun _ => rfl⟩ | exact ⟨rfl, absurd rfl⟩

/-- Whatever happens at rest besides receiving, nothing is written or counted. -/
theorem Resting.goesOn (h : r.Resting client written) (haction : action.inbound? = none)
    (hstep : r.step? action = some next) : StaysResting client written r next := by
  have hwaits : StaysResting client written r (r.onSession .waitReceiver).settleReceiver :=
    (h.staysResting_onSession rfl rfl).settleReceiver
  cases step_of_step? hstep with
  | inbound hinbound => cases haction.symm.trans hinbound
  | @session _ a after hsession hafter =>
    obtain ⟨hopening, hbusy⟩ := isOpening_of_session? hsession
    obtain ⟨hresting, hstage⟩ := h.onSession? hopening hafter
    have hstays : StaysResting client written r after :=
      ⟨hresting, onlyDisturbs_onSession? (hbusy (h.action_ne_flush hstep)) hafter,
        fun hserving => hstage ▸ hserving⟩
    exact hstays.settle
  | pump hnext =>
    rw [pump?_of_not_live h.pump] at hnext
    cases hnext
  | noticeSwitch hserving hnotice =>
    rcases noticeSwitch?_eq_some_iff.1 hnotice with ⟨-, rfl⟩ | ⟨-, -, rfl⟩
    · exact h.staysResting.lookAtSwitch hserving
    · exact h.staysResting.stop _
  | noticeReceiver _ hnotice =>
    obtain ⟨-, rfl⟩ := noticeReceiver?_eq_some_iff.1 hnotice
    exact hwaits
  | noticePump _ hnotice =>
    rcases noticePump?_eq_some_iff.1 hnotice with ⟨-, rfl⟩ | ⟨_, -, rfl⟩
    · exact hwaits
    · exact h.staysResting.stop _
  | heartbeat hserving => exact h.staysResting.lookAtSwitch hserving
  | close =>
    obtain ⟨hresting, hstop⟩ := resting_close h.client_eq h.pump h.quiet _
    exact ⟨h.written_eq ▸ hresting, (r.onlyDisturbs_onSession rfl).of_same rfl rfl rfl,
      fun hserving => absurd hserving hstop⟩
  | set | drop => exact h.staysResting.withSwitch _

/-- Whatever happens at rest, nothing is written, and the runner does not serve again. -/
theorem Resting.step (h : r.Resting client written) (hstep : r.step? action = some next) :
    next.Resting client written ∧ (next.stage = .serving → r.stage = .serving) := by
  cases haction : action.inbound? with
  | none =>
    have hstays := h.goesOn haction hstep
    exact ⟨hstays.resting, hstays.serving⟩
  | some a =>
    obtain ⟨hresting, hstage⟩ := h.onSession? rfl (onSession?_of_inbound? haction hstep)
    exact ⟨hresting, fun hserving => hstage ▸ hserving⟩

end Run

end Courier
