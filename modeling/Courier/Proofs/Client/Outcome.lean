import Courier.Proofs.Client.SameForRunner
import Courier.Proofs.Client.Replying
import Courier.Proofs.Steps

/-!
# How a run ends

A runner ends for what it has noticed, and only the first notice counts: its switch, the end of
receiving, or the end of the pump (`Reason`). The outcome is known by then, and nothing that comes
later changes it (`OutcomeAtStage`). When receiving and the pump have both ended, it is left open
which of them is noticed; what the other one would have said is lost.
-/

namespace Courier

namespace Run

/-- Whether an action asks the runner to stop. -/
def Action.asks : Action → Bool
  | .set on => on
  | .drop => true
  | _ => false

/-- Whether the runner was asked to stop, from the beginning or by some action. -/
def asked (switch : Switch) (actions : List Action) : Bool :=
  switch.on || switch.gone || actions.any Action.asks

/-- Why a run ends with an outcome. -/
inductive Reason (switch : Switch) (actions : List Action) (r : Run) :
    Except Failure Unit → Prop where
  /-- The session was not opened. -/
  | unopened (failure : Failure) (hpump : r.pump = none) : Reason switch actions r (.error failure)
  | asked (h : asked switch actions = true) : Reason switch actions r (.ok ())
  /-- The end of receiving was noticed, whatever the pump had come to. -/
  | receiver (outcome : Except Failure Unit) (hnotice : .noticeReceiver ∈ actions)
      (hother : .noticePump ∉ actions) (h : r.session.received? = some outcome) :
    Reason switch actions r outcome
  /-- The pump failed, and this was noticed. -/
  | failed (failure : Failure) (hnotice : .noticePump ∈ actions)
      (hother : .noticeReceiver ∉ actions) (hpump : r.pump = some (.ended (.error failure))) :
    Reason switch actions r (.error failure)
  /-- The pump was drained, and this was noticed. -/
  | drained (outcome : Except Failure Unit) (hnotice : .noticePump ∈ actions)
      (hother : .noticeReceiver ∉ actions) (hpump : r.pump = some (.ended (.ok ())))
      (h : r.session.received? = some outcome) : Reason switch actions r outcome

/-- Where the switch was set or is gone, the runner was asked to stop. -/
def SwitchAsked (switch : Switch) (actions : List Action) (r : Run) : Prop :=
  r.switch.on = true ∨ r.switch.gone = true → asked switch actions = true

/-- A run whose session is being opened. -/
structure Unopened (switch : Switch) (actions : List Action) (r : Run) : Prop where
  stage : r.stage.isOpening = true
  pump : r.pump = none
  switchAsked : SwitchAsked switch actions r
  receiver : .noticeReceiver ∉ actions
  noticed : .noticePump ∉ actions

/-- A run whose runner waits for something to notice. -/
structure Serving (switch : Switch) (actions : List Action) (r : Run) : Prop where
  stage : r.stage = .serving
  call : r.session.call = none
  unawaited : r.session.unawaited = true
  drained (h : r.pump = some (.ended (.ok ()))) : r.session.received?.isSome = true
  switchAsked : SwitchAsked switch actions r
  receiver : .noticeReceiver ∉ actions
  noticed : .noticePump ∉ actions

/-- A run whose outcome is known, with a reason. -/
structure OutcomeKnown (switch : Switch) (actions : List Action) (outcome : Except Failure Unit)
    (r : Run) : Prop where
  stage : r.stage = .stopping outcome ∨ r.stage = .closing outcome ∨ r.stage = .ended outcome
  pump : r.pump.any Pump.isLive = false
  reason : Reason switch actions r outcome

/-- What a runner knows at each stage. -/
inductive OutcomeAtStage (switch : Switch) (actions : List Action) (r : Run) : Prop where
  | unopened (h : Unopened switch actions r)
  | serving (h : Serving switch actions r)
  | crashed (hstage : r.stage = .crashed)
  | ending {outcome : Except Failure Unit} (h : OutcomeKnown switch actions outcome r)

variable {client : Client} {switch : Switch} {actions : List Action} {action : Action}
  {r next : Run} {outcome : Except Failure Unit}

/-! ## The switch -/

/-- Asking goes on to have happened. -/
theorem asked_snoc (h : asked switch actions = true) (action : Action) :
    asked switch (actions ++ [action]) = true := by
  rw [asked, List.any_append, ← Bool.or_assoc]
  rw [asked] at h
  rw [h, Bool.true_or]

/-- The last action may be the one that asks. -/
theorem asked_of_asks (h : action.asks = true) : asked switch (actions ++ [action]) = true := by
  simp [asked, h]

/-- What was asked goes on to be heeded while the switch stays. -/
theorem SwitchAsked.of_switch (h : SwitchAsked switch actions r)
    (hon : next.switch.on = r.switch.on)
    (hgone : next.switch.gone = r.switch.gone) : SwitchAsked switch actions next := by
  rw [SwitchAsked, hon, hgone]
  exact h

/-- What was asked goes on to be heeded. -/
theorem SwitchAsked.snoc (h : SwitchAsked switch actions r) (action : Action) :
    SwitchAsked switch (actions ++ [action]) r := fun htouched => asked_snoc (h htouched) action

/-- Setting the switch asks the runner to stop, if it is turned on. -/
theorem SwitchAsked.set (h : SwitchAsked switch actions r) (on : Bool) :
    SwitchAsked switch (actions ++ [.set on]) { r with switch := r.switch.set on } := by
  rintro (hon | hgone)
  · exact asked_of_asks hon
  · exact asked_snoc (h (Or.inr hgone)) _

/-- Letting the switch go asks the runner to stop. -/
theorem switchAsked_drop (switch : Switch) (actions : List Action) (r : Run) :
    SwitchAsked switch (actions ++ [.drop]) { r with switch := { r.switch with gone := true } } :=
  fun _ => asked_of_asks rfl

/-! ## Reasons -/

/-- A reason depends on the pump and on how receiving ended alone. -/
theorem Reason.of_same (h : Reason switch actions r outcome) (hpump : next.pump = r.pump)
    (hreceived : ∀ o, r.session.received? = some o → next.session.received? = some o) :
    Reason switch actions next outcome := by
  cases h with
  | unopened failure hnone => exact .unopened failure (hpump.trans hnone)
  | asked hasked => exact .asked hasked
  | receiver _ hnotice hother hended => exact .receiver outcome hnotice hother (hreceived _ hended)
  | failed failure hnotice hother hfailed =>
    exact .failed failure hnotice hother (hpump.trans hfailed)
  | drained _ hnotice hother hdrained hended =>
    exact .drained outcome hnotice hother (hpump.trans hdrained) (hreceived _ hended)

/-- What does not notice anything leaves the reasons as they are. -/
theorem Reason.snoc (h : Reason switch actions r outcome) (hreceiver : action ≠ .noticeReceiver)
    (hpump : action ≠ .noticePump) : Reason switch (actions ++ [action]) r outcome := by
  have hmore {a : Action} (ha : a ∈ actions) : a ∈ actions ++ [action] :=
    List.mem_append_left _ ha
  have hless {a : Action} (hne : action ≠ a) (ha : a ∉ actions) : a ∉ actions ++ [action] := by
    simp [ha, hne.symm]
  cases h with
  | unopened failure hnone => exact .unopened failure hnone
  | asked hasked => exact .asked (asked_snoc hasked action)
  | receiver _ hnotice hother hended =>
    exact .receiver outcome (hmore hnotice) (hless hpump hother) hended
  | failed failure hnotice hother hfailed =>
    exact .failed failure (hmore hnotice) (hless hreceiver hother) hfailed
  | drained _ hnotice hother hdrained hended =>
    exact .drained outcome (hmore hnotice) (hless hreceiver hother) hdrained hended

/-- A pump that has ended is not stopped, and a reason to stop goes on to hold. -/
theorem Reason.stopPump (h : Reason switch actions r outcome) :
    Reason switch actions r.stopPump outcome := by
  have hstopped {pump : Option Pump} (hpump : r.pump = pump)
      (hlive : pump.any Pump.isLive = false) : r.stopPump = r :=
    stopPump_of_not_live (by rw [hpump]; exact hlive)
  cases h with
  | unopened failure hnone =>
    rw [hstopped hnone rfl]
    exact .unopened failure hnone
  | asked hasked => exact .asked hasked
  | receiver _ hnotice hother hended =>
    exact .receiver outcome hnotice hother ((sameForRunner_stopPump r).1.received outcome hended)
  | failed failure hnotice hother hfailed =>
    rw [hstopped hfailed rfl]
    exact .failed failure hnotice hother hfailed
  | drained _ hnotice hother hdrained hended =>
    rw [hstopped hdrained rfl]
    exact .drained outcome hnotice hother hdrained hended

/-- Where there is a reason to stop, the runner stops for it. -/
theorem outcomeKnown_stop (h : Reason switch actions r outcome) :
    OutcomeKnown switch actions outcome (r.stop outcome) :=
  ⟨Or.inl rfl, (sameForRunner_stopPump r).2, h.stopPump.of_same rfl fun _ ho => ho⟩

/-! ## Opening -/

/-- What notices nothing leaves the session to be opened. -/
theorem Unopened.snoc (h : Unopened switch actions r) (hreceiver : action ≠ .noticeReceiver)
    (hpump : action ≠ .noticePump) : Unopened switch (actions ++ [action]) r where
  stage := h.stage
  pump := h.pump
  switchAsked := h.switchAsked.snoc action
  receiver := by simp [h.receiver, hreceiver.symm]
  noticed := by simp [h.noticed, hpump.symm]

/-- The session goes on to be opened at the same stage. -/
theorem Unopened.of_session (h : Unopened switch actions r) (session : Session)
    (metrics : Metrics) : Unopened switch actions { r with session, metrics } :=
  ⟨h.stage, h.pump, h.switchAsked, h.receiver, h.noticed⟩

/-- A session that cannot be opened is closed, and the run ends with the failure. -/
theorem outcomeKnown_close (hpump : r.pump = none) (failure : Failure) :
    OutcomeKnown switch actions (.error failure) (r.close (.error failure)) := by
  have hnone : (r.close (.error failure)).pump = none := (pump_onSession r .close).trans hpump
  refine ⟨?_, by rw [hnone]; rfl, .unopened failure hnone⟩
  rcases (r.onSession .close).settleClosing_cases (.error failure) with hclosed | hclosed
  · exact Or.inr (Or.inr (congrArg Run.stage hclosed))
  · exact Or.inr (Or.inl (congrArg Run.stage hclosed))

/-- Receiving that was started can be waited for. -/
theorem unawaited_of_done {s : Session} (h : s.startReceiving.lastReturn? = some .done) :
    s.startReceiving.call = none ∧ s.startReceiving.unawaited = true := by
  rcases s.startReceiving_cases with ⟨-, _, hfailed⟩ | ⟨-, ⟨-, hcrashed⟩ | ⟨-, hstarted⟩⟩
  · simp [hfailed] at h
  · simp [hcrashed] at h
  · rw [hstarted]
    exact ⟨rfl, rfl⟩

/-- A runner that looks at the switch serves, or stops since it was asked to. -/
theorem outcomeAtStage_lookAtSwitch
    (h : Serving switch actions
      { r with stage := .serving, switch := { r.switch with unseen := false } }) :
    OutcomeAtStage switch actions r.lookAtSwitch := by
  cases hon : r.switch.on with
  | true =>
    rw [lookAtSwitch_of_on hon]
    exact .ending (outcomeKnown_stop (.asked (h.switchAsked (Or.inl hon))))
  | false =>
    rw [lookAtSwitch_of_off hon]
    exact .serving h

/-- A run that has registered serves, or ends. -/
theorem Unopened.settleRegistering (h : Unopened switch actions r) :
    OutcomeAtStage switch actions r.settleRegistering := by
  unfold Run.settleRegistering
  split
  · rename_i hcall _
    have hclose (failure : Failure) : OutcomeAtStage switch actions
        ({ r with session := r.session.startReceiving }.close (.error failure)) :=
      .ending
        (outcomeKnown_close (r := { r with session := r.session.startReceiving }) h.pump failure)
    rw [onSession_startReceiving hcall]
    dsimp only
    split
    · rename_i hdone
      obtain ⟨hidle, hunawaited⟩ := unawaited_of_done hdone
      unfold serve
      split
      · exact hclose _
      · dsimp only
        split
        · exact .crashed rfl
        · apply outcomeAtStage_lookAtSwitch
          exact {
            stage := rfl
            call := hidle
            unawaited := hunawaited
            drained := by
              intro hended
              cases hended
            switchAsked := h.switchAsked
            receiver := h.receiver
            noticed := h.noticed }
    · exact hclose _
    · exact .crashed rfl
  · exact .ending (outcomeKnown_close h.pump _)
  · exact .unopened h

/-- A run that has connected registers, serves, or ends. -/
theorem Unopened.settleConnecting (h : Unopened switch actions r) :
    OutcomeAtStage switch actions r.settleConnecting := by
  unfold Run.settleConnecting
  split
  · obtain ⟨session, metrics, hregister⟩ := exists_onSession_eq { r with stage := .registering }
      (.register r.client.config.client.id r.client.config.client.paths)
    dsimp only
    rw [hregister]
    have hregistering :
        Unopened switch actions { r with stage := .registering, session, metrics } :=
      ⟨rfl, h.pump, h.switchAsked, h.receiver, h.noticed⟩
    exact hregistering.settleRegistering
  · exact .ending ⟨Or.inr (Or.inr rfl), by rw [h.pump]; rfl, .unopened _ h.pump⟩
  · exact .unopened h

/-- A run whose session is being opened goes on to open it, serves, or ends. -/
theorem Unopened.settle (h : Unopened switch actions r) :
    OutcomeAtStage switch actions r.settle := by
  have hstage := h.stage
  unfold Run.settle
  rw [settlePump_of_not_live (by rw [h.pump]; rfl)]
  dsimp only
  split
  · exact h.settleConnecting
  · exact h.settleRegistering
  · rename_i hawaiting
    rw [hawaiting] at hstage
    cases hstage
  · rename_i hclosing
    rw [hclosing] at hstage
    cases hstage
  · exact .unopened h

/-! ## Serving -/

/-- What notices nothing leaves the runner serving. -/
theorem Serving.snoc (h : Serving switch actions r) (hreceiver : action ≠ .noticeReceiver)
    (hpump : action ≠ .noticePump) : Serving switch (actions ++ [action]) r where
  stage := h.stage
  call := h.call
  unawaited := h.unawaited
  drained := h.drained
  switchAsked := h.switchAsked.snoc action
  receiver := by simp [h.receiver, hreceiver.symm]
  noticed := by simp [h.noticed, hpump.symm]

/-- The runner goes on to serve while something happens beside it. -/
theorem Serving.sameForRunner (h : Serving switch actions r) (hrunner : SameForRunner r next)
    (hdrained : next.pump = some (.ended (.ok ())) →
      r.pump = some (.ended (.ok ())) ∨ PumpDrained r next) : Serving switch actions next where
  stage := hrunner.stage.trans h.stage
  call := (hrunner.idle h.call).1
  unawaited := (hrunner.idle h.call).2.trans h.unawaited
  drained hpump := by
    have hreceived : r.session.received?.isSome = true := by
      rcases hdrained hpump with hbefore | hempty
      · exact h.drained hbefore
      · obtain ⟨i, hi, -, hended⟩ := hempty.receiving
        rw [Session.received?, hi]
        exact hended
    obtain ⟨o, ho⟩ := Option.isSome_iff_exists.1 hreceived
    rw [hrunner.received o ho]
    rfl
  switchAsked := h.switchAsked.of_switch (by rw [hrunner.switch]) (by rw [hrunner.switch])
  receiver := h.receiver
  noticed := h.noticed

/-- Only the switch changes. -/
theorem Serving.withSwitch (h : Serving switch actions r) {touched : Switch}
    (hswitch : SwitchAsked switch actions { r with switch := touched }) :
    Serving switch actions { r with switch := touched } where
  stage := h.stage
  call := h.call
  unawaited := h.unawaited
  drained := h.drained
  switchAsked := hswitch
  receiver := h.receiver
  noticed := h.noticed

/-- A runner that looks at the switch goes on to serve, or stops since it was asked to. -/
theorem Serving.lookAtSwitch (h : Serving switch actions r) :
    OutcomeAtStage switch actions r.lookAtSwitch :=
  outcomeAtStage_lookAtSwitch
    ⟨rfl, h.call, h.unawaited, h.drained, h.switchAsked, h.receiver, h.noticed⟩

/-- A runner that notices the switch looks at it, or stops since nobody can set it any more. -/
theorem Serving.noticeSwitch? (h : Serving switch actions r)
    (hnext : r.noticeSwitch? = some next) : OutcomeAtStage switch actions next := by
  rcases noticeSwitch?_eq_some_iff.1 hnext with ⟨-, rfl⟩ | ⟨-, hgone, rfl⟩
  · exact h.lookAtSwitch
  · exact .ending (outcomeKnown_stop (.asked (h.switchAsked (Or.inr hgone))))

/-- A runner that waits for an end of receiving that is known already stops for it, and it stays
known. -/
theorem settleReceiver_of_received? (hcall : r.session.call = none)
    (hunawaited : r.session.unawaited = true) (h : r.session.received? = some outcome) :
    ∃ session, (r.onSession .waitReceiver).settleReceiver = { r with session }.stop outcome ∧
      session.received? = some outcome := by
  have hknown : r.session.unawaitedOutcome? = some outcome := by
    rw [Session.unawaitedOutcome?, if_pos hunawaited]
    exact h
  exact ⟨_, settleReceiver_of_unawaitedOutcome? hcall hknown, h⟩

/-- A runner that notices the end of receiving stops for it. -/
theorem Serving.noticeReceiver? (h : Serving switch actions r)
    (hnext : r.noticeReceiver? = some next) :
    OutcomeAtStage switch (actions ++ [.noticeReceiver]) next := by
  have hother : Action.noticePump ∉ actions ++ [.noticeReceiver] := by simp [h.noticed]
  obtain ⟨hsome, rfl⟩ := noticeReceiver?_eq_some_iff.1 hnext
  rw [Session.unawaitedOutcome?, if_pos h.unawaited] at hsome
  obtain ⟨outcome, houtcome⟩ := Option.isSome_iff_exists.1 hsome
  obtain ⟨session, hstop, hended⟩ := settleReceiver_of_received? h.call h.unawaited houtcome
  rw [hstop]
  exact .ending (outcomeKnown_stop (.receiver outcome (by simp) hother hended))

/-- A runner that notices the end of the pump stops for it, or for the end of receiving if the pump
was drained. -/
theorem Serving.noticePump? (h : Serving switch actions r) (hnext : r.noticePump? = some next) :
    OutcomeAtStage switch (actions ++ [.noticePump]) next := by
  have hother : Action.noticeReceiver ∉ actions ++ [.noticePump] := by simp [h.receiver]
  rcases noticePump?_eq_some_iff.1 hnext with ⟨hdrained, rfl⟩ | ⟨failure, hfailed, rfl⟩
  · obtain ⟨outcome, houtcome⟩ := Option.isSome_iff_exists.1 (h.drained hdrained)
    obtain ⟨session, hstop, hended⟩ := settleReceiver_of_received? h.call h.unawaited houtcome
    rw [hstop]
    exact .ending (outcomeKnown_stop (.drained outcome (by simp) hother hdrained hended))
  · exact .ending (outcomeKnown_stop (.failed failure (by simp) hother hfailed))

/-! ## Ending -/

/-- What notices nothing leaves the outcome. -/
theorem OutcomeKnown.snoc (h : OutcomeKnown switch actions outcome r)
    (hreceiver : action ≠ .noticeReceiver)
    (hpump : action ≠ .noticePump) : OutcomeKnown switch (actions ++ [action]) outcome r :=
  ⟨h.stage, h.pump, h.reason.snoc hreceiver hpump⟩

/-- The outcome stays while the session goes on. -/
theorem OutcomeKnown.onSession? (h : OutcomeKnown switch actions outcome r) {a : Session.Action}
    (ha : a ≠ .startReceiving) (hnext : r.onSession? a = some next) :
    OutcomeKnown switch actions outcome next := by
  obtain ⟨session, metrics, hsession, rfl⟩ := exists_of_onSession? hnext
  exact ⟨h.stage, h.pump,
    h.reason.of_same rfl fun _ ho => Session.received?_of_step? hsession ha ho⟩

/-- The outcome stays while the session may go on. -/
theorem OutcomeKnown.onSession (h : OutcomeKnown switch actions outcome r) {a : Session.Action}
    (ha : a ≠ .startReceiving) : OutcomeKnown switch actions outcome (r.onSession a) := by
  rcases r.onSession_cases a with hsame | hnext
  · rwa [hsame]
  · exact h.onSession? ha hnext

/-- The outcome stays while the session is closed. -/
theorem OutcomeKnown.settleClosing (h : OutcomeKnown switch actions outcome r) :
    OutcomeKnown switch actions outcome (r.settleClosing outcome) := by
  refine ⟨?_, h.pump, h.reason.of_same rfl fun _ ho => ho⟩
  rcases r.settleClosing_cases outcome with hclosed | hclosed
  · exact Or.inr (Or.inr (congrArg Run.stage hclosed))
  · exact Or.inr (Or.inl (congrArg Run.stage hclosed))

/-- A run that is over has nothing to wait for but the close of the session. -/
theorem OutcomeKnown.settle (h : OutcomeKnown switch actions outcome r) :
    OutcomeKnown switch actions outcome r.settle := by
  have hsame := settlePump_of_not_live h.pump
  rcases h.stage with hstage | hstage | hstage <;> simp only [Run.settle, hsame, hstage]
  · exact h
  · exact h.settleClosing
  · exact h

/-! ## Steps -/

/-- While the session is being opened, only a step of the session can lead on from there. -/
theorem Unopened.step (h : Unopened switch actions r) (hstep : r.step? action = some next) :
    OutcomeAtStage switch (actions ++ [action]) next := by
  have hstage := h.stage
  cases step_of_step? hstep with
  | inbound haction hnext =>
    obtain ⟨hreceiver, hpump⟩ := not_notice (Or.inr (Option.isSome_of_eq_some haction))
    obtain ⟨session, metrics, -, rfl⟩ := exists_of_onSession? hnext
    exact .unopened ((h.snoc hreceiver hpump).of_session session metrics)
  | session haction hafter =>
    obtain ⟨hreceiver, hpump⟩ := not_notice (Or.inl (Option.isSome_of_eq_some haction))
    obtain ⟨session, metrics, -, rfl⟩ := exists_of_onSession? hafter
    exact ((h.snoc hreceiver hpump).of_session session metrics).settle
  | pump hnext =>
    rw [pump?_of_not_live (by rw [h.pump]; rfl)] at hnext
    cases hnext
  | noticeSwitch hserving | noticeReceiver hserving | noticePump hserving | heartbeat hserving =>
    rw [hserving] at hstage
    cases hstage
  | close hstopping =>
    rw [hstopping] at hstage
    cases hstage
  | set on =>
    exact .unopened
      ⟨h.stage, h.pump, h.switchAsked.set on, by simp [h.receiver], by simp [h.noticed]⟩
  | drop =>
    exact .unopened
      ⟨h.stage, h.pump, switchAsked_drop switch actions r, by simp [h.receiver],
        by simp [h.noticed]⟩

/-- While the runner serves, it goes on to serve, or stops for what it notices. -/
theorem Serving.step (h : Serving switch actions r) (hstep : r.step? action = some next) :
    OutcomeAtStage switch (actions ++ [action]) next := by
  have hstage := h.stage
  cases step_of_step? hstep with
  | inbound haction hnext =>
    obtain ⟨hreceiver, hpump⟩ := not_notice (Or.inr (Option.isSome_of_eq_some haction))
    obtain ⟨hrunner, hsame⟩ := sameForRunner_onSession? rfl hnext
    exact .serving ((h.snoc hreceiver hpump).sameForRunner hrunner
      fun hended => Or.inl (hsame.symm.trans hended))
  | session haction hafter =>
    obtain ⟨hreceiver, hpump⟩ := not_notice (Or.inl (Option.isSome_of_eq_some haction))
    obtain ⟨hrunner, hsame⟩ := sameForRunner_onSession? (isCall_of_session? haction) hafter
    rename_i after
    obtain ⟨hsettled, hgood⟩ := sameForRunner_settlePump after
    rw [settle_eq_settlePump (Or.inl (hrunner.stage.trans h.stage))]
    exact .serving ((h.snoc hreceiver hpump).sameForRunner (hrunner.trans hsettled)
      fun hended => Or.inl (hsame.symm.trans (hgood hended)))
  | pump hnext =>
    obtain ⟨hrunner, hempty⟩ := sameForRunner_pump? hnext
    exact .serving ((h.snoc Action.noConfusion Action.noConfusion).sameForRunner hrunner
      fun hended => Or.inr (hempty hended))
  | noticeSwitch hserving hnext =>
    exact (h.snoc Action.noConfusion Action.noConfusion).noticeSwitch? hnext
  | noticeReceiver hserving hnext => exact h.noticeReceiver? hnext
  | noticePump hserving hnext => exact h.noticePump? hnext
  | heartbeat => exact (h.snoc Action.noConfusion Action.noConfusion).lookAtSwitch
  | close hstopping =>
    rw [hstopping] at hstage
    cases hstage
  | set on =>
    exact .serving ((h.snoc Action.noConfusion Action.noConfusion).withSwitch
      (h.switchAsked.set on))
  | drop =>
    exact .serving ((h.snoc Action.noConfusion Action.noConfusion).withSwitch
      (switchAsked_drop switch actions r))

/-- A run that has crashed does nothing any more. -/
theorem crashed_step (hstage : r.stage = .crashed) (hstep : r.step? action = some next) :
    next.stage = .crashed := by
  cases step_of_step? hstep with
  | inbound haction hnext => exact (sameForRunner_onSession? rfl hnext).1.stage.trans hstage
  | session haction hafter =>
    have hafter :=
      (sameForRunner_onSession? (isCall_of_session? haction) hafter).1.stage.trans hstage
    rw [settle_eq_settlePump (Or.inr hafter)]
    exact (stage_settlePump _).trans hafter
  | pump hnext => exact (sameForRunner_pump? hnext).1.stage.trans hstage
  | noticeSwitch hserving | noticeReceiver hserving | noticePump hserving | heartbeat hserving =>
    cases hserving.symm.trans hstage
  | close hstopping => cases hstopping.symm.trans hstage
  | set on => exact hstage
  | drop => exact hstage

/-- The outcome is settled by now, and a pump that is gone cannot come to another end. -/
theorem OutcomeKnown.step (h : OutcomeKnown switch actions outcome r)
    (hstep : r.step? action = some next) :
    OutcomeKnown switch (actions ++ [action]) outcome next := by
  have hserving (hserving : r.stage = .serving) : False := by
    rcases h.stage with hstage | hstage | hstage <;> cases hserving.symm.trans hstage
  cases step_of_step? hstep with
  | inbound haction hnext =>
    obtain ⟨hreceiver, hpump⟩ := not_notice (Or.inr (Option.isSome_of_eq_some haction))
    exact (h.snoc hreceiver hpump).onSession? Session.Action.noConfusion hnext
  | session haction hafter =>
    obtain ⟨hreceiver, hpump⟩ := not_notice (Or.inl (Option.isSome_of_eq_some haction))
    have hstart := isCall_of_session? haction
    refine ((h.snoc hreceiver hpump).onSession? ?_ hafter).settle
    rintro rfl
    cases hstart
  | pump hnext =>
    rw [pump?_of_not_live h.pump] at hnext
    cases hnext
  | noticeSwitch hstage | noticeReceiver hstage | noticePump hstage | heartbeat hstage =>
    exact (hserving hstage).elim
  | close hstopping =>
    rcases h.stage with hstage | hstage | hstage <;> cases hstopping.symm.trans hstage
    exact ((h.snoc Action.noConfusion Action.noConfusion).onSession
      Session.Action.noConfusion).settleClosing
  | set on =>
    have hreason := h.reason.snoc (Action.noConfusion : Action.set on ≠ .noticeReceiver)
      Action.noConfusion
    exact ⟨h.stage, h.pump, hreason.of_same rfl fun _ ho => ho⟩
  | drop =>
    have hreason := h.reason.snoc (Action.noConfusion : Action.drop ≠ .noticeReceiver)
      Action.noConfusion
    exact ⟨h.stage, h.pump, hreason.of_same rfl fun _ ho => ho⟩

/-- Whatever happens, the runner goes on to end for a reason. -/
theorem OutcomeAtStage.step (h : OutcomeAtStage switch actions r)
    (hstep : r.step? action = some next) :
    OutcomeAtStage switch (actions ++ [action]) next := by
  cases h with
  | unopened h => exact h.step hstep
  | serving h => exact h.step hstep
  | crashed hstage => exact .crashed (crashed_step hstage hstep)
  | ending h => exact .ending (h.step hstep)

/-- Every run ends for a reason. -/
theorem outcomeAtStage_of_after? (h : after? step? (start client switch) actions = some r) :
    OutcomeAtStage switch actions r := by
  refine after?_induction (motive := fun actions r => OutcomeAtStage switch actions r) ?_ ?_ h
  · have hswitch : SwitchAsked switch [] (start client switch) := by
      intro htouched
      have htouched : switch.on = true ∨ switch.gone = true := htouched
      simpa [asked] using htouched
    exact .unopened ⟨rfl, rfl, hswitch, List.not_mem_nil, List.not_mem_nil⟩
  · intro actions r action next _ hatStage hstep
    exact hatStage.step hstep

/-! ## Outcomes -/

/-- What is known of a runner that waits for something to notice. -/
theorem OutcomeAtStage.serving_of_stage (h : OutcomeAtStage switch actions r)
    (hserving : r.stage = .serving) :
    Serving switch actions r := by
  cases h with
  | unopened h => cases (hserving ▸ h.stage : Stage.isOpening .serving = true)
  | serving h => exact h
  | crashed hstage => cases hserving.symm.trans hstage
  | ending h => rcases h.stage with hstage | hstage | hstage <;> cases hserving.symm.trans hstage

/-- A run with an outcome has a reason for it. -/
theorem OutcomeAtStage.outcomeKnown_of_outcome? (h : OutcomeAtStage switch actions r)
    (houtcome : r.outcome? = some outcome) :
    OutcomeKnown switch actions outcome r := by
  have hended := outcome?_eq_some_iff.1 houtcome
  cases h with
  | unopened h =>
    have hstage := h.stage
    rw [hended] at hstage
    cases hstage
  | serving h => cases hended.symm.trans h.stage
  | crashed hstage => cases hended.symm.trans hstage
  | ending h =>
    rcases h.stage with hstage | hstage | hstage <;> cases hended.symm.trans hstage
    exact h

/-- Why the pump failed, if it did. -/
def failure? (r : Run) : Option Failure :=
  match r.pump with
  | some (.ended (.error failure)) => some failure
  | _ => none

/-- A pump that failed has ended with its failure. -/
theorem pump_of_failure? {failure : Failure} (h : r.failure? = some failure) :
    r.pump = some (.ended (.error failure)) := by
  unfold failure? at h
  split at h <;> cases h
  assumption

/-- Where the pump has failed and nobody asks the runner to stop, a run ends with this failure if
the end of the pump is noticed. If the end of receiving is noticed before it, the run ends as
receiving has ended, and the failure is lost. -/
theorem outcome_of_failed_pump {client : Client} {switch : Switch} {actions : List Action} {r : Run}
    {failure : Failure} {outcome : Except Failure Unit}
    (h : after? step? (start client switch) actions = some r)
    (hasked : asked switch actions = false) (hfailure : r.failure? = some failure)
    (houtcome : r.outcome? = some outcome) :
    (.noticePump ∈ actions ∧ .noticeReceiver ∉ actions ∧ outcome = .error failure) ∨
      (.noticeReceiver ∈ actions ∧ .noticePump ∉ actions ∧
        r.session.received? = some outcome) := by
  have hfailed := pump_of_failure? hfailure
  cases ((outcomeAtStage_of_after? h).outcomeKnown_of_outcome? houtcome).reason with
  | unopened _ hpump => cases hpump.symm.trans hfailed
  | asked htrue => cases htrue.symm.trans hasked
  | receiver _ hnotice hother hended => exact Or.inr ⟨hnotice, hother, hended⟩
  | failed _ hnotice hother hpump =>
    cases hpump.symm.trans hfailed
    exact Or.inl ⟨hnotice, hother, rfl⟩
  | drained _ _ _ hpump => cases hpump.symm.trans hfailed

/-- An answer cannot be written, and the end of the pump is noticed. -/
theorem outcome_of_failed_pump_noticed :
    ∃ r failure, after? step? (start (.echoing "client" ["/a"]) .off)
        [.connected none, .accept 250, .flush,
          .read (Frame.layout (Text.Utf8.encode "[\"REQUEST\",\"\",1]")), .pump,
          .refuse "broken pipe", .noticePump, .close, .receive, .poll] = some r ∧
      r.failure? = some failure ∧ r.outcome? = some (.error failure) := by
  obtain ⟨r, hr, hends⟩ := (Option.any_eq_true
    (fun r : Run => r.failure?.isSome && r.outcome?.isSome) (after? step?
      (start (.echoing "client" ["/a"]) .off)
      [.connected none, .accept 250, .flush,
        .read (Frame.layout (Text.Utf8.encode "[\"REQUEST\",\"\",1]")), .pump,
        .refuse "broken pipe", .noticePump, .close, .receive, .poll])).1 (by decide +kernel)
  obtain ⟨hfails, hhas⟩ := Bool.and_eq_true_iff.1 hends
  obtain ⟨failure, hfailure⟩ := Option.isSome_iff_exists.1 hfails
  obtain ⟨outcome, houtcome⟩ := Option.isSome_iff_exists.1 hhas
  refine ⟨r, failure, hr, hfailure, ?_⟩
  rcases outcome_of_failed_pump hr rfl hfailure houtcome with ⟨-, -, rfl⟩ | ⟨hreceiver, -⟩
  · exact houtcome
  · exact absurd hreceiver (by decide)

/-- An answer cannot be written. Nobody takes the next request, so receiving ends well, and this is
noticed: the run ends well though nobody asked it to. -/
theorem failed_pump_lost :
    ∃ r failure, after? step? (start (.echoing "client" ["/a"]) .off)
        [.connected none, .accept 250, .flush,
          .read (Frame.layout (Text.Utf8.encode "[\"REQUEST\",\"\",1]")), .pump,
          .refuse "broken pipe", .read (Frame.layout (Text.Utf8.encode "[\"REQUEST\",\"\",2]")),
          .noticeReceiver, .close] = some r ∧
      r.failure? = some failure ∧ r.outcome? = some (.ok ()) := by
  obtain ⟨r, hr, hends⟩ := (Option.any_eq_true
    (fun r : Run => r.failure?.isSome && r.outcome?.any Except.isOk) (after? step?
      (start (.echoing "client" ["/a"]) .off)
      [.connected none, .accept 250, .flush,
        .read (Frame.layout (Text.Utf8.encode "[\"REQUEST\",\"\",1]")), .pump,
        .refuse "broken pipe", .read (Frame.layout (Text.Utf8.encode "[\"REQUEST\",\"\",2]")),
        .noticeReceiver, .close])).1 (by decide +kernel)
  obtain ⟨hfails, hok⟩ := Bool.and_eq_true_iff.1 hends
  obtain ⟨failure, hfailure⟩ := Option.isSome_iff_exists.1 hfails
  obtain ⟨outcome, houtcome, hgood⟩ := (Option.any_eq_true _ _).1 hok
  refine ⟨r, failure, hr, hfailure, ?_⟩
  cases outcome with
  | ok => exact houtcome
  | error => cases hgood

end Run

end Courier
