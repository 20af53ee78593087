import Courier.Proofs.Client.Ending

/-!
# The registration comes first

The switch is not looked at before the session has registered and the pump was started. So a run
whose switch is on from the beginning, and is never turned off, writes its registration, and when
that is flushed it stops at once, with nothing else written (`Preset`).
-/

namespace Courier

namespace Run

variable {client : Client} {switch : Switch} {actions : List Action} {action : Action}
  {bytes : Bytes} {close : Option Inbound.Close} {faulty : Bool} {frame : Bytes}
  {outcome : Except Failure Unit} {r next : Run}

/-! ## When the pump is started -/

/-- Stopping a pump leaves a stopped one. -/
theorem pump_stopPump (h : r.pump.isSome = true) : r.stopPump.pump.isSome = true := by
  rcases r.stopPump_cases with ⟨-, hsame⟩ | ⟨-, hstopped | ⟨_, hstopped⟩⟩
  · rwa [hsame]
  · simp [hstopped]
  · simp [hstopped]

/-- Looking at the switch writes nothing, and leaves the pump there. -/
theorem Replying.written_lookAtSwitch {taken : List Inbound.Item} {sent : List Bytes}
    (h : Replying client bytes close taken sent r) (hpump : r.pump.isSome = true) :
    r.lookAtSwitch.session.written = r.session.written ∧ r.lookAtSwitch.pump.isSome = true ∧
      r.lookAtSwitch.stage ≠ .crashed := by
  have hseen : Replying client bytes close taken sent
      { r with switch := { r.switch with unseen := false } } :=
    h.of_same rfl h.served.stage h.served.call rfl rfl rfl rfl
  cases hon : r.switch.on with
  | true =>
    rw [lookAtSwitch_of_on hon]
    exact ⟨hseen.resting_stopPump.written_eq,
      pump_stopPump (r := { r with switch := { r.switch with unseen := false } }) hpump,
      Stage.noConfusion⟩
  | false =>
    rw [lookAtSwitch_of_off hon]
    exact ⟨rfl, hpump, Stage.noConfusion⟩

/-- A runner that goes on from its registration has written just that. It starts the pump, unless
the queue cannot be made or there is no heartbeat. -/
theorem Registered.written_settle (h : Registered client frame r) :
    r.settle.session.written = frame ∧
      (r.session.options.allowQueue = true → client.config.session.heartbeat ≠ 0 →
        r.settle.pump.isSome = true ∧ r.settle.stage ≠ .crashed) := by
  obtain ⟨o, ho, hidle⟩ := h.idle
  obtain ⟨⟨-, hsame, -, hwriter⟩, -⟩ := startReceiving_spec h.phase h.reader
  have hwritten : r.session.startReceiving.written = frame :=
    (Session.written_of_outbound (hsame.trans ho)).trans hidle.written_eq
  rcases h.settle_cases with ⟨hqueue, hcrash⟩ | ⟨-, hserve, hwaiting⟩
  · rw [hcrash]
    exact ⟨hwritten, fun hallowed => absurd (hqueue.symm.trans hallowed) Bool.false_ne_true⟩
  · rw [hserve]
    rcases serve_cases (r := { r with session := r.session.startReceiving })
      (hwriter.trans h.writer) with ⟨hheartbeat, hnever⟩ | hlooks
    · rw [hnever]
      exact ⟨hwritten, fun _ hbeats => absurd (h.client_eq ▸ hheartbeat) hbeats⟩
    · rw [hlooks]
      obtain ⟨hsame, hpump, hstage⟩ := (Replying.waiting hwaiting).written_lookAtSwitch rfl
      exact ⟨hsame.trans hwritten, fun _ _ => ⟨hpump, hstage⟩⟩

/-- Whatever was taken of the registration, it can be flushed, at once or when the sink has taken
the rest of it. -/
theorem Registering.exists_flushed (h : Registering client frame r) :
    ∃ count rest sent, rest.Sublist [.accept count, .flush] ∧ Registered client frame sent ∧
      after? step? r rest = some sent.settle := by
  have hflush {t : Run} {o : Outbound} (ht : Registering client frame t)
      (ho : t.session.outbound = some o) (hcan : (o.step? t.metrics .flush).isSome = true) :
      ∃ sent, Registered client frame sent ∧ after? step? t [.flush] = some sent.settle := by
    obtain ⟨⟨after, metrics⟩, hafter⟩ := Option.isSome_iff_exists.1 hcan
    have hsession : t.onSession? .flush =
        some { t with session := { t.session with outbound := some after }.settle, metrics } := by
      simp [onSession?, Session.step?, Session.outbound?, ho, hafter]
    exact ⟨_, (ht.registered hsession).1, after?_cons (congrArg (Option.map settle) hsession) rfl⟩
  obtain ⟨o, ho, hbusy⟩ := h.busy
  rcases hbusy.exists_flush r.metrics with hcan | ⟨count, full, haccept, hfull, hcan⟩
  · obtain ⟨sent, hsent, hafter⟩ := hflush h ho hcan
    exact ⟨0, [.flush], sent, .cons _ (.refl _), hsent, hafter⟩
  · have hnext := h.of_busy r.metrics hfull
    have hstep : r.step? (.accept count) = some
        { r with session := { r.session with outbound := some full }.settle } := by
      simp only [step?, onSession?, Session.step?, Session.outbound?, ho, haccept, Option.map_some]
      exact congrArg some hnext.settle_eq
    have houtbound : { r.session with outbound := some full }.settle.outbound = some full := by
      obtain ⟨request, paths, hcall⟩ := h.call
      simp only [Session.settle, hcall, Outbound.result?_eq_none hfull.finished]
    obtain ⟨sent, hsent, hafter⟩ := hflush hnext houtbound hcan
    exact ⟨count, [.accept count, .flush], sent, .refl _, hsent, after?_cons hstep hafter⟩

/-! ## A switch that is on from the beginning -/

/-- A run whose switch was on from the beginning and was never turned off. It does not serve, and
notices nothing; and when it has started its pump, its registration is all that it has written. -/
structure Preset (client : Client) (actions : List Action) (r : Run) : Prop where
  on : r.switch.on = true
  stage : r.stage ≠ .serving
  receiver : .noticeReceiver ∉ actions
  noticed : .noticePump ∉ actions
  written (hpump : r.pump.isSome = true) (hstage : r.stage ≠ .crashed) :
    client.registration.toFrame = .ok r.session.written

/-- Opening leaves the switch on, and a runner that finds it on does not serve. -/
theorem Opened.of_on (h : Opened r next) (hon : r.switch.on = true) :
    next.switch.on = true ∧ next.stage ≠ .serving := by
  cases h with
  | waits hstage =>
    refine ⟨hon, ?_⟩
    rintro rfl
    cases hstage
  | unconnected => exact ⟨hon, Stage.noConfusion⟩
  | closes failure =>
    exact ⟨(congrArg Switch.on (switch_onSession _ .close)).trans hon, (stage_settleClosing _ _).1⟩
  | crashes => exact ⟨hon, Stage.noConfusion⟩
  | serves =>
    rw [lookAtSwitch_of_on (by exact hon)]
    refine ⟨?_, Stage.noConfusion⟩
    exact (congrArg Switch.on (sameForRunner_stopPump _).1.switch).trans hon

/-- While the switch is on and the runner does not serve, that stays so, unless the switch is turned
off. -/
theorem on_of_step? (hafter : after? step? (start client switch) actions = some r)
    (hon : r.switch.on = true) (hidle : r.stage ≠ .serving) (haction : action ≠ .set false)
    (hstep : r.step? action = some next) : next.switch.on = true ∧ next.stage ≠ .serving := by
  have hrunner {t : Run} (h : SameForRunner r t) : t.switch.on = true ∧ t.stage ≠ .serving := by
    rw [h.switch, h.stage]
    exact ⟨hon, hidle⟩
  cases step_of_step? hstep with
  | inbound haction hnext => exact hrunner (sameForRunner_onSession? rfl hnext).1
  | @session _ _ later haction hlater =>
    obtain ⟨hsession, hsame⟩ := sameForRunner_onSession? (isCall_of_session? haction) hlater
    cases outcomeAtStage_of_after? hafter with
    | unopened h =>
      exact (opened_settle (hsession.stage ▸ h.stage) (hsame.trans h.pump)).of_on
        (hsession.switch ▸ hon)
    | serving h => exact absurd h.stage hidle
    | crashed hstage =>
      rw [settle_eq_settlePump (Or.inr (hsession.stage.trans hstage))]
      exact hrunner (hsession.trans (sameForRunner_settlePump later).1)
    | ending h =>
      have hpump : later.pump.any Pump.isLive = false := hsame.symm ▸ h.pump
      rcases h.stage with hstage | hstage | hstage
      · rw [settle_eq_self hpump (Or.inl (hsession.stage.trans hstage))]
        exact hrunner hsession
      · rw [settle_eq_settleClosing hpump (hsession.stage.trans hstage)]
        exact ⟨(hrunner hsession).1, (stage_settleClosing _ _).1⟩
      · rw [settle_eq_self hpump (Or.inr (hsession.stage.trans hstage))]
        exact hrunner hsession
  | pump hnext => exact hrunner (sameForRunner_pump? hnext).1
  | noticeSwitch hserving | noticeReceiver hserving | noticePump hserving | heartbeat hserving =>
    exact absurd hserving hidle
  | close =>
    exact ⟨(congrArg Switch.on (switch_onSession r .close)).trans hon, (stage_settleClosing _ _).1⟩
  | set on =>
    cases on with
    | false => exact absurd rfl haction
    | true => exact ⟨rfl, hidle⟩
  | drop => exact ⟨hon, hidle⟩

/-- What a run that is being opened has written when it has a pump is its registration. -/
theorem Mode.written_of_opening (h : Mode client bytes close faulty r)
    (hopening : r.stage.isOpening = true) (hstep : r.step? action = some next)
    (hpump : next.pump.isSome = true) : client.registration.toFrame = .ok next.session.written := by
  have hnobody (hnone : next.pump = none) :
      client.registration.toFrame = .ok next.session.written := by
    rw [hnone] at hpump
    cases hpump
  cases h with
  | connecting switch hrun =>
    subst hrun
    rcases (start_step hstep).2.2 with ⟨switch, rfl⟩ | ⟨frame, hregistering, -⟩ | hgivenUp
    · exact hnobody rfl
    · exact hnobody hregistering.pump
    · exact hnobody hgivenUp.pump
  | registering h =>
    cases (h.step hstep).2 with
    | waits hregistering => exact hnobody hregistering.pump
    | sent hsent =>
      rw [hsent.written_settle.1]
      exact hsent.framed
    | givenUp hgivenUp => exact hnobody hgivenUp.pump
  | liveOrFinished h => cases h.isOpening_eq_false.symm.trans hopening

/-- A run whose switch is on from the beginning goes on like that. -/
theorem Preset.step (h : Preset client actions r)
    (hafter : after? step? (start client switch) actions = some r) (haction : action ≠ .set false)
    (hstep : r.step? action = some next) : Preset client (actions ++ [action]) next := by
  obtain ⟨hon, hidle⟩ := on_of_step? hafter h.on h.stage haction hstep
  have hunnoticed : action ≠ .noticeReceiver ∧ action ≠ .noticePump := by
    constructor <;> rintro rfl <;> exact h.stage (whileServing?_eq_some hstep).1
  refine ⟨hon, hidle, by simp [h.receiver, hunnoticed.1.symm],
    by simp [h.noticed, hunnoticed.2.symm], fun hpump hstage => ?_⟩
  have hmode := mode_of_after? hafter
  cases outcomeAtStage_of_after? hafter with
  | unopened hunopened => exact hmode.written_of_opening hunopened.stage hstep hpump
  | serving hserving => exact absurd hserving.stage h.stage
  | crashed hcrashed => exact absurd (crashed_step hcrashed hstep) hstage
  | @ending outcome hknown =>
    have hverdict := hknown.verdict?_eq
    rw [((hmode.resting_of_verdict? hverdict).step hstep).1.written_eq]
    rw [hknown.pump_of_step? hstep] at hpump
    refine h.written hpump fun hcrashed => ?_
    rw [hcrashed] at hverdict
    cases hverdict

/-- Where the switch is on from the beginning, and is never turned off, this is how a run goes. -/
theorem preset_of_after? (hon : switch.on = true)
    (h : after? step? (start client switch) actions = some r) (hkept : .set false ∉ actions) :
    Preset client actions r := by
  refine after?_induction (motive := fun actions r => .set false ∉ actions →
    Preset client actions r) ?_ ?_ h hkept
  · intro _
    exact ⟨hon, Stage.noConfusion, List.not_mem_nil, List.not_mem_nil, by rintro ⟨⟩⟩
  · intro actions r action next hafter ih hstep hkept
    rw [List.mem_append, List.mem_singleton, not_or] at hkept
    exact (ih hkept.1).step hafter (fun h => hkept.2 h.symm) hstep

end Run

end Courier
