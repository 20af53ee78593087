import Courier.Proofs.Client.Announcing
import Courier.Proofs.Client.Drain

/-!
# What a run reports

If nobody asks the runner to stop and no answer fails, it ends as receiving has ended, whichever end
it notices first, and the bytes that were read explain that end (`Explained`). If it is asked to
stop while receiving and the pump go on, it ends well, whatever the sink is doing.
-/

namespace Courier

open Courier.Frame

namespace Run

variable {client : Client} {switch : Switch} {actions : List Action} {action : Action}
  {r next : Run} {outcome : Except Failure Unit}

/-! ## How receiving ended -/

/-- Receiving has ended, as the bytes that were read and the end of the stream demand: a length is
refused in front of the rest, or the stream has ended cleanly, within a frame, or with a failure. -/
structure Explained (client : Client) (actions : List Action) (outcome : Except Failure Unit)
    (r : Run) : Prop where
  received : r.session.received? = some outcome
  explained : Inbound.IsEnd client.config.session.frameLimit
    (parse client.config.session.frameLimit (Run.received actions)).rest outcome (closed? actions)

/-- An end of receiving goes on to be explained, since nothing more is read. -/
theorem Explained.step (h : Explained client actions outcome r) (hopen : r.stage.isOpening = false)
    (hstep : r.step? action = some next) : Explained client (actions ++ [action]) outcome next := by
  obtain ⟨hbytes, hclose⟩ := bytes_of_received? hstep h.received
  refine ⟨received?_of_step? hopen hstep h.received, ?_⟩
  have hread : Run.received (actions ++ [action]) = Run.received actions := by
    simp [Run.received, hbytes]
  have hclosed : closed? (actions ++ [action]) = closed? actions := by
    simp [closed?, List.findSome?_append, hclose]
  rw [hread, hclosed]
  exact h.explained

/-- While the pump answers an end of receiving is explained. -/
theorem Replying.explained {taken : List Inbound.Item} {sent : List Bytes}
    (h : Replying client (received actions) (closed? actions) taken sent r)
    (hreceived : r.session.received? = some outcome) : Explained client actions outcome r := by
  obtain ⟨i, hi, hundisturbed⟩ := h.served.receiving
  have houtcome : i.outcome? = some outcome := by rwa [Session.received?, hi] at hreceived
  exact ⟨hreceived, (hundisturbed.of_outcome? houtcome).2⟩

/-- While the runner serves an end of receiving is explained, unless the pump has failed. -/
theorem explained_of_serving (h : after? step? (start client switch) actions = some r)
    (hserving : r.stage = .serving) (hpump : r.pump.isSome = true) (hfailure : r.failure? = none)
    (hreceived : r.session.received? = some outcome) : Explained client actions outcome r := by
  cases mode_of_after? h with
  | connecting switch hrun =>
    rw [hrun] at hserving
    cases hserving
  | registering hregistering => cases hregistering.stage.symm.trans hserving
  | liveOrFinished hgoing =>
    cases hgoing with
    | live hlive =>
      obtain ⟨_, _, hreplying⟩ := hlive.exists_replying
      exact hreplying.explained hreceived
    | finished hfinished =>
      have hnobody := hfinished.resting.pump
      obtain ⟨pump, hsome⟩ := Option.isSome_iff_exists.1 hpump
      cases pump with
      | waiting | sending =>
        rw [hsome] at hnobody
        cases hnobody
      | ended result =>
        cases result with
        | error failure => simp [failure?, hsome] at hfailure
        | ok =>
          obtain ⟨other, hother, hend⟩ := (drained_of_after? h hsome).ended
          obtain rfl := Option.some.inj (hother.symm.trans hreceived)
          exact ⟨hreceived, hend⟩
      | stopped =>
        exact absurd hsome ((sessionSound_of_after? h).sessionAtStage.of_serving hserving).1

/-! ## The outcome -/

/-- A runner that stops has a pump, or has one that failed, only if it had it before. -/
theorem pump_of_stop (hpump : (r.stop outcome).pump.isSome = true)
    (hfailure : (r.stop outcome).failure? = none) :
    r.pump.isSome = true ∧ r.failure? = none := by
  have hgone (hnobody : r.pump.any Pump.isLive = false) : (r.stop outcome).pump = r.pump := by
    rw [stop, stopPump_of_not_live hnobody]
  unfold failure? at hfailure ⊢
  cases hcase : r.pump with
  | none =>
    rw [hgone (by rw [hcase]; rfl), hcase] at hpump
    cases hpump
  | some pump =>
    cases pump with
    | waiting | sending | stopped => exact ⟨rfl, rfl⟩
    | ended result =>
      rw [hgone (by rw [hcase]; rfl), hcase] at hfailure
      exact ⟨rfl, hfailure⟩

/-- A runner that notices the end of receiving stops with it. -/
theorem Serving.exists_noticeReceiver (h : Serving switch actions r)
    (hreceived : r.session.received? = some outcome) :
    ∃ session, r.step? .noticeReceiver = some ({ r with session }.stop outcome) ∧
      session.received? = some outcome := by
  obtain ⟨session, hstop, hended⟩ := settleReceiver_of_received? h.call h.unawaited hreceived
  have hknown : r.session.unawaitedOutcome?.isSome = true := by
    rw [Session.unawaitedOutcome?, if_pos h.unawaited]
    exact Option.isSome_of_eq_some hreceived
  refine ⟨session, ?_, hended⟩
  simp only [step?, whileServing?, h.stage, Run.noticeReceiver?, hknown, if_true, hstop]

/-- A runner that notices that the pump is done stops with the end of receiving. -/
theorem Serving.exists_noticePump (h : Serving switch actions r)
    (hdone : r.pump = some (.ended (.ok ()))) :
    ∃ outcome session, r.session.received? = some outcome ∧
      r.step? .noticePump = some ({ r with session }.stop outcome) := by
  obtain ⟨outcome, hreceived⟩ := Option.isSome_iff_exists.1 (h.drained hdone)
  obtain ⟨session, hstop, -⟩ := settleReceiver_of_received? h.call h.unawaited hreceived
  refine ⟨outcome, session, hreceived, ?_⟩
  simp only [step?, whileServing?, h.stage, Run.noticePump?, hdone, hstop]

/-- A runner whose outcome was not known before notices the end of receiving only now. -/
theorem OutcomeAtStage.serving_of_noticeReceiver (h : OutcomeAtStage switch actions r)
    (hbefore : r.stage.verdict? = none) (hnotice : .noticeReceiver ∈ actions ++ [action])
    (hstep : r.step? action = some next) (hverdict : next.stage.verdict? = some outcome) :
    action = .noticeReceiver ∧ Serving switch actions r := by
  have hnow (hnever : .noticeReceiver ∉ actions) : action = .noticeReceiver :=
    (List.mem_singleton.1 ((List.mem_append.1 hnotice).resolve_left hnever)).symm
  rcases h.stage_of_verdict? hbefore with hunopened | hserves | hcrashed
  · obtain rfl := hnow hunopened.receiver
    have hopening := hunopened.stage
    rw [(whileServing?_eq_some hstep).1] at hopening
    cases hopening
  · exact ⟨hnow hserves.receiver, hserves⟩
  · rw [crashed_step hcrashed hstep] at hverdict
    cases hverdict

/-- A runner that notices the end of receiving, while the pump has not failed, has an explanation
for it. -/
theorem Serving.explained_of_noticeReceiver (h : Serving switch actions r)
    (hafter : after? step? (start client switch) actions = some r)
    (hstep : r.step? .noticeReceiver = some next) (hverdict : next.stage.verdict? = some outcome)
    (hpump : next.pump.isSome = true) (hfailure : next.failure? = none) :
    Explained client (actions ++ [.noticeReceiver]) outcome next := by
  have hguard := (whileServing?_eq_some hstep).2
  simp only [Run.noticeReceiver?, Session.unawaitedOutcome?, h.unawaited, if_true,
    Option.ite_none_right_eq_some] at hguard
  obtain ⟨other, hother⟩ := Option.isSome_iff_exists.1 hguard.1
  obtain ⟨session, hstop, -⟩ := h.exists_noticeReceiver hother
  obtain rfl := Option.some.inj (hstop.symm.trans hstep)
  cases hverdict
  obtain ⟨hsome, hclean⟩ := pump_of_stop hpump hfailure
  exact (explained_of_serving hafter h.stage hsome hclean hother).step (by rw [h.stage]; rfl) hstep

/-- A runner that is not asked to stop, and whose pump does not fail, ends as receiving has
ended. -/
theorem explained_of_verdict? (h : after? step? (start client switch) actions = some r)
    (hverdict : r.stage.verdict? = some outcome) (hasked : asked switch actions = false)
    (hpump : r.pump.isSome = true) (hfailure : r.failure? = none) :
    Explained client actions outcome r := by
  refine after?_induction (motive := fun actions r => r.stage.verdict? = some outcome →
    asked switch actions = false → r.pump.isSome = true → r.failure? = none →
      Explained client actions outcome r) (by rintro ⟨⟩) ?_ h hverdict hasked hpump hfailure
  intro actions r action next hafter ih hstep hverdict hasked hpump hfailure
  have hatStage := outcomeAtStage_of_after? hafter
  have hlater := after?_snoc hafter hstep
  cases hbefore : r.stage.verdict? with
  | some other =>
    -- The outcome was known before, and so was the end of receiving.
    have houtcomeKnown := hatStage.outcomeKnown_of_verdict? hbefore
    obtain rfl := Option.some.inj ((houtcomeKnown.step hstep).verdict?_eq.symm.trans hverdict)
    have hunasked : asked switch actions = false :=
      eq_false_of_ne_true fun htrue => absurd (asked_snoc htrue action) (by rw [hasked]; rintro ⟨⟩)
    have hsame := houtcomeKnown.pump_of_step? hstep
    rw [hsame] at hpump
    rw [failure?, hsame] at hfailure
    exact (ih hbefore hunasked hpump hfailure).step
      ((mode_of_after? hafter).resting_of_verdict? hbefore).stage hstep
  | none =>
    cases ((outcomeAtStage_of_after? hlater).outcomeKnown_of_verdict? hverdict).reason with
    | unopened _ hnone =>
      rw [hnone] at hpump
      cases hpump
    | asked htrue => cases hasked.symm.trans htrue
    | failed failure _ _ hfailed => simp [failure?, hfailed] at hfailure
    | drained _ _ _ hdone hreceived =>
      obtain ⟨other, hother, hend⟩ := (drained_of_after? hlater hdone).ended
      obtain rfl := Option.some.inj (hother.symm.trans hreceived)
      exact ⟨hreceived, hend⟩
    | receiver _ hnotice =>
      obtain ⟨rfl, hserves⟩ := hatStage.serving_of_noticeReceiver hbefore hnotice hstep hverdict
      exact hserves.explained_of_noticeReceiver hafter hstep hverdict hpump hfailure

/-! ## The switch -/

/-- A runner that finds its switch on stops well. -/
theorem verdict?_lookAtSwitch (hon : r.switch.on = true) :
    r.lookAtSwitch.stage.verdict? = some (.ok ()) := by
  rw [lookAtSwitch_of_on hon]
  rfl

/-- A runner that serves and finds its switch off has only seen it. -/
theorem lookAtSwitch_of_serving (hserving : r.stage = .serving) (hoff : r.switch.on = false) :
    r.lookAtSwitch = { r with switch := { r.switch with unseen := false } } := by
  rw [lookAtSwitch_of_off hoff, ← hserving]

/-- A runner looks at its switch when that was set. -/
theorem step?_noticeSwitch (hserving : r.stage = .serving) (hunseen : r.switch.unseen = true) :
    r.step? .noticeSwitch = some r.lookAtSwitch := by
  simp only [step?, whileServing?, hserving, noticeSwitch?, hunseen, if_true]

/-- A runner looks at its switch at every heartbeat. -/
theorem step?_heartbeat (hserving : r.stage = .serving) :
    r.step? .heartbeat = some r.lookAtSwitch := by
  simp only [step?, whileServing?, hserving]

/-- Looking at a switch that is on, or noticing that one is gone, stops the runner well. -/
theorem exists_noticeSwitch (hserving : r.stage = .serving)
    (hasked : r.switch.on = true ∨ r.switch.gone = true)
    (hseen : r.switch.on = true → r.switch.unseen = true) :
    ∃ looks next, looks ∈ [[.noticeSwitch], [.noticeSwitch, .noticeSwitch]] ∧
      after? step? r looks = some next ∧ next.stage.verdict? = some (.ok ()) := by
  -- A switch that is not seen to be on is gone, and this is noticed once it is seen to be off.
  have hgone {t : Run} (hstage : t.stage = .serving) (hunseen : t.switch.unseen = false)
      (hlost : t.switch.gone = true) : t.step? .noticeSwitch = some (t.stop (.ok ())) := by
    simp only [step?, whileServing?, hstage, noticeSwitch?, hunseen, hlost, if_true,
      Bool.false_eq_true, if_false]
  cases hunseen : r.switch.unseen with
  | false =>
    have hoff : r.switch.on ≠ true := fun hon => by cases hunseen.symm.trans (hseen hon)
    exact ⟨[.noticeSwitch], r.stop (.ok ()), List.mem_cons_self,
      after?_cons (hgone hserving hunseen (hasked.resolve_left hoff)) rfl, rfl⟩
  | true =>
    have hlook := step?_noticeSwitch hserving hunseen
    cases hon : r.switch.on with
    | true =>
      exact ⟨[.noticeSwitch], r.lookAtSwitch, List.mem_cons_self, after?_cons hlook rfl,
        verdict?_lookAtSwitch hon⟩
    | false =>
      have hlost : r.switch.gone = true := hasked.resolve_left (by rw [hon]; exact Bool.noConfusion)
      rw [lookAtSwitch_of_serving hserving hon] at hlook
      exact ⟨[.noticeSwitch, .noticeSwitch], _, by simp,
        after?_cons hlook (after?_cons (hgone hserving rfl hlost) rfl), rfl⟩

/-- While the pump goes on and receiving has not ended, there is nothing else to notice. -/
theorem notice_eq_none (hnone : r.session.received? = none)
    (hpump : r.pump.any Pump.isLive = true) :
    r.step? .noticeReceiver = none ∧ r.step? .noticePump = none := by
  have hunknown : r.session.unawaitedOutcome?.isSome = false := by
    unfold Session.unawaitedOutcome?
    split
    · exact Option.isSome_eq_false_iff.2 (Option.isNone_iff_eq_none.2 hnone)
    · rfl
  have hgoes : r.noticePump? = none := by
    cases hnotice : r.noticePump? with
    | none => rfl
    | some next =>
      rcases noticePump?_eq_some_iff.1 hnotice with ⟨hended, -⟩ | ⟨_, hended, -⟩ <;>
        rw [hended] at hpump <;> cases hpump
  constructor
  · simp only [step?, whileServing?, noticeReceiver?, hunknown, Bool.false_eq_true, if_false]
    split <;> rfl
  · simp only [step?, whileServing?, hgoes]
    split <;> rfl

/-- A switch that is turned off and looked at leaves the run as it was. -/
theorem after?_set_false (hserving : r.stage = .serving) (hheld : r.switch.gone = false)
    {look : Action} (hlook : look = .noticeSwitch ∨ look = .heartbeat) :
    after? step? r [.set false, look] = some { r with switch := .off } := by
  have hset : r.step? (.set false) = some { r with switch := r.switch.set false } := by
    simp only [step?, hheld, Bool.false_eq_true, if_false]
  have hoff : { r with switch := r.switch.set false }.lookAtSwitch = { r with switch := .off } := by
    rw [lookAtSwitch_of_serving (r := { r with switch := r.switch.set false }) hserving rfl]
    simp only [Switch.set, Switch.off, hheld]
  have hlooks : { r with switch := r.switch.set false }.step? look =
      some { r with switch := r.switch.set false }.lookAtSwitch := by
    rcases hlook with rfl | rfl
    · exact step?_noticeSwitch hserving rfl
    · exact step?_heartbeat hserving
  exact after?_cons hset (after?_cons (hlooks.trans (congrArg some hoff)) rfl)

/-- A run whose switch is on from the beginning ends well once it has started its pump. -/
theorem Preset.verdict?_eq (h : Preset client actions r)
    (hatStage : OutcomeAtStage switch actions r)
    (hpump : r.pump.isSome = true) (hstage : r.stage ≠ .crashed) :
    r.stage.verdict? = some (.ok ()) := by
  cases hatStage with
  | unopened hunopened =>
    rw [hunopened.pump] at hpump
    cases hpump
  | serving hserves => exact absurd hserves.stage h.stage
  | crashed hcrashed => exact absurd hcrashed hstage
  | ending houtcomeKnown =>
    rw [houtcomeKnown.verdict?_eq]
    cases houtcomeKnown.reason with
    | unopened _ hnone =>
      rw [hnone] at hpump
      cases hpump
    | asked => rfl
    | receiver _ hnotice => exact absurd hnotice h.receiver
    | failed _ hnotice | drained _ hnotice => exact absurd hnotice h.noticed

/-- A session that is being opened and has its writer registers. -/
theorem Mode.stage_of_writer {bytes : Bytes} {close : Option Inbound.Close} {faulty : Bool}
    (h : Mode client bytes close faulty r) (hopening : r.stage.isOpening = true)
    (hwriter : r.session.writer = true) : r.stage = .registering := by
  cases h with
  | connecting switch hrun =>
    rw [hrun] at hwriter
    cases hwriter
  | registering h => exact h.stage
  | liveOrFinished h => cases h.isOpening_eq_false.symm.trans hopening

/-- A run that registers goes on to start its pump, if the configuration allows it. -/
theorem exists_started (h : after? step? (start client switch) actions = some r)
    (hstage : r.stage = .registering)
    (hqueue : (Session.Options.ofConfig client.config).allowQueue = true)
    (hheartbeat : client.config.session.heartbeat ≠ 0) :
    ∃ count rest next, rest.Sublist [.accept count, .flush] ∧ after? step? r rest = some next ∧
      next.pump.isSome = true ∧ next.stage ≠ .crashed := by
  cases mode_of_after? h with
  | connecting switch hrun =>
    rw [hrun] at hstage
    cases hstage
  | liveOrFinished hgoing =>
    have hopen := hgoing.isOpening_eq_false
    rw [hstage] at hopen
    cases hopen
  | registering hregistering =>
    obtain ⟨count, rest, sent, hrest, hsent, hafter⟩ := hregistering.exists_flushed
    obtain ⟨hpump, hrunning⟩ :=
      hsent.written_settle.2 (by rw [hsent.options]; exact hqueue) hheartbeat
    exact ⟨count, rest, sent.settle, hrest, hafter, hpump, hrunning⟩

/-! ## Whole runs -/

/-- A run ends as receiving has ended, unless it is asked to stop, and it ends completely.

If the runner is not asked to stop, has started the pump, and no answer has failed, the outcome of
the run is how receiving has ended, and the bytes that were read explain it. Both ends that the
runner may notice lead there: the end of receiving, and the end of a pump that is done. If it is
asked to stop while receiving and the pump go on, there is nothing else to notice, and it ends well;
the sink need not take anything for that. A switch that is turned off leaves the run as it was. A
switch that is on from the beginning lets the run register, and then it ends well with nothing else
written.

In all of these cases nothing is written from then on, and the end is at most three steps of the
runner and of receiving away, whatever happens. When a run has ended nobody answers or receives any
more, the sink is given up, and nothing is written. -/
theorem ends_as_received {client : Client} {switch : Switch} {actions : List Action} {r : Run}
    (h : after? step? (start client switch) actions = some r) :
    (∀ outcome, r.stage.verdict? = some outcome → asked switch actions = false →
      r.pump.isSome = true → r.failure? = none →
        Explained client actions outcome r ∧ r.Finishes outcome) ∧
    (r.stage = .serving →
      (∀ outcome, r.session.received? = some outcome →
        ∃ next, r.step? .noticeReceiver = some next ∧ next.Finishes outcome) ∧
      (r.pump = some (.ended (.ok ())) →
        ∃ outcome next, r.session.received? = some outcome ∧
          r.step? .noticePump = some next ∧ next.Finishes outcome) ∧
      (r.switch.on = true ∨ r.switch.gone = true → r.session.received? = none →
        r.pump.any Pump.isLive = true →
          r.step? .noticeReceiver = none ∧ r.step? .noticePump = none ∧
          (∃ looks next, looks ∈ [[.noticeSwitch], [.noticeSwitch, .noticeSwitch]] ∧
            after? step? r looks = some next ∧ next.Finishes (.ok ())) ∧
          ∃ next, r.step? .heartbeat = some next ∧ (next.Finishes (.ok ()) ∨
            next = { r with switch := { r.switch with unseen := false } })) ∧
      (r.switch.gone = false → ∀ look, look = .noticeSwitch ∨ look = .heartbeat →
        after? step? r [.set false, look] = some { r with switch := .off })) ∧
    (switch.on = true → .set false ∉ actions →
      (r.stage = .registering → (Session.Options.ofConfig client.config).allowQueue = true →
        client.config.session.heartbeat ≠ 0 →
          ∃ count rest next, rest.Sublist [.accept count, .flush] ∧
            after? step? r rest = some next ∧
            client.registration.toFrame = .ok next.session.written ∧ next.Finishes (.ok ())) ∧
      (r.pump.isSome = true → r.stage ≠ .crashed →
        client.registration.toFrame = .ok r.session.written ∧ r.Finishes (.ok ()))) ∧
    (∀ outcome, r.outcome? = some outcome →
      r.pump.any Pump.isLive = false ∧ r.session.isReceiving = false ∧
      (∀ o, r.session.outbound = some o → o.attached = false) ∧ r.Finishes outcome) := by
  refine ⟨fun outcome hverdict hasked hpump hfailure =>
    ⟨explained_of_verdict? h hverdict hasked hpump hfailure, finishes_of_verdict? h hverdict⟩,
    fun hserving => ?_, fun hon hkept => ?_, fun outcome houtcome => ?_⟩
  · have hserves := (outcomeAtStage_of_after? h).serving_of_stage hserving
    refine ⟨fun outcome hreceived => ?_, fun hdone => ?_, fun hasked hnone hlive => ?_,
      fun hheld look hlook => after?_set_false hserving hheld hlook⟩
    · obtain ⟨session, hnext, -⟩ := hserves.exists_noticeReceiver hreceived
      exact ⟨_, hnext, finishes_of_verdict? (after?_snoc h hnext) rfl⟩
    · obtain ⟨outcome, session, hreceived, hnext⟩ := hserves.exists_noticePump hdone
      exact ⟨outcome, _, hreceived, hnext, finishes_of_verdict? (after?_snoc h hnext) rfl⟩
    · obtain ⟨-, hseen⟩ := (sessionSound_of_after? h).sessionAtStage.of_serving hserving
      obtain ⟨looks, next, hlooks, hafter, hverdict⟩ := exists_noticeSwitch hserving hasked hseen
      refine ⟨(notice_eq_none hnone hlive).1, (notice_eq_none hnone hlive).2,
        ⟨looks, next, hlooks, hafter, finishes_of_verdict? (after?_trans h hafter) hverdict⟩, ?_⟩
      have hbeat := step?_heartbeat hserving
      refine ⟨r.lookAtSwitch, hbeat, ?_⟩
      cases hon : r.switch.on with
      | true =>
        exact Or.inl (finishes_of_verdict? (after?_snoc h hbeat) (verdict?_lookAtSwitch hon))
      | false => exact Or.inr (lookAtSwitch_of_serving hserving hon)
  · have hends {made : List Action} {t : Run}
        (ht : after? step? (start client switch) made = some t) (hmade : .set false ∉ made)
        (hpump : t.pump.isSome = true) (hstage : t.stage ≠ .crashed) :
        client.registration.toFrame = .ok t.session.written ∧ t.Finishes (.ok ()) := by
      have hpreset := preset_of_after? hon ht hmade
      exact ⟨hpreset.written hpump hstage,
        finishes_of_verdict? ht (hpreset.verdict?_eq (outcomeAtStage_of_after? ht) hpump hstage)⟩
    refine ⟨fun hstage hqueue hheartbeat => ?_, hends h hkept⟩
    obtain ⟨count, rest, next, hrest, hafter, hpump, hrunning⟩ :=
      exists_started h hstage hqueue hheartbeat
    have hmade : .set false ∉ actions ++ rest := by
      rw [List.mem_append, not_or]
      exact ⟨hkept, fun hmem => by simpa using hrest.subset hmem⟩
    exact ⟨count, rest, next, hrest, hafter, hends (after?_trans h hafter) hmade hpump hrunning⟩
  · obtain ⟨hpump, hreceiving, hsink⟩ := nothing_left_of_outcome? h houtcome
    have hverdict : r.stage.verdict? = some outcome := by
      rw [outcome?_eq_some_iff.1 houtcome]
      rfl
    exact ⟨hpump, hreceiving, hsink, finishes_of_verdict? h hverdict⟩

/-- A stream that ends within a frame; a runner that is asked to stop while an answer is stuck in a
sink that has taken ten bytes of it; and a runner that is asked to stop from the beginning. -/
theorem ends_as_received_torn_stuck_preset :
    (∃ r, after? step? (start (.echoing "client" ["/a"]) .off)
        [.connected none, .accept 250, .flush, .read [0, 0, 0, 50, 123], .readEnd, .noticeReceiver,
          .close] = some r ∧
      r.outcome? = some (.error (.incompleteFrame 5)) ∧
      r.session.received? = some (.error (.incompleteFrame 5)) ∧
      r.session.isReceiving = false ∧ r.Finishes (.error (.incompleteFrame 5))) ∧
    (∃ r looks next, after? step? (start (.echoing "client" ["/a"]) .off)
        [.connected none, .accept 250, .flush,
          .read (layout (Text.Utf8.encode "[\"REQUEST\",\"\",1]")), .pump, .accept 10,
          .set true] = some r ∧
      r.session.isSending 1 = true ∧ looks ∈ [[.noticeSwitch], [.noticeSwitch, .noticeSwitch]] ∧
      after? step? r looks = some next ∧ next.Finishes (.ok ())) ∧
    ∃ r count rest next,
      after? step? (start (.echoing "client" ["/a"]) ⟨true, false, false⟩) [.connected none] =
        some r ∧
      rest.Sublist [.accept count, .flush] ∧ after? step? r rest = some next ∧
      (Client.registration (.echoing "client" ["/a"])).toFrame = .ok next.session.written ∧
      next.Finishes (.ok ()) := by
  refine ⟨?_, ?_, ?_⟩
  · obtain ⟨r, hr, hends⟩ := (Option.any_eq_true
      (fun r : Run => r.pump.isSome && r.failure?.isNone && r.outcome?.any fun outcome =>
        Session.returnOf outcome = .failed (.incompleteFrame 5)) (after? step?
        (start (.echoing "client" ["/a"]) .off)
        [.connected none, .accept 250, .flush, .read [0, 0, 0, 50, 123], .readEnd, .noticeReceiver,
          .close])).1 (by decide +kernel)
    obtain ⟨hpumped, hany⟩ := Bool.and_eq_true_iff.1 hends
    obtain ⟨hpump, hclean⟩ := Bool.and_eq_true_iff.1 hpumped
    obtain ⟨outcome, houtcome, htorn⟩ := (Option.any_eq_true _ _).1 hany
    have hreturn := of_decide_eq_true htorn
    cases outcome with
    | ok => cases hreturn
    | error failure =>
      obtain rfl := Session.Return.failed.inj hreturn
      obtain ⟨hreports, -, -, houtcomeKnown⟩ := ends_as_received hr
      obtain ⟨-, hreceiving, -, hfinishes⟩ := houtcomeKnown _ houtcome
      obtain ⟨hexplained, -⟩ := hreports _ (by rw [outcome?_eq_some_iff.1 houtcome]; rfl) rfl hpump
        (Option.isNone_iff_eq_none.1 hclean)
      exact ⟨r, hr, houtcome, hexplained.received, hreceiving, hfinishes⟩
  · obtain ⟨r, hr, hstuck⟩ := (Option.any_eq_true
      (fun r : Run => decide ((r.whileServing? (some r)).isSome = true ∧ r.switch.on = true ∧
        r.session.received?.isNone = true ∧ r.pump.any Pump.isLive = true ∧
          r.session.isSending 1 = true)) (after? step?
        (start (.echoing "client" ["/a"]) .off)
        [.connected none, .accept 250, .flush,
          .read (layout (Text.Utf8.encode "[\"REQUEST\",\"\",1]")), .pump, .accept 10,
          .set true])).1 (by decide +kernel)
    obtain ⟨hserves, hon, hnone, hlive, hsending⟩ := of_decide_eq_true hstuck
    obtain ⟨_, hserving⟩ := Option.isSome_iff_exists.1 hserves
    obtain ⟨-, hwhile, -⟩ := ends_as_received hr
    obtain ⟨-, -, hstops, -⟩ := hwhile (whileServing?_eq_some hserving).1
    obtain ⟨-, -, ⟨looks, next, hlooks, hnext, hfinishes⟩, -⟩ :=
      hstops (Or.inl hon) (Option.isNone_iff_eq_none.1 hnone) hlive
    exact ⟨r, looks, next, hr, hsending, hlooks, hnext, hfinishes⟩
  · obtain ⟨r, hr, hnotBegun⟩ := (Option.any_eq_true
      (fun r : Run => r.stage.isOpening && r.session.writer) (after? step?
        (start (.echoing "client" ["/a"]) ⟨true, false, false⟩)
        [.connected none])).1 (by decide +kernel)
    obtain ⟨hopening, hwriter⟩ := Bool.and_eq_true_iff.1 hnotBegun
    have hregistering := (mode_of_after? hr).stage_of_writer hopening hwriter
    obtain ⟨-, -, hpreset, -⟩ := ends_as_received hr
    obtain ⟨count, rest, next, hrest, hnext, hwritten, hfinishes⟩ :=
      (hpreset rfl (by decide)).1 hregistering (by decide) (by decide)
    exact ⟨r, count, rest, next, hr, hrest, hnext, hwritten, hfinishes⟩

end Run

end Courier
