import Courier.Proofs.Client.Outcome
import Courier.Proofs.Client.Schedule

/-!
# Draining

When the pump comes to a good end, the queue is drained: all that was read was answered in full, and
receiving has come to its end (`Drained`). Nothing takes this back. A runner that notices the end of
receiving first does not wait for it, so a run may end well with requests that are not answered.
-/

namespace Courier

open Courier.Frame

namespace Run

variable {client : Client} {bytes : Bytes} {close : Option Inbound.Close} {switch : Switch}
  {actions : List Action} {action : Action} {r next after : Run} {outcome : Except Failure Unit}

/-! ## What is kept -/

/-- A run goes on, keeps how receiving ended, and does not bring the pump to a good end. -/
structure KeepsReceived (r next : Run) : Prop where
  received (outcome : Except Failure Unit) (h : r.session.received? = some outcome) :
    next.session.received? = some outcome
  drained (h : next.pump = some (.ended (.ok ()))) : r.pump = some (.ended (.ok ()))

/-- A run may go on to keep this. -/
theorem KeepsReceived.trans (h : KeepsReceived r next) (hafter : KeepsReceived next after) :
    KeepsReceived r after where
  received outcome houtcome := hafter.received outcome (h.received outcome houtcome)
  drained hended := h.drained (hafter.drained hended)

/-- What leaves the session and the pump alone keeps this. -/
theorem keepsReceived_of_same (hsession : next.session = r.session) (hpump : next.pump = r.pump) :
    KeepsReceived r next where
  received _ h := by rwa [hsession]
  drained h := hpump.symm.trans h

/-- What happens to the session keeps this, unless receiving is started. -/
theorem keepsReceived_onSession? {a : Session.Action} (ha : a ≠ .startReceiving)
    (h : r.onSession? a = some next) : KeepsReceived r next := by
  obtain ⟨session, metrics, hsession, rfl⟩ := exists_of_onSession? h
  exact ⟨fun _ ho => Session.received?_of_step? hsession ha ho, id⟩

/-- What may happen to the session keeps this, unless receiving is started. -/
theorem keepsReceived_onSession (r : Run) {a : Session.Action} (ha : a ≠ .startReceiving) :
    KeepsReceived r (r.onSession a) := by
  rcases r.onSession_cases a with hsame | hnext
  · rw [hsame]
    exact keepsReceived_of_same rfl rfl
  · exact keepsReceived_onSession? ha hnext

/-- The pump that looks again keeps this. -/
theorem keepsReceived_settlePump (r : Run) : KeepsReceived r r.settlePump :=
  ⟨(sameForRunner_settlePump r).1.received, (sameForRunner_settlePump r).2⟩

/-- Stopping keeps this. -/
theorem keepsReceived_stop (r : Run) (outcome : Except Failure Unit) :
    KeepsReceived r (r.stop outcome) where
  received := (sameForRunner_stopPump r).1.received
  drained h := by
    have hended : r.stopPump.pump = some (.ended (.ok ())) := h
    rcases r.stopPump_cases with ⟨-, hsame⟩ | ⟨-, hstopped | ⟨_, hstopped⟩⟩
    · rwa [hsame] at hended
    · simp [hstopped] at hended
    · simp [hstopped] at hended

/-- Looking at the switch keeps this. -/
theorem keepsReceived_lookAtSwitch (r : Run) : KeepsReceived r r.lookAtSwitch := by
  have hseen : KeepsReceived r { r with switch := { r.switch with unseen := false } } :=
    keepsReceived_of_same rfl rfl
  cases hon : r.switch.on with
  | true =>
    rw [lookAtSwitch_of_on hon]
    exact hseen.trans (keepsReceived_stop _ _)
  | false =>
    rw [lookAtSwitch_of_off hon]
    exact keepsReceived_of_same rfl rfl

/-- Going on at the end of receiving keeps this. -/
theorem keepsReceived_settleReceiver (r : Run) : KeepsReceived r r.settleReceiver := by
  rcases r.settleReceiver_cases with ⟨_, -, -, hstop⟩ | hwait
  · rw [hstop]
    exact keepsReceived_stop r _
  · rw [hwait]
    exact keepsReceived_of_same rfl rfl

/-- Closing keeps this. -/
theorem keepsReceived_close (r : Run) (outcome : Except Failure Unit) :
    KeepsReceived r (r.close outcome) :=
  (keepsReceived_onSession r Session.Action.noConfusion).trans (keepsReceived_of_same rfl rfl)

/-- Noticing something keeps this. -/
theorem keepsReceived_notice (hnext : r.noticeSwitch? = some next ∨ r.noticeReceiver? = some next ∨
    r.noticePump? = some next) : KeepsReceived r next := by
  have hwait : KeepsReceived r (r.onSession .waitReceiver).settleReceiver :=
    (keepsReceived_onSession r Session.Action.noConfusion).trans (keepsReceived_settleReceiver _)
  rcases hnext with hnext | hnext | hnext
  · rcases noticeSwitch?_eq_some_iff.1 hnext with ⟨-, rfl⟩ | ⟨-, -, rfl⟩
    · exact keepsReceived_lookAtSwitch r
    · exact keepsReceived_stop r _
  · obtain ⟨-, rfl⟩ := noticeReceiver?_eq_some_iff.1 hnext
    exact hwait
  · rcases noticePump?_eq_some_iff.1 hnext with ⟨-, rfl⟩ | ⟨_, -, rfl⟩
    · exact hwait
    · exact keepsReceived_stop r _

/-! ## The good end of the pump -/

/-- A pump that is started has not come to a good end. -/
theorem serve_drained (h : r.serve.pump = some (.ended (.ok ()))) :
    r.pump = some (.ended (.ok ())) := by
  unfold serve at h
  split at h
  · exact (keepsReceived_close r _).drained h
  · dsimp only at h
    split at h
    · cases h
    · cases (keepsReceived_lookAtSwitch _).drained h

/-- Going on with a registration does not bring the pump to a good end. -/
theorem settleRegistering_drained (h : r.settleRegistering.pump = some (.ended (.ok ()))) :
    r.pump = some (.ended (.ok ())) := by
  have hstarted := pump_onSession r .startReceiving
  unfold settleRegistering at h
  split at h
  · dsimp only at h
    split at h
    · exact hstarted.symm.trans (serve_drained h)
    · exact hstarted.symm.trans ((keepsReceived_close _ _).drained h)
    · exact hstarted.symm.trans h
  · exact (keepsReceived_close r _).drained h
  · exact h

/-- The pump does not come to a good end while the runner waits. -/
theorem settle_drained (h : r.settle.pump = some (.ended (.ok ()))) :
    r.pump = some (.ended (.ok ())) := by
  apply (keepsReceived_settlePump r).drained
  unfold settle at h
  dsimp only at h
  split at h
  · unfold settleConnecting at h
    split at h
    · have hended := settleRegistering_drained h
      rwa [pump_onSession] at hended
    · exact h
    · exact h
  · exact settleRegistering_drained h
  · exact (keepsReceived_settleReceiver _).drained h
  · exact h
  · exact h

/-- The pump comes to a good end only when it is drained. -/
theorem pumpDrained_of_step? (hstep : r.step? action = some next)
    (h : next.pump = some (.ended (.ok ()))) :
    r.pump = some (.ended (.ok ())) ∨ action = .pump ∧ PumpDrained r next := by
  cases step_of_step? hstep with
  | inbound haction hnext =>
    exact Or.inl ((keepsReceived_onSession? Session.Action.noConfusion hnext).drained h)
  | session haction hafter =>
    exact Or.inl ((sameForRunner_onSession? (isCall_of_session? haction) hafter).2.symm.trans
      (settle_drained h))
  | pump hnext => exact Or.inr ⟨rfl, (sameForRunner_pump? hnext).2 h⟩
  | noticeSwitch _ hnext => exact Or.inl ((keepsReceived_notice (Or.inl hnext)).drained h)
  | noticeReceiver _ hnext =>
    exact Or.inl ((keepsReceived_notice (Or.inr (Or.inl hnext))).drained h)
  | noticePump _ hnext => exact Or.inl ((keepsReceived_notice (Or.inr (Or.inr hnext))).drained h)
  | heartbeat => exact Or.inl ((keepsReceived_lookAtSwitch r).drained h)
  | close => exact Or.inl ((keepsReceived_close r _).drained h)
  | set on => exact Or.inl h
  | drop => exact Or.inl h

/-! ## The end of receiving -/

/-- How receiving ended stays once the session is open. -/
theorem received?_of_step? (hopen : r.stage.isOpening = false)
    (hstep : r.step? action = some next) (h : r.session.received? = some outcome) :
    next.session.received? = some outcome := by
  cases step_of_step? hstep with
  | inbound haction hnext =>
    exact (keepsReceived_onSession? Session.Action.noConfusion hnext).received outcome h
  | session haction hafter =>
    rename_i after
    obtain ⟨hrunner, -⟩ := sameForRunner_onSession? (isCall_of_session? haction) hafter
    have hsettled := (hrunner.trans (sameForRunner_settlePump after).1)
    have hreceived := hsettled.received outcome h
    have hstage : after.settlePump.stage.isOpening = false := by rw [hsettled.stage, hopen]
    unfold settle
    dsimp only
    split
    · rename_i hconnecting
      rw [hconnecting] at hstage
      cases hstage
    · rename_i hregistering
      rw [hregistering] at hstage
      cases hstage
    · exact (keepsReceived_settleReceiver _).received outcome hreceived
    · exact hreceived
    · exact hreceived
  | pump hnext => exact (sameForRunner_pump? hnext).1.received outcome h
  | noticeSwitch _ hnext => exact (keepsReceived_notice (Or.inl hnext)).received outcome h
  | noticeReceiver _ hnext =>
    exact (keepsReceived_notice (Or.inr (Or.inl hnext))).received outcome h
  | noticePump _ hnext => exact (keepsReceived_notice (Or.inr (Or.inr hnext))).received outcome h
  | heartbeat => exact (keepsReceived_lookAtSwitch r).received outcome h
  | close => exact (keepsReceived_close r _).received outcome h
  | set on => exact h
  | drop => exact h

/-- Nothing is read any more when receiving has ended. -/
theorem bytes_of_received? (hstep : r.step? action = some next)
    (h : r.session.received? = some outcome) : action.bytes = [] ∧ action.close? = none := by
  cases haction : action.inbound? with
  | none => simp [Action.bytes, Action.close?, haction]
  | some a =>
    have hsession : r.onSession? (.inbound a) = some next := by
      cases action <;> cases haction <;> exact hstep
    obtain ⟨session, metrics, hinbound, -⟩ := exists_of_onSession? hsession
    obtain ⟨i, later, hi, hlater, -⟩ := Session.exists_of_step?_inbound hinbound
    have hended : i.outcome? = some outcome := by rwa [Session.received?, hi] at h
    have hinput : ¬a.isInput = true := by
      intro hinput
      have hstage := (Inbound.isReading_iff.1 (hlater.isReading hinput)).1
      simp [Inbound.outcome?, hstage] at hended
    have hnothing : a.bytes = [] ∧ a.close? = none := by
      cases a with
      | read | readEnd | readFailure => exact absurd rfl hinput
      | _ => exact ⟨rfl, rfl⟩
    rw [Action.bytes, Action.close?, haction]
    exact hnothing

/-! ## All answers -/

/-- All that was read was answered in full, and receiving has come to its end. -/
structure Drained (client : Client) (bytes : Bytes) (close : Option Inbound.Close)
    (r : Run) : Prop where
  ended : ∃ outcome, r.session.received? = some outcome ∧
    Inbound.IsEnd client.config.session.frameLimit
      (parse client.config.session.frameLimit bytes).rest outcome close
  framed : ∃ frames, Framed (client.script (client.items bytes)) frames ∧
    r.session.written = frames.flatten

/-- A pump that drains the queue has answered all that was read. -/
theorem Waiting.drained {taken : List Inbound.Item} {written : List Bytes}
    (h : Waiting client bytes close taken written r) (hempty : PumpDrained r next) :
    Drained client bytes close next := by
  obtain ⟨j, hj, hqueue, hended⟩ := hempty.receiving
  obtain ⟨i, hi, hundisturbed⟩ := h.served.receiving
  obtain rfl : j = i := Option.some.inj (hj.symm.trans hi)
  obtain ⟨outcome, houtcome⟩ := Option.isSome_iff_exists.1 hended
  obtain ⟨hdelivered, hend⟩ := hundisturbed.of_outcome? houtcome
  obtain ⟨o, ho, hidle⟩ := h.idle
  have hitems : taken = client.items bytes := by
    rw [Client.items, ← hdelivered, ← hundisturbed.queue, hqueue, List.append_nil]
  have hreceived : r.session.received? = some outcome := by
    rw [Session.received?, hj]
    exact houtcome
  have hresting := (resting_endPump h.served.client_eq
    h.served.isOpening_eq_false (Session.quiet_of_outbound h.served.call_any ho hidle.quiet)
    (rfl : (Pump.ended (.ok ())).isLive = false)).1
  rw [hempty.next_eq]
  refine ⟨⟨outcome, (sameForRunner_endPump r _).received outcome hreceived, hend⟩, written,
    hitems ▸ h.framed, ?_⟩
  rw [hresting.written_eq, Session.written_of_outbound ho, hidle.written_eq]

/-- The pump of a run comes to a good end only by draining the queue. -/
theorem Mode.drained {faulty : Bool} (h : Mode client bytes close faulty r)
    (hempty : PumpDrained r next) : Drained client bytes close next := by
  have hwaiting := hempty.pump
  cases h with
  | connecting switch hrun =>
    rw [hrun] at hwaiting
    cases hwaiting
  | registering h => cases h.pump.symm.trans hwaiting
  | liveOrFinished h =>
    cases h with
    | live h =>
      cases h with
      | waiting h => exact h.drained hempty
      | sending h =>
        obtain ⟨_, number, _, hpump, -⟩ := h.busy
        cases hpump.symm.trans hwaiting
    | finished h =>
      have hpump := h.resting.pump
      rw [hwaiting] at hpump
      cases hpump

/-- What was answered stays answered. -/
theorem Drained.step {faulty : Bool} (h : Drained client bytes close r)
    (hmode : Mode client bytes close faulty r) (hpump : r.pump = some (.ended (.ok ())))
    (hstep : r.step? action = some next) :
    Drained client (bytes ++ action.bytes) (close.or action.close?) next := by
  obtain ⟨outcome, hreceived, hend⟩ := h.ended
  obtain ⟨frames, hframed, hwritten⟩ := h.framed
  obtain ⟨hbytes, hclose⟩ := bytes_of_received? hstep hreceived
  rw [hbytes, hclose, List.append_nil, Option.or_none]
  cases hmode with
  | connecting switch hrun =>
    rw [hrun] at hpump
    cases hpump
  | registering h => cases h.pump.symm.trans hpump
  | liveOrFinished h =>
    cases h with
    | live h =>
      cases h with
      | waiting h => cases h.pump.symm.trans hpump
      | sending h =>
        obtain ⟨_, number, _, hsending, -⟩ := h.busy
        cases hsending.symm.trans hpump
    | finished h =>
      exact ⟨⟨outcome, received?_of_step? h.resting.stage hstep hreceived, hend⟩, frames, hframed,
        (h.resting.step hstep).1.written_eq.trans hwritten⟩

/-- Where the pump has come to a good end, all that was read was answered in full. -/
theorem drained_of_after? (h : after? step? (start client switch) actions = some r)
    (hpump : r.pump = some (.ended (.ok ()))) :
    Drained client (received actions) (closed? actions) r := by
  refine after?_induction (motive := fun actions r => r.pump = some (.ended (.ok ())) →
    Drained client (received actions) (closed? actions) r) ?_ ?_ h hpump
  · intro hpump
    cases hpump
  · intro actions r action next hafter ih hstep hpump
    -- Either the pump was done before, and then nothing is read or written any more, or this step
    -- drains the queue, and then the books of the answering run balance.
    have hmode := mode_of_after? hafter
    have hnext : Drained client (received actions ++ action.bytes)
        ((closed? actions).or action.close?) next := by
      rcases pumpDrained_of_step? hstep hpump with hbefore | ⟨rfl, hempty⟩
      · exact (ih hbefore).step hmode hbefore hstep
      · simpa [Action.bytes, Action.close?, Action.inbound?] using hmode.drained hempty
    simpa [received, closed?, List.flatMap_append, List.findSome?_append] using hnext

/-! ## Ending well -/

/-- An end of the stream was read. -/
theorem readEnd_mem_of_closed? (h : closed? actions = some .streamEnd) : .readEnd ∈ actions := by
  obtain ⟨action, hmem, hclose⟩ := List.exists_of_findSome?_eq_some h
  cases action with
  | readEnd => exact hmem
  | _ => cases hclose

/-- Where receiving ended well after all that was read, the end of the stream was read. -/
theorem closed?_of_isEnd {limit : Nat} {rest : Bytes}
    (h : Inbound.IsEnd limit rest (.ok ()) close) : close = some .streamEnd := by
  cases close with
  | none =>
    obtain ⟨_, -, hfailed⟩ := h
    cases hfailed
  | some c =>
    cases c with
    | streamEnd => rfl
    | failure reason => cases h.2

/-- If nobody asks the runner to stop and it ends well, either the pump was done, and every request
of the stream was answered in full and in turn; or the end of receiving was noticed while the pump
was not done, and the answers were broken off somewhere. -/
theorem answered_of_ended_well {client : Client} {switch : Switch} {actions : List Action} {r : Run}
    {stream : Bytes} (h : after? step? (start client switch) actions = some r)
    (hasked : asked switch actions = false) (hread : received actions <+: stream)
    (hend : .readEnd ∈ actions → received actions = stream)
    (houtcome : r.outcome? = some (.ok ())) :
    (r.pump = some (.ended (.ok ())) ∧
      ∃ frames, Framed (client.script (client.items stream)) frames ∧
        r.session.written = frames.flatten ∧
        ∀ e, .ok e ∈ client.items stream → e.subject = Subject.request →
          ∃ reply frame, client.dispatcher.reply? e = some reply ∧
            (reply.subject = Subject.response ∨ reply.subject = Subject.error) ∧
            reply.request = e.request ∧ reply.toFrame = .ok frame ∧ frame ∈ frames) ∨
    (r.pump ≠ some (.ended (.ok ())) ∧ .noticeReceiver ∈ actions ∧ .noticePump ∉ actions ∧
      r.session.written <+: client.wire stream) := by
  have hreason := ((outcomeAtStage_of_after? h).outcomeKnown_of_outcome? houtcome).reason
  by_cases hpump : r.pump = some (.ended (.ok ()))
  · left
    have hdrained := drained_of_after? h hpump
    obtain ⟨outcome, hreceived, hisEnd⟩ := hdrained.ended
    obtain ⟨frames, hframed, hwritten⟩ := hdrained.framed
    -- The runner may have noticed either end, but what it returns is how receiving ended.
    have hok : outcome = .ok () := by
      cases hreason with
      | asked htrue => cases htrue.symm.trans hasked
      | receiver _ _ _ hended => exact Option.some.inj (hreceived.symm.trans hended)
      | drained _ _ _ _ hended => exact Option.some.inj (hreceived.symm.trans hended)
    subst hok
    obtain rfl := hend (readEnd_mem_of_closed? (closed?_of_isEnd hisEnd))
    exact ⟨hpump, frames, hframed, hwritten,
      fun _ he hrequest => Client.exists_frame_of_request hframed he hrequest⟩
  · right
    obtain ⟨unread, rfl⟩ := hread
    have hwritten := (written_eq_wire h).1.trans (client.wire_prefix (received actions) unread)
    cases hreason with
    | asked htrue => cases htrue.symm.trans hasked
    | receiver _ hnotice hother => exact ⟨hpump, hnotice, hother, hwritten⟩
    | drained _ _ _ hended => exact absurd hended hpump

/-- A request is answered before the end of the pump is noticed. -/
theorem answered_of_ended_well_drained :
    ∃ r frames, after? step? (start (.echoing "client" ["/a"]) .off)
        [.connected none, .accept 250, .flush,
          .read (layout (Text.Utf8.encode "[\"REQUEST\",\"\",1]")), .pump, .accept 236, .flush,
          .readEnd, .pump, .noticePump, .close] = some r ∧
      Framed (Client.script (.echoing "client" ["/a"]) (Client.items (.echoing "client" ["/a"])
        (layout (Text.Utf8.encode "[\"REQUEST\",\"\",1]")))) frames ∧
      r.session.written = frames.flatten := by
  obtain ⟨r, hr, hends⟩ := (Option.any_eq_true
    (fun r : Run => r.outcome?.any Except.isOk) (after? step?
      (start (.echoing "client" ["/a"]) .off)
      [.connected none, .accept 250, .flush,
        .read (layout (Text.Utf8.encode "[\"REQUEST\",\"\",1]")), .pump, .accept 236, .flush,
        .readEnd, .pump, .noticePump, .close])).1 (by decide +kernel)
  obtain ⟨outcome, houtcome, hgood⟩ := (Option.any_eq_true _ _).1 hends
  have hok : r.outcome? = some (.ok ()) := by
    cases outcome with
    | ok => exact houtcome
    | error => cases hgood
  rcases answered_of_ended_well hr rfl (List.prefix_refl _) (fun _ => rfl) hok with
    ⟨-, frames, hframed, hwritten, -⟩ | ⟨-, hreceiver, -⟩
  · refine ⟨r, frames, hr, ?_, hwritten⟩
    simpa [received, Action.bytes, Action.inbound?, Inbound.Action.bytes] using hframed
  · exact absurd hreceiver (by decide)

/-- A request has been read, and the end of the stream. The end of receiving is noticed at once: the
run ends well, and nothing but the registration is written. -/
theorem unanswered_of_noticed_receiver :
    ∃ r e, after? step? (start (.echoing "client" ["/a"]) .off)
        [.connected none, .accept 250, .flush,
          .read (layout (Text.Utf8.encode "[\"REQUEST\",\"\",1]")), .readEnd, .noticeReceiver,
          .close] = some r ∧
      r.outcome? = some (.ok ()) ∧
      (parse Config.Limits.standard.frameLimit
        (layout (Text.Utf8.encode "[\"REQUEST\",\"\",1]"))).rest = [] ∧
      .ok e ∈ Client.items (.echoing "client" ["/a"])
        (layout (Text.Utf8.encode "[\"REQUEST\",\"\",1]")) ∧
      e.subject = Subject.request ∧
      (Client.registration (.echoing "client" ["/a"])).toFrame.toOption =
        some r.session.written := by
  obtain ⟨r, hr, hends⟩ := (Option.any_eq_true
    (fun r : Run => r.outcome?.any Except.isOk &&
      decide ((Client.registration (.echoing "client" ["/a"])).toFrame.toOption =
        some r.session.written))
    (after? step? (start (.echoing "client" ["/a"]) .off)
      [.connected none, .accept 250, .flush,
        .read (layout (Text.Utf8.encode "[\"REQUEST\",\"\",1]")), .readEnd, .noticeReceiver,
        .close])).1 (by decide +kernel)
  obtain ⟨item, hitem, hrequest⟩ := List.any_eq_true.1 (by decide +kernel :
    (Client.items (.echoing "client" ["/a"])
      (layout (Text.Utf8.encode "[\"REQUEST\",\"\",1]"))).any
        (fun item => item.toOption.any (·.subject = Subject.request)) = true)
  obtain ⟨hok, hwritten⟩ := Bool.and_eq_true_iff.1 hends
  obtain ⟨outcome, houtcome, hgood⟩ := (Option.any_eq_true _ _).1 hok
  cases outcome with
  | error => cases hgood
  | ok =>
    cases item with
    | error => cases hrequest
    | ok e =>
      exact ⟨r, e, hr, houtcome, by decide +kernel, hitem, of_decide_eq_true hrequest,
        of_decide_eq_true hwritten⟩

end Run

end Courier
