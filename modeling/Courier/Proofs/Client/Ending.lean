import Courier.Proofs.Client.SessionAtStage

/-!
# Every run ends as it has to

As soon as the outcome of a run is known nobody answers any more. Nothing is written from then on
and the outcome stays, whatever happens; and what is left to do the runner and receiving can do by
themselves: the runner closes the session, receiving looks again, and so does the runner
(`Finishes`). When the run has ended the pump is gone, nobody receives, and the sink is given up.
-/

namespace Courier

namespace Run

variable {client : Client} {switch : Switch} {actions later : List Action} {action : Action}
  {bytes : Bytes} {close : Option Inbound.Close} {faulty : Bool} {r next : Run}
  {outcome : Except Failure Unit}

/-- Whatever happens to a run from now on, it writes nothing and comes to no other outcome. It is
never further from its end than the close of the session and one look each of receiving and the
runner. -/
def Finishes (r : Run) (outcome : Except Failure Unit) : Prop :=
  ∀ later d, after? step? r later = some d →
    d.session.written = r.session.written ∧ (∀ other, d.outcome? = some other → other = outcome) ∧
    ∃ rest e, rest.Sublist [.close, .receive, .poll] ∧ after? step? d rest = some e ∧
      e.outcome? = some outcome

/-! ## What stays -/

/-- The outcome of a run that is over is known. -/
theorem OutcomeKnown.verdict?_eq (h : OutcomeKnown switch actions outcome r) :
    r.stage.verdict? = some outcome := by
  rcases h.stage with hstage | hstage | hstage <;> rw [hstage] <;> rfl

/-- Once its outcome is known nobody answers in a run any more, and what was written stays. -/
theorem Mode.resting_of_verdict? (h : Mode client bytes close faulty r)
    (hverdict : r.stage.verdict? = some outcome) : r.Resting client r.session.written := by
  cases h with
  | connecting switch hrun =>
    subst hrun
    cases hverdict
  | registering h =>
    rw [h.stage] at hverdict
    cases hverdict
  | liveOrFinished h =>
    cases h with
    | finished h => exact h.resting
    | live h =>
      obtain ⟨_, _, hreplying⟩ := h.exists_replying
      rcases hreplying.served.stage with hstage | hstage <;> rw [hstage] at hverdict <;>
        cases hverdict

/-- A run whose outcome is known keeps its pump. -/
theorem OutcomeKnown.pump_of_step? (h : OutcomeKnown switch actions outcome r)
    (hstep : r.step? action = some next) : next.pump = r.pump := by
  have hserving (hserving : r.stage = .serving) : next.pump = r.pump := by
    rcases h.stage with hstage | hstage | hstage <;> cases hserving.symm.trans hstage
  cases step_of_step? hstep with
  | inbound haction hnext => exact (sameForRunner_onSession? rfl hnext).2
  | @session _ _ later haction hlater =>
    obtain ⟨hrunner, hsame⟩ := sameForRunner_onSession? (isCall_of_session? haction) hlater
    have hpump : later.pump.any Pump.isLive = false := hsame.symm ▸ h.pump
    rcases h.stage with hstage | hstage | hstage
    · rw [settle_eq_self hpump (Or.inl (hrunner.stage.trans hstage))]
      exact hsame
    · rw [settle_eq_settleClosing hpump (hrunner.stage.trans hstage)]
      exact hsame
    · rw [settle_eq_self hpump (Or.inr (hrunner.stage.trans hstage))]
      exact hsame
  | pump hnext =>
    rw [pump?_of_not_live h.pump] at hnext
    cases hnext
  | noticeSwitch hstage | noticeReceiver hstage | noticePump hstage | heartbeat hstage =>
    exact hserving hstage
  | close => exact pump_onSession r .close
  | set on => rfl
  | drop => rfl

/-- An outcome that is known stays, whatever happens, and nothing is written. -/
theorem verdict?_of_later (h : after? step? (start client switch) actions = some r)
    (hverdict : r.stage.verdict? = some outcome) (hlater : after? step? r later = some next) :
    next.stage.verdict? = some outcome ∧ next.session.written = r.session.written := by
  refine after?_induction (motive := fun _ next => next.stage.verdict? = some outcome ∧
    next.session.written = r.session.written) ⟨hverdict, rfl⟩ ?_ hlater
  rintro later s action t hs ⟨hknown, hwritten⟩ hstep
  have hreached := after?_trans h hs
  have houtcomeKnown := (outcomeAtStage_of_after? hreached).outcomeKnown_of_verdict? hknown
  have hresting := (mode_of_after? hreached).resting_of_verdict? hknown
  exact ⟨(houtcomeKnown.step hstep).verdict?_eq, (hresting.step hstep).1.written_eq.trans hwritten⟩

/-! ## The way to the end -/

/-- Where nobody sends or receives, a runner that closes the session is done when it looks. -/
theorem exists_poll_of_closing (h : after? step? (start client switch) actions = some r)
    (hstage : r.stage = .closing outcome) (hcloseBegun : r.session.CloseBegun)
    (hwaits : r.session.call.isSome = true) (hstopped : r.session.isReceiving = false) :
    ∃ e, r.step? .poll = some e ∧ e.outcome? = some outcome := by
  have hverdict : r.stage.verdict? = some outcome := by rw [hstage]; rfl
  have hresting := (mode_of_after? h).resting_of_verdict? hverdict
  have hcalls := (sessionSound_of_after? h).agreesWithCalls
  obtain ⟨session, hpoll, hreturned⟩ := hcloseBegun.step?_poll hwaits
    (Session.isSending_of_quiet hresting.quiet.outbound)
    (hcalls.received?_of_unawaited hstopped) r.metrics
  have hidle : session.call = none := by
    obtain ⟨-, -, hanswers⟩ := hcloseBegun.step hcalls.hasUniquePlaces
      (hcalls.step hpoll).hasUniquePlaces hpoll
    rcases hanswers.waits hwaits with ⟨-, hsame⟩ | ⟨hnone, -⟩
    · rw [hreturned] at hsame
      simp at hsame
    · exact hnone
  refine ⟨{ r with session, stage := .ended outcome }, ?_, rfl⟩
  have hclosing : settle { r with session } = { r with session, stage := .ended outcome } := by
    rw [settle_eq_settleClosing (r := { r with session }) hresting.pump hstage, settleClosing,
      hidle]
    rfl
  simp only [step?, onSession?, hpoll, Option.map_some]
  exact congrArg some hclosing

/-- A runner that closes the session is done when receiving and the runner have looked. -/
theorem exists_end_of_closing (h : after? step? (start client switch) actions = some r)
    (hstage : r.stage = .closing outcome) (hcloseBegun : r.session.CloseBegun)
    (hwaits : r.session.call.isSome = true) :
    ∃ rest e, rest.Sublist [.receive, .poll] ∧ after? step? r rest = some e ∧
      e.outcome? = some outcome := by
  cases hgoing : r.session.isReceiving with
  | false =>
    obtain ⟨e, hpoll, houtcome⟩ := exists_poll_of_closing h hstage hcloseBegun hwaits hgoing
    exact ⟨[.poll], e, .cons _ (.refl _), after?_cons hpoll rfl, houtcome⟩
  | true =>
    obtain ⟨session, hresume, hstopped⟩ := hcloseBegun.step?_resume hgoing r.metrics
    have hreceive : r.step? .receive = some { r with session } := by
      simp only [step?, onSession?, hresume, Option.map_some]
    have hlater := after?_snoc h hreceive
    have hstill : session.call.isSome = true := by
      obtain ⟨_, i, -, -, rfl⟩ := Session.exists_of_step?_inbound hresume
      rwa [Session.call_withInbound]
    obtain ⟨e, hpoll, houtcome⟩ := exists_poll_of_closing hlater hstage
      (hcloseBegun.reachesUnclosed (sessionSound_of_after? h).agreesWithCalls hresume).2.1
      hstill hstopped
    exact ⟨[.receive, .poll], e, .refl _, after?_cons hreceive (after?_cons hpoll rfl), houtcome⟩

/-- As soon as the outcome is known, the run can end with it. -/
theorem exists_end_of_verdict? (h : after? step? (start client switch) actions = some r)
    (hverdict : r.stage.verdict? = some outcome) :
    ∃ rest e, rest.Sublist [.close, .receive, .poll] ∧ after? step? r rest = some e ∧
      e.outcome? = some outcome := by
  -- A stage with an outcome is the end, or closes the session, or has yet to begin with that.
  have hclosing {s : Run} {made : List Action}
      (hs : after? step? (start client switch) made = some s)
      (hknown : s.stage.verdict? = some outcome) (hstopping : s.stage ≠ .stopping outcome) :
      ∃ rest e, rest.Sublist [.receive, .poll] ∧ after? step? s rest = some e ∧
        e.outcome? = some outcome := by
    rcases (sessionSound_of_after? hs).sessionAtStage.of_verdict? hknown with
      hstage | ⟨hstage, hwaits, hcloseBegun⟩ | hstage
    · exact absurd hstage hstopping
    · exact exists_end_of_closing hs hstage hcloseBegun hwaits
    · exact ⟨[], s, List.nil_sublist _, rfl, outcome?_eq_some_iff.2 hstage⟩
  by_cases hstage : r.stage = .stopping outcome
  · have hclose : r.step? .close = some (r.close outcome) := by simp only [step?, hstage]
    have hlater : (r.close outcome).stage.verdict? = some outcome ∧
        (r.close outcome).stage ≠ .stopping outcome := by
      rcases (r.onSession .close).settleClosing_cases outcome with hclosed | hclosed <;>
        rw [Run.close, hclosed] <;> exact ⟨rfl, Stage.noConfusion⟩
    obtain ⟨rest, e, hrest, hafter, houtcome⟩ := hclosing
      (after?_snoc h hclose) hlater.1 hlater.2
    exact ⟨.close :: rest, e, hrest.cons_cons _, after?_cons hclose hafter, houtcome⟩
  · obtain ⟨rest, e, hrest, hafter, houtcome⟩ := hclosing h hverdict hstage
    exact ⟨rest, e, .cons _ hrest, hafter, houtcome⟩

/-- As soon as the outcome of a run is known, the run ends with it and writes nothing more. -/
theorem finishes_of_verdict? (h : after? step? (start client switch) actions = some r)
    (hverdict : r.stage.verdict? = some outcome) : r.Finishes outcome := by
  intro later d hlater
  obtain ⟨hknown, hwritten⟩ := verdict?_of_later h hverdict hlater
  have hreached := after?_trans h hlater
  refine ⟨hwritten, fun other hother => ?_, exists_end_of_verdict? hreached hknown⟩
  rw [outcome?_eq_some_iff.1 hother] at hknown
  exact Option.some.inj hknown

/-! ## The end -/

/-- When a run has ended nobody answers or receives any more, and the sink is given up. -/
theorem nothing_left_of_outcome? (h : after? step? (start client switch) actions = some r)
    (houtcome : r.outcome? = some outcome) :
    r.pump.any Pump.isLive = false ∧ r.session.isReceiving = false ∧
      ∀ o, r.session.outbound = some o → o.attached = false := by
  have hended := outcome?_eq_some_iff.1 houtcome
  obtain ⟨hcalls, hsession⟩ := sessionSound_of_after? h
  refine ⟨((outcomeAtStage_of_after? h).outcomeKnown_of_outcome? houtcome).pump, ?_⟩
  cases hsession with
  | unclosed hstage =>
    rw [hended] at hstage
    cases hstage
  | stopped _ hstage => cases hended.symm.trans hstage
  | closing _ hstage => cases hended.symm.trans hstage
  | closed _ _ hidle hcloseBegun =>
    obtain ⟨-, hdrained, -, hterminal⟩ := hcloseBegun.rest hidle
    exact ⟨hcalls.isReceiving_of_isTerminal hterminal, fun o ho => (hdrained o ho).attached⟩
  | unconnected _ _ _ houtbound hinbound =>
    rw [Session.isReceiving, hinbound, houtbound]
    exact ⟨rfl, by rintro _ ⟨⟩⟩

end Run

end Courier
