import Courier.Proofs.Session.Step

/-!
# Sessions in which nothing more is sent

When a session is open and nobody sends, nothing that happens to it writes anything: not what is
received, not waiting for the end of receiving, and not closing, which takes the sink away.
-/

namespace Courier

namespace Session

variable {s next : Session} {metrics counted : Metrics}

/-- The bytes that the sink of a session has taken. -/
def written (s : Session) : Bytes := (s.outbound.map Outbound.written).getD []

/-- Whether a call belongs to opening the session. -/
def Call.isOpening : Call → Bool
  | .connect _ _ | .register _ _ _ => true
  | _ => false

/-- Whether an action opens the session or sends something. -/
def Action.isOpening : Action → Bool
  | .connect _ _ | .register _ _ | .send _ => true
  | _ => false

/-- The session is open or over, and nothing is being sent. -/
structure Quiet (s : Session) : Prop where
  call : s.call.any Call.isOpening = false
  outbound (o : Outbound) (h : s.outbound = some o) : o.Quiet

/-- A call that waits does not open a session that is not being opened. -/
theorem not_opening (h : s.call.any Call.isOpening = false) {c : Call} (hcall : s.call = some c) :
    c.isOpening = false := by
  rwa [hcall] at h

/-- What the sink of a session has taken. -/
theorem written_of_outbound {o : Outbound} (ho : s.outbound = some o) : s.written = o.written := by
  rw [written, ho]
  rfl

/-- A session is as quiet as its sink, unless it is being opened. -/
theorem quiet_of_outbound {o : Outbound} (hcall : s.call.any Call.isOpening = false)
    (ho : s.outbound = some o) (hquiet : o.Quiet) : s.Quiet where
  call := hcall
  outbound p hp := by
    obtain rfl : o = p := Option.some.inj (ho.symm.trans hp)
    exact hquiet

/-! ## Receiving -/

/-- Receiving goes on beside all else, but it may end the session. -/
theorem exists_withInbound (s : Session) (i : Inbound) :
    ∃ phase, s.withInbound i = { s with inbound := some i, phase } ∧
      (s.phase.isTerminal = true → phase = s.phase) := by
  unfold withInbound
  split
  · exact ⟨s.phase, rfl, fun _ => rfl⟩
  · exact ⟨_, rfl, Phase.advance_of_isTerminal⟩

/-! ## Sending -/

/-- Only a registration waits for what becomes of a send. -/
theorem settle_eq_self (h : s.call.any Call.isOpening = false) : s.settle = s := by
  unfold settle
  split
  · rename_i hcall _
    simp [hcall, Call.isOpening] at h
  · rfl

/-- What happens to the sink happens to it alone, unless a registration waits. -/
theorem exists_of_outbound? {action : Outbound.Action} (hcall : s.call.any Call.isOpening = false)
    (h : s.outbound? metrics action = some (next, counted)) :
    ∃ o after, s.outbound = some o ∧ o.Step metrics action after counted ∧
      next = { s with outbound := some after } := by
  obtain ⟨o, after, ho, hstep, hnext⟩ := outbound?_cases h
  exact ⟨o, after, ho, hstep, hnext.trans (settle_eq_self hcall)⟩

/-- What the sink can do the session can do, and unless a registration waits it does no more. -/
theorem outbound?_of_step? {o after : Outbound} {action : Outbound.Action}
    (hcall : s.call.any Call.isOpening = false) (ho : s.outbound = some o)
    (hstep : o.step? metrics action = some (after, counted)) :
    s.outbound? metrics action = some ({ s with outbound := some after }, counted) := by
  have hsettle : { s with outbound := some after }.settle = { s with outbound := some after } :=
    settle_eq_self hcall
  simp only [outbound?, ho, hstep, Option.map_some, hsettle]

/-! ## Quiet sessions -/

/-- A session that is the same but for what does not matter here. -/
theorem Quiet.of_same (h : s.Quiet) (houtbound : next.outbound = s.outbound)
    (hcall : next.call.any Call.isOpening = false) : next.Quiet ∧ next.written = s.written :=
  ⟨⟨hcall, fun o ho => h.outbound o (houtbound ▸ ho)⟩, by rw [written, written, houtbound]⟩

/-- Nothing is sent by what happens to a quiet sink. -/
theorem Quiet.outbound? (h : s.Quiet) {action : Outbound.Action}
    (haction : ∀ number e, action ≠ .send number e)
    (hstep : s.outbound? metrics action = some (next, counted)) :
    next.Quiet ∧ next.written = s.written := by
  obtain ⟨o, after, ho, hafter, rfl⟩ := exists_of_outbound? h.call hstep
  obtain ⟨hquiet, hwritten⟩ := (h.outbound o ho).step hafter haction
  refine ⟨quiet_of_outbound h.call rfl hquiet, ?_⟩
  rw [written_of_outbound ho, written_of_outbound rfl]
  exact hwritten

/-- Waiting for the end of receiving sends nothing. -/
theorem Quiet.goOnWaiting (h : s.Quiet) :
    s.goOnWaiting.Quiet ∧ s.goOnWaiting.written = s.written := by
  unfold Session.goOnWaiting
  split
  · exact ⟨h, rfl⟩
  · exact h.of_same rfl rfl

/-- Waiting for the end of receiving in order to close sends nothing. -/
theorem Quiet.goOnClosing (h : s.Quiet) :
    s.goOnClosing.Quiet ∧ s.goOnClosing.written = s.written := by
  unfold Session.goOnClosing
  split
  · exact h.of_same rfl rfl
  · split
    · exact h.of_same rfl rfl
    · exact ⟨h, rfl⟩

/-- Giving up reading sends nothing. -/
theorem Quiet.closeReader (h : s.Quiet) :
    s.closeReader.Quiet ∧ s.closeReader.written = s.written := by
  have hreader : { s with reader := false, call := some .closeReceiver }.Quiet := ⟨rfl, h.outbound⟩
  exact hreader.goOnClosing

/-- Going on with closing sends nothing. -/
theorem Quiet.settleClosing (h : s.Quiet) (shutdown : Nat) :
    (s.settleClosing shutdown).Quiet ∧ (s.settleClosing shutdown).written = s.written := by
  unfold Session.settleClosing
  split
  · exact h.closeReader
  · exact ⟨h, rfl⟩

/-- Closing sends nothing. -/
theorem Quiet.close (h : s.Quiet) (hclose : s.close metrics = (next, counted)) :
    next.Quiet ∧ next.written = s.written := by
  have hoff : s.turnOn.Quiet ∧ s.turnOn.written = s.written := by
    refine ⟨⟨h.call, ?_⟩, ?_⟩
    · intro o ho
      obtain ⟨before, hbefore, rfl⟩ := Option.map_eq_some_iff.1 ho
      exact ⟨(h.outbound before hbefore).active, (h.outbound before hbefore).waiting⟩
    · unfold written turnOn
      cases s.outbound <;> rfl
  rcases close_cases hclose with ⟨o, after, ho, hshutdown, rfl⟩ | ⟨-, ⟨-, rfl⟩ | ⟨-, rfl⟩⟩
  · have hturned : s.turnOn.outbound = some { o with cancelled := true } := by
      rw [outbound_turnOn, ho, Option.map_some]
    obtain ⟨hquiet, hwritten⟩ := (hoff.1.outbound _ hturned).step hshutdown
      fun number e => Outbound.Action.noConfusion
    have hshutting : (s.shutting after).Quiet := quiet_of_outbound rfl rfl hquiet
    obtain ⟨hfinal, hsame⟩ := hshutting.settleClosing s.sends
    refine ⟨hfinal, hsame.trans ?_⟩
    rw [← hoff.2, written_of_outbound hturned, ← hwritten]
    rfl
  · have hwriter : { s.turnOn with writer := false }.Quiet := ⟨hoff.1.call, hoff.1.outbound⟩
    obtain ⟨hfinal, hsame⟩ := hwriter.closeReader
    exact ⟨hfinal, hsame.trans hoff.2⟩
  · exact hoff

/-- Starting to receive sends nothing. -/
theorem Quiet.startReceiving (h : s.Quiet) :
    s.startReceiving.Quiet ∧ s.startReceiving.written = s.written := by
  rcases s.startReceiving_cases with ⟨-, _, hafter⟩ | ⟨-, ⟨-, hafter⟩ | ⟨-, hafter⟩⟩ <;>
    rw [hafter] <;> exact h.of_same rfl rfl

/-- Beginning to wait for the end of receiving sends nothing. -/
theorem Quiet.waitReceiver (h : s.Quiet) :
    s.waitReceiver.Quiet ∧ s.waitReceiver.written = s.written := by
  unfold Session.waitReceiver
  split
  · have hwaiting : { s with call := some .waitReceiver }.Quiet := ⟨rfl, h.outbound⟩
    exact hwaiting.goOnWaiting
  · exact h.of_same rfl rfl

/-- Whatever happens to a quiet session, nothing is sent unless somebody opens it or sends. -/
theorem Quiet.step (h : s.Quiet) {action : Action} (haction : action.isOpening = false)
    (hstep : s.step? metrics action = some (next, counted)) :
    next.Quiet ∧ next.written = s.written := by
  cases step_of_step? hstep with
  | connect => cases haction
  | register => cases haction
  | startReceiving => exact h.startReceiving
  | waitReceiver => exact h.waitReceiver
  | close _ hnext => exact h.close hnext
  | nextRequest => exact h.of_same rfl h.call
  | goOnRegistering hcall => cases not_opening h.call hcall
  | @goOnShutting shutdown _ _ _ hsink =>
    obtain ⟨hquiet, hwritten⟩ := h.outbound? (fun _ _ => Outbound.Action.noConfusion) hsink
    obtain ⟨hfinal, hsame⟩ := hquiet.settleClosing shutdown
    exact ⟨hfinal, hsame.trans hwritten⟩
  | goOnWaiting => exact h.goOnWaiting
  | goOnClosing => exact h.goOnClosing
  | connected _ hcall => cases not_opening h.call hcall
  | refused _ hcall => cases not_opening h.call hcall
  | timedOut hcall => cases not_opening h.call hcall
  | @inbound _ _ after =>
    obtain ⟨phase, hnext, -⟩ := exists_withInbound s after
    rw [hnext]
    exact h.of_same rfl h.call
  | sink hsinkStep _ hsink =>
    obtain ⟨hquiet, hwritten⟩ := h.outbound? (by
      rintro number e rfl
      cases action with
      | send => cases haction
      | _ => cases hsinkStep) hsink
    exact ⟨⟨hquiet.call, hquiet.outbound⟩, hwritten⟩

end Session

end Courier
