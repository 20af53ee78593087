import Courier.Proofs.Inbound.Interference
import Courier.Proofs.Session.ReceivingStep

/-!
# Receiving beside the calls

Once receiving has ended, how it ended does not change any more, whatever happens to the session.
And where no call waits none begins to wait but by being made.
-/

namespace Courier

namespace Session

variable {s next : Session} {metrics counted : Metrics} {action : Action}

/-- How receiving ended, if it was started and has ended. -/
def received? (s : Session) : Option (Except Failure Unit) := s.inbound.bind Inbound.outcome?

/-- How receiving ended is known from the receiving side. -/
theorem received?_of_inbound {t : Session} (h : t.inbound = s.inbound) :
    t.received? = s.received? := by
  rw [received?, received?, h]

/-- How receiving ended stays. -/
theorem outcome?_of_step {i after : Inbound} {a : Inbound.Action}
    (hstep : i.Step metrics a after counted) {outcome : Except Failure Unit}
    (h : i.outcome? = some outcome) : after.outcome? = some outcome := by
  have hstopped : i.isStopped = true := by
    simp [Inbound.isStopped, Inbound.outcome?_eq_some_iff.1 h]
  obtain ⟨-, -, -, hsame | ⟨hnone, -⟩⟩ := hstep.of_isStopped hstopped
  · exact hsame.trans h
  · rw [h] at hnone
    cases hnone

/-- How receiving ended stays, whatever happens to the session. -/
theorem received?_of_step? (hstep : s.step? metrics action = some (next, counted))
    (haction : action ≠ .startReceiving) {outcome : Except Failure Unit}
    (h : s.received? = some outcome) : next.received? = some outcome := by
  have hsides := receivingStep_of_step? hstep
  unfold received? at h ⊢
  generalize next.inbound = after at hsides ⊢
  cases hsides with
  | received hi hafter =>
    rw [hi] at h
    exact outcome?_of_step hafter h
  | started => exact absurd rfl haction
  | closed =>
    obtain ⟨i, hi, houtcome⟩ := Option.bind_eq_some_iff.1 h
    rw [hi]
    exact houtcome
  | flushed | silent => exact h

/-! ## Where no call waits -/

/-- Where no call waits, none waits after what is no call. -/
theorem idle_of_step? (hcall : s.call = none) (haction : action.isCall = false)
    (hstep : s.step? metrics action = some (next, counted)) :
    next.call = none ∧ next.unawaited = s.unawaited := by
  cases step_of_step? hstep with
  | nextRequest => exact ⟨hcall, rfl⟩
  | goOnRegistering hwaits => cases hcall.symm.trans hwaits
  | goOnShutting hwaits => cases hcall.symm.trans hwaits
  | goOnWaiting hwaits => cases hcall.symm.trans hwaits
  | goOnClosing hwaits => cases hcall.symm.trans hwaits
  | connected _ hwaits => cases hcall.symm.trans hwaits
  | refused _ hwaits => cases hcall.symm.trans hwaits
  | timedOut hwaits => cases hcall.symm.trans hwaits
  | @inbound _ _ after =>
    obtain ⟨phase, hnext, -⟩ := exists_withInbound s after
    rw [hnext]
    exact ⟨hcall, rfl⟩
  | sink _ _ hsink =>
    obtain ⟨o, after, -, -, rfl⟩ := exists_of_outbound? (by rw [hcall]; rfl) hsink
    exact ⟨hcall, rfl⟩
  | _ => cases haction

end Session

end Courier
