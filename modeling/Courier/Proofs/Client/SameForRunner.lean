import Courier.Proofs.Client.Resting
import Courier.Proofs.Session.Receiving

/-!
# What goes on beside the runner

Receiving, the connection and the pump go on while the runner waits. None of that makes a call,
moves the runner, or takes back how receiving ended (`SameForRunner`). The pump ends well in one
way only: nothing is left in the queue, and receiving has ended (`PumpDrained`).
-/

namespace Courier

namespace Run

/-- What a run has in common with what it becomes without the runner. -/
structure SameForRunner (r next : Run) : Prop where
  stage : next.stage = r.stage
  switch : next.switch = r.switch
  idle (h : r.session.call = none) :
    next.session.call = none ∧ next.session.unawaited = r.session.unawaited
  received (outcome : Except Failure Unit) (h : r.session.received? = some outcome) :
    next.session.received? = some outcome

/-- The pump comes to its end since no item is left and none will come. -/
structure PumpDrained (r next : Run) : Prop where
  pump : r.pump = some .waiting
  receiving : ∃ i, r.session.inbound = some i ∧ i.queue = [] ∧ i.outcome?.isSome = true
  next_eq : next = r.endPump (.ended (.ok ()))

variable {r next after : Run}

/-- What an action means for the session is not a call. -/
theorem isCall_of_session? {action : Action} {a : Session.Action}
    (h : action.session? = some a) :
    a.isCall = false := by
  cases action <;> cases h <;> rfl

/-- Nothing has to happen beside the runner. -/
theorem SameForRunner.refl (r : Run) : SameForRunner r r :=
  ⟨rfl, rfl, fun h => ⟨h, rfl⟩, fun _ h => h⟩

/-- What happens beside the runner may go on to do so. -/
theorem SameForRunner.trans (h : SameForRunner r next) (hafter : SameForRunner next after) :
    SameForRunner r after where
  stage := hafter.stage.trans h.stage
  switch := hafter.switch.trans h.switch
  idle hcall := by
    obtain ⟨hnone, hunawaited⟩ := h.idle hcall
    obtain ⟨hidle, hsame⟩ := hafter.idle hnone
    exact ⟨hidle, hsame.trans hunawaited⟩
  received outcome houtcome := hafter.received outcome (h.received outcome houtcome)

/-- What is no call happens to a session beside the runner. -/
theorem sameForRunner_onSession? {action : Session.Action} (haction : action.isCall = false)
    (h : r.onSession? action = some next) : SameForRunner r next ∧ next.pump = r.pump := by
  obtain ⟨⟨session, metrics⟩, hsession, rfl⟩ := Option.map_eq_some_iff.1 h
  refine ⟨⟨rfl, rfl, fun hcall => Session.idle_of_step? hcall haction hsession,
    fun outcome houtcome => Session.received?_of_step? hsession ?_ houtcome⟩, rfl⟩
  rintro rfl
  cases haction

/-- What is no call may happen to a session beside the runner. -/
theorem sameForRunner_onSession (r : Run) {action : Session.Action}
    (haction : action.isCall = false) : SameForRunner r (r.onSession action) := by
  rcases r.onSession_cases action with hsame | hnext
  · rw [hsame]
    exact SameForRunner.refl r
  · exact (sameForRunner_onSession? haction hnext).1

/-- The pump comes to its end beside the runner. -/
theorem sameForRunner_endPump (r : Run) (pump : Pump) : SameForRunner r (r.endPump pump) := by
  have hpump : SameForRunner r { r with pump := some pump } :=
    ⟨rfl, rfl, fun h => ⟨h, rfl⟩, fun _ h => h⟩
  exact hpump.trans (sameForRunner_onSession { r with pump := some pump }
    (rfl : (Session.Action.inbound .leave).isCall = false))

/-- The pump looks again beside the runner, and does not come to a good end by it. -/
theorem sameForRunner_settlePump (r : Run) :
    SameForRunner r r.settlePump ∧
      (r.settlePump.pump = some (.ended (.ok ())) → r.pump = some (.ended (.ok ()))) := by
  rcases r.settlePump_cases with hsame | hwaits | ⟨failure, hended⟩
  · rw [hsame]
    exact ⟨SameForRunner.refl r, id⟩
  · rw [hwaits]
    refine ⟨⟨rfl, rfl, fun h => ⟨h, rfl⟩, fun _ h => h⟩, ?_⟩
    intro hpump
    cases hpump
  · rw [hended]
    exact ⟨sameForRunner_endPump r _, by simp⟩

/-- An item is answered beside the runner, and the pump does not come to a good end by it. -/
theorem sameForRunner_answer (r : Run) (e : Envelope) :
    SameForRunner r (r.answer e) ∧
      ((r.answer e).pump = some (.ended (.ok ())) → r.pump = some (.ended (.ok ()))) := by
  unfold answer
  dsimp only
  cases r.client.dispatcher.reply? e with
  | none => exact ⟨⟨rfl, rfl, fun h => ⟨h, rfl⟩, fun _ h => h⟩, id⟩
  | some reply =>
    dsimp only
    generalize hbegun : ({ r with
        metrics := r.metrics.countReply (some reply)
        pump := some (.sending r.session.sends) } : Run) = begun
    have hcounted : SameForRunner r begun := by
      subst hbegun
      exact ⟨rfl, rfl, fun h => ⟨h, rfl⟩, fun _ h => h⟩
    have hsent := sameForRunner_onSession begun
      (rfl : (Session.Action.send reply).isCall = false)
    obtain ⟨hsettled, hgood⟩ := sameForRunner_settlePump (begun.onSession (.send reply))
    refine ⟨hcounted.trans (hsent.trans hsettled), ?_⟩
    intro hended
    have hsending := (hgood hended).symm.trans (pump_onSession begun _)
    subst hbegun
    cases hsending

/-- The pump goes on beside the runner, and comes to a good end only when it is drained. -/
theorem sameForRunner_pump? (h : r.pump? = some next) :
    SameForRunner r next ∧ (next.pump = some (.ended (.ok ())) → PumpDrained r next) := by
  have hlive : r.pump ≠ some (.ended (.ok ())) := by
    intro hpump
    rw [pump?_of_not_live (by rw [hpump]; rfl)] at h
    cases h
  unfold pump? at h
  split at h
  · rename_i i hpump hi
    split at h
    · obtain ⟨taken, htaken, rfl⟩ := Option.map_eq_some_iff.1 h
      obtain ⟨hsession, hsame⟩ := sameForRunner_onSession? rfl htaken
      obtain ⟨hanswered, hgood⟩ := sameForRunner_answer taken _
      exact ⟨hsession.trans hanswered, fun hended => absurd (hsame.symm.trans (hgood hended)) hlive⟩
    · obtain ⟨hsession, hsame⟩ := sameForRunner_onSession? rfl h
      exact ⟨hsession, fun hended => absurd (hsame.symm.trans hended) hlive⟩
    · rename_i hqueue
      simp only [Option.ite_none_right_eq_some, Option.some.injEq] at h
      obtain ⟨hended, rfl⟩ := h
      exact ⟨sameForRunner_endPump r _, fun _ => ⟨hpump, ⟨i, hi, hqueue, hended⟩, rfl⟩⟩
  · obtain ⟨polled, hpolled, rfl⟩ := Option.map_eq_some_iff.1 h
    obtain ⟨hsession, hsame⟩ := sameForRunner_onSession? rfl hpolled
    obtain ⟨hsettled, hgood⟩ := sameForRunner_settlePump polled
    exact ⟨hsession.trans hsettled, fun hended => absurd (hsame.symm.trans (hgood hended)) hlive⟩
  · cases h

/-- When the pump is stopped, nobody answers any more. -/
theorem sameForRunner_stopPump (r : Run) :
    SameForRunner r r.stopPump ∧ r.stopPump.pump.any Pump.isLive = false := by
  rcases r.stopPump_cases with ⟨hpump, hsame⟩ | ⟨-, hstopped | ⟨send, hstopped⟩⟩
  · rw [hsame]
    exact ⟨SameForRunner.refl r, hpump⟩
  · rw [hstopped]
    exact ⟨sameForRunner_endPump r .stopped, by rw [pump_endPump]; rfl⟩
  · rw [hstopped]
    have habandoned := sameForRunner_onSession r
      (rfl : (Session.Action.abandonSend send).isCall = false)
    exact ⟨habandoned.trans (sameForRunner_endPump _ .stopped), by rw [pump_endPump]; rfl⟩

end Run

end Courier
