import Courier.Proofs.Session.Quiet

/-!
# What a session receives and counts

Of all that happens to a session only two things are counted: what is received, and the frames that
are flushed. Receiving is touched, besides by what happens to it, by its start and by closing alone.
Both are said once here, for all steps (`ReceivingStep`).
-/

namespace Courier

/-- Nothing is counted on the way out but the flush of the frame that holds the sink. -/
theorem Outbound.Step.counted_eq {o after : Outbound} {metrics counted : Metrics}
    {action : Outbound.Action} (h : o.Step metrics action after counted) :
    action ≠ .flush ∧ counted = metrics ∨ ∃ holder, action = .flush ∧ o.active = some holder ∧
      counted = metrics.countSent holder.send.frame.length := by
  cases h with
  | flush holder hactive => exact Or.inr ⟨holder, rfl, hactive, rfl⟩
  | begins w _ hw =>
    refine Or.inl ⟨?_, rfl⟩
    rintro rfl
    cases hw
  | _ => exact Or.inl ⟨Outbound.Action.noConfusion, rfl⟩

/-- What is no flush counts nothing on the way out. -/
theorem Outbound.Step.counted_eq_of_ne_flush {o after : Outbound} {metrics counted : Metrics}
    {action : Outbound.Action} (h : o.Step metrics action after counted)
    (hflush : action ≠ .flush) : counted = metrics := by
  rcases h.counted_eq with ⟨-, hcounted⟩ | ⟨_, hflushed, -⟩
  · exact hcounted
  · exact absurd hflushed hflush

namespace Session

variable {s next : Session} {metrics counted : Metrics} {action : Action}

/-- Whether an action is sure to be counted, or to touch what is received. -/
def Action.concernsReceiving : Action → Bool
  | .inbound _ | .flush | .close => true
  | _ => false

/-- What a step does to receiving and to what is counted. -/
inductive ReceivingStep (s : Session) (metrics : Metrics) :
    Action → Option Inbound → Metrics → Prop where
  | received {a : Inbound.Action} {i after : Inbound} {counted : Metrics} (hi : s.inbound = some i)
      (hstep : i.Step metrics a after counted) :
    ReceivingStep s metrics (.inbound a) (some after) counted
  | flushed {o : Outbound} (holder : Outbound.Active) (ho : s.outbound = some o)
      (hactive : o.active = some holder) :
    ReceivingStep s metrics .flush s.inbound (metrics.countSent holder.send.frame.length)
  | started (limit capacity : Nat) :
    ReceivingStep s metrics .startReceiving (some (.start limit capacity)) metrics
  | closed :
    ReceivingStep s metrics .close (s.inbound.map fun i => { i with disturbed := true }) metrics
  | silent {action : Action} (haction : action.concernsReceiving = false) :
    ReceivingStep s metrics action s.inbound metrics

/-- What happens to the sink touches nothing that is received, and only a flush is counted. -/
theorem receivingStep_outbound? {a : Outbound.Action}
    (h : s.outbound? metrics a = some (next, counted)) :
    next.inbound = s.inbound ∧ (a ≠ .flush ∧ counted = metrics ∨
      ∃ o holder, a = .flush ∧ s.outbound = some o ∧ o.active = some holder ∧
        counted = metrics.countSent holder.send.frame.length) := by
  obtain ⟨o, after, ho, hstep, rfl⟩ := outbound?_cases h
  refine ⟨(sameSides_settle { s with outbound := some after }).inbound, ?_⟩
  rcases hstep.counted_eq with hsilent | ⟨holder, hflush, hactive, hcounted⟩
  · exact Or.inl hsilent
  · exact Or.inr ⟨o, holder, hflush, ho, hactive, hcounted⟩

/-- Looking again at what belongs to no flush counts nothing. -/
theorem receivingStep_poll {n : Nat} (h : s.outbound? metrics (.poll n) = some (next, counted)) :
    next.inbound = s.inbound ∧ counted = metrics := by
  obtain ⟨hinbound, ⟨-, hcounted⟩ | ⟨_, _, hflush, -⟩⟩ := receivingStep_outbound? h
  · exact ⟨hinbound, hcounted⟩
  · cases hflush

/-- Registering receives and counts nothing. -/
theorem receivingStep_register {clientId : String} {paths : List String}
    (h : s.register metrics clientId paths = (next, counted)) :
    next.inbound = s.inbound ∧ counted = metrics := by
  rcases register_cases h with ⟨o, after, -, hsend, rfl⟩ | ⟨hcounted, ⟨_, rfl⟩ | rfl⟩
  · exact ⟨(sameSides_settle (s.registering after paths)).inbound,
      hsend.counted_eq_of_ne_flush Outbound.Action.noConfusion⟩
  · exact ⟨rfl, hcounted⟩
  · exact ⟨rfl, hcounted⟩

/-- Closing turns the switch on, and counts nothing. -/
theorem receivingStep_close (h : s.close metrics = (next, counted)) :
    next.inbound = s.inbound.map (fun i => { i with disturbed := true }) ∧ counted = metrics := by
  rcases close_cases h with ⟨o, after, -, hshutdown, rfl⟩ | ⟨hcounted, ⟨-, rfl⟩ | ⟨-, rfl⟩⟩
  · exact ⟨(sameSides_settleClosing (s.shutting after) s.sends).inbound,
      hshutdown.counted_eq_of_ne_flush Outbound.Action.noConfusion⟩
  · exact ⟨(sameSides_closeReader { s.turnOn with writer := false }).inbound, hcounted⟩
  · exact ⟨rfl, hcounted⟩

/-- Nothing else is received or counted. -/
theorem receivingStep_of_step? (h : s.step? metrics action = some (next, counted)) :
    s.ReceivingStep metrics action next.inbound counted := by
  -- What touches nothing that is received, and counts nothing.
  have hsilent (hsame : next.inbound = s.inbound ∧ counted = metrics)
      (haction : action.concernsReceiving = false) :
      s.ReceivingStep metrics action next.inbound counted := by
    rw [hsame.1, hsame.2]
    exact .silent haction
  cases step_of_step? h with
  | connect host port => exact hsilent ⟨(s.sameSides_connect host port).inbound, rfl⟩ rfl
  | register _ _ _ hnext => exact hsilent (receivingStep_register hnext) rfl
  | startReceiving =>
    rcases s.startReceiving_cases with ⟨-, _, hafter⟩ | ⟨-, ⟨-, hafter⟩ | ⟨-, hafter⟩⟩ <;>
      rw [hafter]
    · exact .silent rfl
    · exact .silent rfl
    · exact .started _ _
  | waitReceiver => exact hsilent ⟨s.sameSides_waitReceiver.inbound, rfl⟩ rfl
  | close _ hnext =>
    obtain ⟨hinbound, rfl⟩ := receivingStep_close hnext
    rw [hinbound]
    exact .closed
  | nextRequest => exact hsilent ⟨rfl, rfl⟩ rfl
  | goOnRegistering _ hsink => exact hsilent (receivingStep_poll hsink) rfl
  | @goOnShutting shutdown polled _ _ hsink =>
    obtain ⟨hinbound, hcounted⟩ := receivingStep_poll hsink
    exact hsilent ⟨(sameSides_settleClosing polled shutdown).inbound.trans hinbound, hcounted⟩ rfl
  | goOnWaiting => exact hsilent ⟨(sameSides_goOnWaiting s).inbound, rfl⟩ rfl
  | goOnClosing => exact hsilent ⟨(sameSides_goOnClosing s).inbound, rfl⟩ rfl
  | connected | refused | timedOut => exact hsilent ⟨rfl, rfl⟩ rfl
  | @inbound _ i after _ hi hstep =>
    rw [inbound_withInbound]
    exact .received hi hstep
  | @sink _ a polled _ haction _ hsink =>
    obtain ⟨hinbound, ⟨hother, hcounted⟩ | ⟨o, holder, rfl, ho, hactive, hcounted⟩⟩ :=
      receivingStep_outbound? hsink
    · refine hsilent ⟨hinbound, hcounted⟩ ?_
      cases action with
      | flush =>
        cases haction
        exact absurd rfl hother
      | inbound | close => cases haction
      | _ => rfl
    · obtain rfl : action = .flush := by cases action <;> first | rfl | cases haction
      have hsame : { polled with sends := polled.sends + Action.flush.starts }.inbound =
          s.inbound := hinbound
      rw [hsame, hcounted]
      exact .flushed holder ho hactive

end Session

end Courier
