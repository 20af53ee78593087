import Courier.Proofs.Outbound.Ending
import Courier.Proofs.Session.Registering

/-!
# The sink of a session

Whatever happens to a session, its sink is left alone, or is new, or makes one step of its own; and
closing turns the switch on, which nothing turns off again (`SinkStep`). Numbers of sends are never
used twice, so every send is in one place at most (`HasUniquePlaces`).
-/

namespace Courier

namespace Session

variable {s next : Session} {metrics counted : Metrics} {action : Action} {made : List Action}
  {registrations : List Envelope}

/-! ## What a step does to the sink -/

/-- What can become of the sink of a session, and of its writer, in one step. -/
inductive SinkStep (s : Session) : Action → Session → Prop where
  | same {action : Action} {next : Session} (houtbound : next.outbound = s.outbound)
      (hwriter : next.writer = s.writer ∨ s.outbound = none) : SinkStep s action next
  | connects {action : Action} {next : Session} (hnone : s.outbound = none)
      (hnew : next.outbound = some .start) (hwriter : next.writer = true) : SinkStep s action next
  | steps {action : Action} {next : Session} {o after : Outbound} {metrics counted : Metrics}
      {a : Outbound.Action} (ho : s.outbound = some o) (hstep : o.Step metrics a after counted)
      (hafter : next.outbound = some after) (ha : a.isClosing = false)
      (hbegins : ∀ n, a.begins n = true → n = s.sends) (hwriter : next.writer = s.writer) :
    SinkStep s action next
  | closes {next : Session} {o after : Outbound} {metrics counted : Metrics}
      (ho : s.outbound = some o)
      (hstep : { o with cancelled := true }.Step metrics (.shutdown s.sends) after counted)
      (hafter : next.outbound = some after) : SinkStep s .close next
  | cancels {next : Session} {o : Outbound} (ho : s.outbound = some o)
      (hafter : next.outbound = some { o with cancelled := true }) : SinkStep s .close next

/-- Closing turns the switch on, and begins to take the sink away if there is a writer. -/
theorem sinkStep_close (h : s.close metrics = (next, counted)) : SinkStep s .close next := by
  have hoff {t : Session} (htouched : t.outbound = s.turnOn.outbound) : SinkStep s .close t := by
    cases ho : s.outbound with
    | none =>
      have hnone : s.turnOn.outbound = s.outbound := by simp [ho]
      exact .same (htouched.trans hnone) (Or.inr ho)
    | some o =>
      have hsome : s.turnOn.outbound = some { o with cancelled := true } := by simp [ho]
      exact .cancels ho (htouched.trans hsome)
  rcases close_cases h with ⟨o, after, ho, hshutdown, rfl⟩ | ⟨-, ⟨-, rfl⟩ | ⟨-, rfl⟩⟩
  · exact .closes ho hshutdown (sameSides_settleClosing (s.shutting after) s.sends).outbound
  · exact hoff (sameSides_closeReader { s.turnOn with writer := false }).outbound
  · exact hoff rfl

/-- Beginning to register hands a send to the sink, or comes to nothing. -/
theorem Sound.sinkStep_register (h : Sound s made registrations) (hcall : s.call = none)
    {clientId : String} {paths : List String}
    (hregister : s.register metrics clientId paths = (next, counted)) : SinkStep s action next := by
  by_cases hphase : s.phase = .connected
  · obtain ⟨o, after, ho, hsend, hafter⟩ := h.register hcall hphase metrics clientId paths
    have hstep := Outbound.step_of_step? hsend
    have hbegins (n : Nat) (hn : Outbound.Action.begins n
        (.send s.sends (Registration.toEnvelope ⟨clientId, paths⟩ s.nextRequest.1)) = true) :
        n = s.sends := (of_decide_eq_true hn).symm
    rcases hafter with hwaiting | ⟨failure, hfailed⟩
    · cases hwaiting.symm.trans hregister
      exact .steps ho hstep rfl rfl hbegins rfl
    · cases hfailed.symm.trans hregister
      exact .steps ho hstep rfl rfl hbegins rfl
  · cases (register_of_ne hphase metrics clientId paths).symm.trans hregister
    exact .same rfl (Or.inl rfl)

/-- What belongs to no call closes nothing. -/
theorem Action.isClosing_of_onSink? {sends : Nat} {a : Outbound.Action}
    (haction : action.onSink? sends = some a) : a.isClosing = false := by
  cases action <;> cases haction <;> rfl

/-- Nothing else can become of the sink of a session. -/
theorem Sound.sinkStep (h : Sound s made registrations)
    (hstep : s.step? metrics action = some (next, counted)) : SinkStep s action next := by
  have hnone (n m : Nat) (hn : (Outbound.Action.poll m).begins n = true) : n = s.sends := by
    cases hn
  have hsides {t : Session} (hsame : SameSides s t) : SinkStep s action t :=
    .same hsame.outbound (Or.inl hsame.writer)
  cases step_of_step? hstep with
  | connect host port => exact hsides (s.sameSides_connect host port)
  | register _ _ hidle hnext => exact h.sinkStep_register hidle hnext
  | startReceiving =>
    rcases s.startReceiving_cases with ⟨-, _, hafter⟩ | ⟨-, ⟨-, hafter⟩ | ⟨-, hafter⟩⟩ <;>
      rw [hafter] <;> exact .same rfl (Or.inl rfl)
  | waitReceiver => exact hsides s.sameSides_waitReceiver
  | close _ hnext => exact sinkStep_close hnext
  | nextRequest => exact .same rfl (Or.inl rfl)
  | goOnRegistering _ hsink =>
    obtain ⟨o, after, ho, hafter, rfl⟩ := outbound?_cases hsink
    have hsame := sameSides_settle { s with outbound := some after }
    exact .steps ho hafter hsame.outbound rfl (fun n => hnone n _) hsame.writer
  | @goOnShutting shutdown _ _ hcall hsink =>
    obtain ⟨o, after, ho, hafter, rfl⟩ := exists_of_outbound? (by rw [hcall]; rfl) hsink
    have hsame := sameSides_settleClosing { s with outbound := some after } shutdown
    exact .steps ho hafter hsame.outbound rfl (fun n => hnone n _) hsame.writer
  | goOnWaiting => exact hsides s.sameSides_goOnWaiting
  | goOnClosing => exact hsides s.sameSides_goOnClosing
  | connected _ hcall =>
    obtain ⟨done, a, -, -, haccount, hmayWait⟩ := h.exists_of_call hcall
    have hphase : s.phase = .connecting := hmayWait
    exact .connects (haccount.unconnected (by rw [hphase]; decide)) rfl rfl
  | refused => exact .same rfl (Or.inl rfl)
  | timedOut => exact .same rfl (Or.inl rfl)
  | @inbound _ _ after =>
    obtain ⟨phase, hnext, -⟩ := exists_withInbound s after
    rw [hnext]
    exact .same rfl (Or.inl rfl)
  | sink haction _ hsink =>
    obtain ⟨o, after, ho, hafter, rfl⟩ := outbound?_cases hsink
    have hsame := sameSides_settle { s with outbound := some after }
    exact .steps ho hafter hsame.outbound (Action.isClosing_of_onSink? haction)
      (fun n hn => (Action.begins_of_onSink? haction hn).1) hsame.writer

/-- Every send of a session is in one place at most. -/
def HasUniquePlaces (s : Session) : Prop := ∀ o, s.outbound = some o → o.HasUniquePlaces

/-- Every step leaves each send in one place at most. -/
theorem HasUniquePlaces.step (h : s.HasUniquePlaces) (hsound : Sound s made registrations)
    (hsinkStep : SinkStep s action next) : next.HasUniquePlaces := by
  have hfresh {o : Outbound} (ho : s.outbound = some o) (n : Nat) (hn : n = s.sends) :
      o.isKnown n = false := hn ▸ hsound.isKnown_sends ho
  intro p hp
  cases hsinkStep with
  | same houtbound => exact h p (houtbound.symm.trans hp)
  | connects _ hnew =>
    cases hnew.symm.trans hp
    exact Outbound.hasUniquePlaces_start
  | steps ho hstep hafter _ hbegins =>
    cases hafter.symm.trans hp
    exact (h _ ho).step hstep fun n hn => hfresh ho n (hbegins n hn)
  | @closes _ o after _ _ ho hstep hafter =>
    cases hafter.symm.trans hp
    have hturned : { o with cancelled := true }.HasUniquePlaces :=
      ⟨(h o ho).places_le, (h o ho).timely⟩
    exact hturned.step hstep fun n hn => hfresh ho n (of_decide_eq_true hn).symm
  | cancels ho hafter =>
    cases hafter.symm.trans hp
    exact ⟨(h _ ho).places_le, (h _ ho).timely⟩

end Session

end Courier
