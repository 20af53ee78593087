import Courier.Proofs.Session.Calls

/-!
# Registering in a session

A session that is connected has its writer, so a registration takes a number and hands its envelope
to the sink. While it waits nothing else happens to the session, which streams in the end, or has
failed.
-/

namespace Courier

namespace Session

variable {s next : Session} {metrics counted : Metrics} {done made : List Action}
  {registrations : List Envelope}

/-! ## Registering -/

/-- A registration that is made in time is begun: it takes a number, and its envelope is handed to
the sink. Then it looks at once what has become of it. -/
theorem Sound.register_eq_settle (h : Sound s made registrations) (hcall : s.call = none)
    (hphase : s.phase = .connected) (metrics : Metrics) (clientId : String) (paths : List String) :
    ∃ o after, s.outbound = some o ∧
      o.step? metrics (.send s.sends
        (Registration.toEnvelope ⟨clientId, paths⟩ s.nextRequest.1)) = some (after, metrics) ∧
      s.register metrics clientId paths = ({ s with
        phase := .registering
        numbers := s.numbers.take.2
        outbound := some after
        sends := s.sends + 1
        call := some (.register s.nextRequest.1 paths s.sends) }.settle, metrics) := by
  obtain ⟨hwriter, hsome⟩ := h.ready hphase hcall
  obtain ⟨o, ho⟩ := Option.isSome_iff_exists.1 hsome
  obtain ⟨after, hsend⟩ := Outbound.exists_step?_send (h.isKnown_sends ho) metrics
    (Registration.toEnvelope ⟨clientId, paths⟩ s.nextRequest.1)
  refine ⟨o, after, ho, hsend, ?_⟩
  have hregistering : s.phase.advance .registering = .registering := by
    rw [hphase]
    rfl
  unfold Session.register
  rw [if_neg (not_not_intro hphase)]
  split
  · rename_i p _ hp
    obtain rfl : o = p := Option.some.inj (ho.symm.trans hp)
    simp only [nextRequest, RequestNumbers.take] at hsend
    simp only [advance, nextRequest, hregistering, RequestNumbers.take, hsend]
  · rename_i hnone
    exact absurd ho (hnone o hwriter)

/-- A registration that was begun waits, or it has failed at once. -/
theorem Sound.register (h : Sound s made registrations) (hcall : s.call = none)
    (hphase : s.phase = .connected) (metrics : Metrics) (clientId : String) (paths : List String) :
    ∃ o after, s.outbound = some o ∧
      o.step? metrics (.send s.sends
        (Registration.toEnvelope ⟨clientId, paths⟩ s.nextRequest.1)) = some (after, metrics) ∧
      ((s.register metrics clientId paths) = ({ s with
          phase := .registering
          numbers := s.numbers.take.2
          outbound := some after
          sends := s.sends + 1
          call := some (.register s.nextRequest.1 paths s.sends) }, metrics) ∨
        ∃ failure, (s.register metrics clientId paths) = ({ s with
          phase := .failed
          numbers := s.numbers.take.2
          outbound := some after
          sends := s.sends + 1
          returned := s.returned ++ [.failed failure] }, metrics)) := by
  obtain ⟨o, after, ho, hsend, hbegun⟩ := h.register_eq_settle hcall hphase metrics clientId paths
  refine ⟨o, after, ho, hsend, ?_⟩
  rcases (Outbound.step_of_step? hsend).result?_of_send with hnone | ⟨failure, hfailed⟩
  · left
    rw [hbegun]
    simp only [Session.settle, hnone]
  · right
    refine ⟨failure, ?_⟩
    rw [hbegun]
    simp only [Session.settle, hfailed, fail, answer, advance, ← hcall]
    rfl

/-- The envelope that a registration hands to the sink. -/
def registration? (s next : Session) : Action → Option Envelope
  | .register clientId paths =>
    if s.sends < next.sends then
      some (Registration.toEnvelope ⟨clientId, paths⟩ s.nextRequest.1)
    else none
  | _ => none

/-- A session may show one registration once it registers. -/
theorem Account.registers (h : Account s done []) (hphase : Phase.rank .registering ≤ s.phase.rank)
    (e : Envelope) : Account s done [e] where
  length_eq := h.length_eq
  paths_eq := h.paths_eq
  connections := h.connections
  starts := h.starts
  announced := h.announced
  unannounced := h.unannounced
  unregistered hearly := absurd hphase (Nat.not_le.2 hearly)
  once := Nat.le_refl _
  unconnected := h.unconnected
  receiving := h.receiving
  fresh := h.fresh

/-- Beginning to register leaves the session sound. -/
theorem Sound.registers (h : Sound s made registrations) (hcall : s.call = none)
    {clientId : String} {paths : List String}
    (hregister : s.register metrics clientId paths = (next, counted)) :
    Sound next (made ++ [.register clientId paths])
        (registrations ++ (s.registration? next (.register clientId paths)).toList) ∧
      s.phase.Follows next.phase := by
  by_cases hphase : s.phase = .connected
  · have haccount := h.account hcall
    obtain rfl : registrations = [] := haccount.unregistered (by rw [hphase]; decide)
    obtain ⟨o, after, ho, hsend, hafter⟩ := h.register hcall hphase metrics clientId paths
    have hfresh (p : Outbound) (hp : some after = some p) (n : Nat) (hn : p.isKnown n = true) :
        n < s.sends + 1 := by
      obtain rfl := Option.some.inj hp
      rcases (Outbound.step_of_step? hsend).isKnown hn with hknown | hbegun
      · exact Nat.lt_succ_of_lt (haccount.fresh o ho n hknown)
      · exact Nat.lt_succ_of_le (Nat.le_of_eq (of_decide_eq_true hbegun).symm)
    have hbegun (q : Phase) (hq : Phase.rank .registering ≤ q.rank) (call : Option Call) :
        Account { s with
          phase := q
          numbers := s.numbers.take.2
          outbound := some after
          sends := s.sends + 1
          call } made [Registration.toEnvelope ⟨clientId, paths⟩ s.nextRequest.1] := by
      have hsent : Account { s with
          phase := q
          numbers := s.numbers.take.2
          outbound := some after
          sends := s.sends + 1
          call } made [] := by
        refine haccount.of_same ?_ rfl rfl ?_ rfl id id hfresh
        · rw [hphase]
          exact Nat.le_trans (by decide) hq
        · rw [ho]
          rfl
      exact hsent.registers hq _
    rcases hafter with hwaiting | ⟨failure, hfailed⟩
    · rw [hwaiting] at hregister
      cases hregister
      simp only [registration?, Nat.lt_succ_self, if_true, Option.toList_some, List.nil_append]
      refine ⟨sound_of_waits (hbegun .registering (Nat.le_refl _) _) rfl
        (.register _ clientId paths _) rfl, Or.inr ?_⟩
      rw [hphase]
      exact .registering
    · rw [hfailed] at hregister
      cases hregister
      simp only [registration?, Nat.lt_succ_self, if_true, Option.toList_some, List.nil_append]
      have hreturned := (hbegun .failed (by decide) none).answer
        (a := .register clientId paths) (r := .failed failure) rfl rfl rfl
      rw [answer, ← hcall] at hreturned
      have hlate : Phase.rank .streaming ≤ Phase.rank .failed := by decide
      refine ⟨sound_of_ended hreturned hcall hlate, Or.inr ?_⟩
      rw [hphase]
      exact .failed rfl
  · cases (register_of_ne hphase metrics clientId paths).symm.trans hregister
    have hnone : s.registration? (s.fail (.write (.registeredIn s.phase)))
        (.register clientId paths) = none := if_neg (Nat.lt_irrefl _)
    rw [hnone, Option.toList_none, List.append_nil]
    exact ⟨h.refused hcall _ _, Or.inl rfl⟩

/-- What becomes of a registration that waits. -/
def Registers (s next : Session) (request : Int64) (paths : List String) : Prop :=
  next.call = s.call ∧ next.phase = .registering ∧ next.paths = s.paths ∧
      next.returned = s.returned ∨
    next.call = none ∧
      (next.phase = .streaming ∧ next.paths = paths ∧
          next.returned = s.returned ++ [.registered request] ∨
        ∃ failure, next.phase = .failed ∧ next.paths = s.paths ∧
          next.returned = s.returned ++ [.failed failure])

/-- A registration that looks again waits, has opened the session, or has ended it. -/
theorem registers_settle {request : Int64} {paths : List String} {send : Nat}
    (hcall : s.call = some (.register request paths send)) (hphase : s.phase = .registering) :
    Registers s s.settle request paths := by
  rcases s.settle_cases with hsame | ⟨_, _, _, hother, hafter⟩
  · rw [hsame]
    exact Or.inl ⟨rfl, hphase, rfl, rfl⟩
  · rw [hcall] at hother
    cases hother
    right
    rcases hafter with ⟨failure, -, hfailed⟩ | hdone
    · rw [hfailed]
      refine ⟨rfl, Or.inr ⟨failure, ?_, rfl, rfl⟩⟩
      rw [phase_fail, phase_advance, hphase]
      rfl
    · rw [hdone]
      refine ⟨rfl, Or.inl ⟨?_, rfl, rfl⟩⟩
      rw [phase_answer, phase_advance, hphase]
      rfl

/-- While a registration waits, nothing happens but to the sink and to the registration. -/
theorem Sound.registering (h : Sound s made registrations) {request : Int64} {paths : List String}
    {send : Nat} (hcall : s.call = some (.register request paths send)) {action : Action}
    (hstep : s.step? metrics action = some (next, counted)) : Registers s next request paths := by
  have hphase : s.phase = .registering := by
    have hmayWait := h.mayWaitIn
    rwa [hcall] at hmayWait
  have hsettled {a : Outbound.Action} {t : Session} {m : Metrics}
      (ha : s.outbound? metrics a = some (t, m)) : Registers s t request paths := by
    obtain ⟨o, after, -, -, rfl⟩ := outbound?_cases ha
    exact registers_settle (s := { s with outbound := some after }) hcall hphase
  cases step_of_step? hstep with
  | connect _ _ hidle => cases hcall.symm.trans hidle
  | register _ _ hidle => cases hcall.symm.trans hidle
  | startReceiving hidle => cases hcall.symm.trans hidle
  | waitReceiver hidle => cases hcall.symm.trans hidle
  | close hidle => cases hcall.symm.trans hidle
  | nextRequest hidle => cases hcall.symm.trans hidle
  | goOnRegistering _ hsink => exact hsettled hsink
  | goOnShutting hwaits => cases hcall.symm.trans hwaits
  | goOnWaiting hwaits => cases hcall.symm.trans hwaits
  | goOnClosing hwaits => cases hcall.symm.trans hwaits
  | connected _ hwaits => cases hcall.symm.trans hwaits
  | refused _ hwaits => cases hcall.symm.trans hwaits
  | timedOut hwaits => cases hcall.symm.trans hwaits
  | inbound hi =>
    obtain ⟨done, waiting, -, -, haccount⟩ := h.calls
    have hlate := (haccount.receiving (Or.inl (by rw [hi]; rfl))).2
    exact absurd hphase (ne_of_late hlate).2
  | sink _ _ hsink =>
    have hsent := hsettled hsink
    exact hsent

end Session

end Courier
