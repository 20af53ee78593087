import Courier.Proofs.Session.Account
import Courier.Proofs.Session.Quiet

/-!
# What calls keep

Connecting, receiving and closing leave a session sound, whether they return at once or wait, and so
does what happens while they wait. The phase stays, or the next one comes.
-/

namespace Courier

namespace Session

variable {s next : Session} {metrics counted : Metrics} {done made : List Action}
  {registrations : List Envelope}

/-! ## What looking again keeps -/

/-- A late phase is not between two others. -/
theorem ne_of_late {p : Phase} (h : Phase.rank .streaming ≤ p.rank) :
    p ≠ .connecting ∧ p ≠ .registering :=
  ⟨Phase.ne_of_rank_lt (Nat.lt_of_lt_of_le (by decide) h),
    Phase.ne_of_rank_lt (Nat.lt_of_lt_of_le (by decide) h)⟩

/-- A call that waits in a late phase may wait in any other. -/
theorem MayWaitIn.of_late {call : Option Call} {p q : Phase} (h : MayWaitIn call p)
    (hp : Phase.rank .streaming ≤ p.rank) (hq : Phase.rank .streaming ≤ q.rank) :
    MayWaitIn call q := by
  rcases call with _ | (_ | _ | _ | _ | _)
  · exact ne_of_late hq
  · exact absurd h (ne_of_late hp).1
  · exact absurd h (ne_of_late hp).2
  · exact ne_of_late hq
  · exact ne_of_late hq
  · exact ne_of_late hq

/-- The end of a session is a late phase. -/
theorem late_of_end {p q : Phase} (hq : q = .closed ∨ q = .failed) :
    Phase.rank .streaming ≤ (p.advance q).rank := by
  rw [Phase.rank_advance_end hq]
  decide

/-- A late phase is not the one in which a session registers. -/
theorem ready_of_late (h : Phase.rank .streaming ≤ s.phase.rank)
    (hconnected : s.phase = .connected) :
    s.writer = true ∧ s.outbound.isSome = true := by
  rw [hconnected] at h
  exact absurd h (by decide)

/-- The end of a session leaves it what it has to show. -/
theorem Account.ended (h : Account s done registrations) {q : Phase}
    (hq : q = .closed ∨ q = .failed) : Account (s.advance q) done registrations :=
  h.of_same (Phase.Follows.rank_le (Phase.advance_end hq)) rfl rfl rfl rfl id id h.fresh

/-- A session whose call has returned at its end is sound. -/
theorem sound_of_ended (h : Account s made registrations) (hcall : s.call = none)
    (hlate : Phase.rank .streaming ≤ s.phase.rank) : Sound s made registrations :=
  sound_of_account h hcall (ne_of_late hlate) (ready_of_late hlate)

/-- A registration that looks again leaves the session sound. -/
theorem Sound.settle (h : Sound s made registrations) :
    Sound s.settle made registrations ∧ s.phase.Follows s.settle.phase := by
  rcases s.settle_cases with hsame | ⟨request, paths, send, hcall, hafter⟩
  · rw [hsame]
    exact ⟨h, Or.inl rfl⟩
  · obtain ⟨done, a, rfl, hwaits, haccount, hmayWait⟩ := h.exists_of_call hcall
    have hphase : s.phase = .registering := hmayWait
    cases hwaits with
    | register _ clientId =>
      rcases hafter with ⟨failure, -, hfailed⟩ | hdone
      · rw [hfailed]
        have hreturned := (haccount.ended (Or.inr rfl)).answer (a := .register clientId paths)
          (r := .failed failure) rfl rfl rfl
        exact ⟨sound_of_ended hreturned rfl (late_of_end (Or.inr rfl)),
          Phase.advance_end (Or.inr rfl)⟩
      · rw [hdone]
        have hopened : (({ s with paths }.advance .streaming).answer
            (.registered request)).phase = .streaming := by
          rw [phase_answer, phase_advance, hphase]
          rfl
        have hreturned : Account (({ s with paths }.advance .streaming).answer
            (.registered request)) (done ++ [.register clientId paths]) registrations := by
          refine haccount.returns rfl ?_ rfl rfl rfl ?_ ?_ ?_ haccount.fresh
          · rw [hopened, hphase]
            decide
          · intro _
            rw [hopened, hphase]
            decide
          · intro hearly
            rw [hopened] at hearly
            exact absurd hearly (by decide)
          · intro hstarted
            have hlate := (haccount.receiving hstarted).2
            rw [hphase] at hlate
            exact absurd hlate (by decide)
        refine ⟨sound_of_ended hreturned rfl ?_, Or.inr ?_⟩
        · exact Nat.le_of_eq (congrArg Phase.rank hopened).symm
        · rw [hopened, hphase]
          exact .streaming

/-- What happens to the sink leaves the session sound. -/
theorem Sound.sink (h : Sound s made registrations) {o after : Outbound}
    {action : Outbound.Action} {sends : Nat} (ho : s.outbound = some o)
    (hstep : o.Step metrics action after counted)
    (hbegins : ∀ n, action.begins n = true → n < sends) (hsends : s.sends ≤ sends) :
    Sound { s with outbound := some after, sends } made registrations := by
  obtain ⟨done, waiting, hmade, hwaits, haccount⟩ := h.calls
  refine ⟨⟨done, waiting, hmade, hwaits, haccount.of_same (Nat.le_refl _) rfl rfl ?_ rfl id id ?_⟩,
    h.mayWaitIn, fun hphase hcall => ⟨(h.ready hphase hcall).1, rfl⟩⟩
  · rw [ho]
    rfl
  · intro p hp n hn
    obtain rfl : after = p := Option.some.inj hp
    rcases hstep.isKnown hn with hknown | hbegun
    · exact Nat.lt_of_lt_of_le (haccount.fresh o ho n hknown) hsends
    · exact hbegins n hbegun

/-- What happens to the sink and begins nothing leaves the session sound. -/
theorem Sound.outbound? (h : Sound s made registrations) {action : Outbound.Action}
    (hbegins : ∀ n, action.begins n = false)
    (hstep : s.outbound? metrics action = some (next, counted)) :
    Sound next made registrations ∧ s.phase.Follows next.phase := by
  obtain ⟨o, after, ho, hafter, rfl⟩ := outbound?_cases hstep
  have hnone (n : Nat) (hn : action.begins n = true) : n < s.sends := by
    rw [hbegins] at hn
    cases hn
  exact (h.sink ho hafter hnone (Nat.le_refl _)).settle

/-- Waiting for the end of receiving leaves the session sound. -/
theorem Sound.goOnWaiting (h : Sound s made registrations) (hcall : s.call = some .waitReceiver) :
    Sound s.goOnWaiting made registrations ∧ s.phase.Follows s.goOnWaiting.phase := by
  rcases s.goOnWaiting_cases with hsame | ⟨outcome, hunawaited, -, hafter⟩
  · rw [hsame]
    exact ⟨h, Or.inl rfl⟩
  · obtain ⟨done, a, rfl, hwaits, haccount, -⟩ := h.exists_of_call hcall
    have hlate := (haccount.receiving (Or.inr hunawaited)).2
    cases hwaits
    rw [hafter]
    have hawaited : Account { s with unawaited := false } done registrations :=
      haccount.of_same (Nat.le_refl _) rfl rfl rfl rfl id Bool.noConfusion haccount.fresh
    have hreturned := hawaited.answer (a := .waitReceiver) (r := returnOf outcome) rfl rfl rfl
    exact ⟨sound_of_ended hreturned rfl hlate, Or.inl rfl⟩

/-- Beginning to wait for the end of receiving leaves the session sound. -/
theorem Sound.waitReceiver (h : Sound s made registrations) (hcall : s.call = none) :
    Sound s.waitReceiver (made ++ [.waitReceiver]) registrations ∧
      s.phase.Follows s.waitReceiver.phase := by
  have haccount := h.account hcall
  have hmayWait := h.mayWaitIn
  rw [hcall] at hmayWait
  unfold Session.waitReceiver
  split
  · have hwaiting : Account { s with call := some .waitReceiver } made registrations :=
      haccount.of_same (Nat.le_refl _) rfl rfl rfl rfl id id haccount.fresh
    exact (sound_of_waits hwaiting rfl .waitReceiver hmayWait).goOnWaiting rfl
  · have hreturned := haccount.answer (a := .waitReceiver) (r := .done) rfl rfl rfl
    exact ⟨sound_of_account hreturned rfl hmayWait fun hphase => h.ready hphase hcall, Or.inl rfl⟩

/-! ## What closing keeps -/

/-- Closing that waits for the end of receiving leaves the session sound. -/
theorem Account.goOnClosing (h : Account s done registrations)
    (hcall : s.call = some .closeReceiver) (hmayWait : MayWaitIn (some .closeReceiver) s.phase) :
    Sound s.goOnClosing (done ++ [.close]) registrations ∧
      s.phase.Follows s.goOnClosing.phase := by
  rcases s.goOnClosing_cases with ⟨hsame, -⟩ | ⟨hclosed, -⟩
  · rw [hsame]
    exact ⟨sound_of_waits h hcall .closeReceiver hmayWait, Or.inl rfl⟩
  · rw [hclosed]
    have hawaited : Account { s with unawaited := false } done registrations :=
      h.of_same (Nat.le_refl _) rfl rfl rfl rfl id Bool.noConfusion h.fresh
    have hreturned := (hawaited.ended (Or.inl rfl)).answer (a := .close) (r := .done) rfl rfl rfl
    exact ⟨sound_of_ended hreturned rfl (late_of_end (Or.inl rfl)), Phase.advance_end (Or.inl rfl)⟩

/-- Giving up reading leaves the session sound. -/
theorem Account.closeReader (h : Account s done registrations)
    (hmayWait : MayWaitIn (some .closeReceiver) s.phase) :
    Sound s.closeReader (done ++ [.close]) registrations ∧
      s.phase.Follows s.closeReader.phase := by
  have hunread : Account { s with reader := false, call := some .closeReceiver } done
      registrations :=
    h.of_same (Nat.le_refl _) rfl rfl rfl rfl Bool.noConfusion id h.fresh
  exact hunread.goOnClosing rfl hmayWait

/-- Closing that waits for the sink leaves the session sound. -/
theorem Account.settleClosing (h : Account s done registrations) {shutdown : Nat}
    (hcall : s.call = some (.closeWriter shutdown)) (hmayWait : MayWaitIn s.call s.phase) :
    Sound (s.settleClosing shutdown) (done ++ [.close]) registrations ∧
      s.phase.Follows (s.settleClosing shutdown).phase := by
  rw [hcall] at hmayWait
  rcases s.settleClosing_cases shutdown with hsame | hafter
  · rw [hsame]
    exact ⟨sound_of_waits h hcall (.closeWriter shutdown) hmayWait, Or.inl rfl⟩
  · rw [hafter]
    exact h.closeReader hmayWait

/-- Turning the switch on leaves a session what it has to show. -/
theorem Account.turnOn (h : Account s done registrations) :
    Account s.turnOn done registrations := by
  refine h.of_same (Nat.le_refl _) rfl rfl (Option.isSome_map ..) (Option.isSome_map ..) id id ?_
  intro o ho n hn
  obtain ⟨before, hbefore, rfl⟩ := Option.map_eq_some_iff.1 ho
  exact h.fresh before hbefore n hn

/-- Closing leaves the session sound. -/
theorem Sound.close (h : Sound s made registrations) (hcall : s.call = none)
    (hclose : s.close metrics = (next, counted)) :
    Sound next (made ++ [.close]) registrations ∧ s.phase.Follows next.phase := by
  have haccount := (h.account hcall).turnOn
  have hmayWait := h.mayWaitIn
  rw [hcall] at hmayWait
  rcases close_cases hclose with
    ⟨o, after, ho, hshutdown, rfl⟩ | ⟨-, ⟨-, rfl⟩ | ⟨⟨o, ho, hknown⟩, -⟩⟩
  · have hturned : s.turnOn.outbound = some { o with cancelled := true } := by
      rw [outbound_turnOn, ho, Option.map_some]
    have hshutting : Account (s.shutting after) made registrations := by
      refine haccount.of_same (Nat.le_refl _) rfl rfl ?_ rfl id id ?_
      · rw [hturned]
        rfl
      · intro p hp n hn
        obtain rfl : after = p := Option.some.inj hp
        rcases hshutdown.isKnown hn with hknown | hbegun
        · exact Nat.lt_succ_of_lt (haccount.fresh _ hturned n hknown)
        · exact Nat.lt_succ_of_le (Nat.le_of_eq (of_decide_eq_true hbegun).symm)
    exact hshutting.settleClosing rfl hmayWait
  · have hwriter : Account { s.turnOn with writer := false } made registrations :=
      haccount.of_same (Nat.le_refl _) rfl rfl rfl rfl id id haccount.fresh
    exact hwriter.closeReader hmayWait
  · -- No number is known that was not begun, so the shutdown can begin.
    cases (h.isKnown_sends ho).symm.trans hknown

/-! ## What opening keeps -/

/-- A call at the wrong time leaves the session sound. -/
theorem Sound.refused (h : Sound s made registrations) (hcall : s.call = none) (a : Action)
    (failure : Failure) : Sound (s.fail failure) (made ++ [a]) registrations := by
  have hreturned := (h.account hcall).answer (a := a) (r := .failed failure) (by cases a <;> rfl)
    (by cases a <;> rfl) (by cases a <;> rfl)
  have hmayWait := h.mayWaitIn
  rw [hcall] at hmayWait
  exact sound_of_account hreturned rfl hmayWait fun hphase => h.ready hphase hcall

/-- Beginning to connect leaves the session sound. -/
theorem Sound.connect (h : Sound s made registrations) (hcall : s.call = none) (host : String)
    (port : Nat) :
    Sound (s.connect host port) (made ++ [.connect host port]) registrations ∧
      s.phase.Follows (s.connect host port).phase := by
  unfold Session.connect
  split
  · rename_i hphase
    have haccount := h.account hcall
    have hconnecting : s.phase.advance .connecting = .connecting := by
      rw [hphase]
      rfl
    have hbegun : Account { s.advance .connecting with call := some (.connect host port) } made
        registrations := by
      refine haccount.of_same ?_ rfl rfl rfl rfl id id haccount.fresh
      change s.phase.rank ≤ (s.phase.advance .connecting).rank
      rw [hconnecting, hphase]
      decide
    refine ⟨sound_of_waits hbegun rfl (.connect host port) hconnecting, Or.inr ?_⟩
    change s.phase.Next (s.phase.advance .connecting)
    rw [hconnecting, hphase]
    exact .connecting
  · exact ⟨h.refused hcall _ _, Or.inl rfl⟩

/-- A connection that was made leaves the session sound. -/
theorem Sound.connected (h : Sound s made registrations) {host : String} {port : Nat}
    (hcall : s.call = some (.connect host port)) (peer : Option String) :
    Sound (s.connected peer) made registrations ∧ s.phase.Follows (s.connected peer).phase := by
  obtain ⟨done, a, rfl, hwaits, haccount, hmayWait⟩ := h.exists_of_call hcall
  cases hwaits
  have hphase : s.phase = .connecting := hmayWait
  have hconnected : (s.connected peer).phase = .connected := by
    rw [Session.connected, phase_answer, phase_advance, hphase]
    rfl
  have hunconnected : s.outbound = none := haccount.unconnected (by rw [hphase]; decide)
  have hreturned : Account (s.connected peer) (done ++ [.connect host port]) registrations := by
    refine haccount.returns rfl ?_ rfl ?_ rfl ?_ ?_ ?_ ?_
    · rw [hconnected, hphase]
      decide
    · rw [hunconnected]
      rfl
    · exact fun hnew => absurd rfl hnew
    · intro hearly
      rw [hconnected] at hearly
      exact absurd hearly (Nat.lt_irrefl _)
    · intro hstarted
      have hlate := (haccount.receiving hstarted).2
      rw [hphase] at hlate
      exact absurd hlate (by decide)
    · rintro o ho n hn
      obtain rfl : Outbound.start = o := Option.some.inj ho
      cases hn
  refine ⟨sound_of_account hreturned rfl ?_ fun _ => ⟨rfl, rfl⟩, Or.inr ?_⟩
  · rw [hconnected]
    exact ⟨Phase.noConfusion, Phase.noConfusion⟩
  · rw [hconnected, hphase]
    exact .connected

/-- A connection that cannot be made leaves the session sound. -/
theorem Sound.connectFailed (h : Sound s made registrations) {host : String} {port : Nat}
    (hcall : s.call = some (.connect host port)) (fault : ConnectionFault) :
    Sound (s.connectFailed fault) made registrations ∧
      s.phase.Follows (s.connectFailed fault).phase := by
  obtain ⟨done, a, rfl, hwaits, haccount, -⟩ := h.exists_of_call hcall
  cases hwaits
  have hreturned := (haccount.ended (Or.inr rfl)).answer (a := .connect host port)
    (r := .failed (.connection fault)) rfl rfl rfl
  exact ⟨sound_of_ended hreturned rfl (late_of_end (Or.inr rfl)), Phase.advance_end (Or.inr rfl)⟩

/-- Starting to receive leaves the session sound. -/
theorem Sound.startReceiving (h : Sound s made registrations) (hcall : s.call = none) :
    Sound s.startReceiving (made ++ [.startReceiving]) registrations ∧
      s.phase.Follows s.startReceiving.phase := by
  rcases s.startReceiving_cases with ⟨-, failure, hfailed⟩ | ⟨⟨hphase, hreader⟩, hafter⟩
  · rw [hfailed]
    exact ⟨h.refused hcall _ _, Or.inl rfl⟩
  · have haccount := h.account hcall
    have hlate : Phase.rank .streaming ≤ s.phase.rank :=
      Nat.le_of_eq (congrArg Phase.rank hphase).symm
    rcases hafter with ⟨-, hcrashed⟩ | ⟨-, hstarted⟩
    · rw [hcrashed]
      have hunread : Account { s with reader := false } made registrations :=
        haccount.of_same (Nat.le_refl _) rfl rfl rfl rfl Bool.noConfusion id haccount.fresh
      have hreturned := hunread.answer (a := .startReceiving) (r := .crashed) rfl rfl rfl
      exact ⟨sound_of_ended hreturned rfl hlate, Or.inl rfl⟩
    · rw [hstarted]
      have hunstarted : s.inbound.isSome = false := by
        cases hcase : s.inbound.isSome with
        | false => rfl
        | true => cases hreader.symm.trans (haccount.receiving (Or.inl hcase)).1
      have hreturned : Account ({ s with
          reader := false
          inbound := some (.start s.options.frameLimit s.options.queue)
          unawaited := true }.answer .done) (made ++ [.startReceiving]) registrations := by
        refine haccount.returns rfl (Nat.le_refl _) rfl rfl ?_ ?_ haccount.unconnected
          (fun _ => ⟨rfl, hlate⟩) haccount.fresh
        · rw [hunstarted]
          rfl
        · exact fun hnew => absurd rfl hnew
      exact ⟨sound_of_ended hreturned rfl hlate, Or.inl rfl⟩

/-- What happens to receiving leaves the session sound. -/
theorem Sound.withInbound (h : Sound s made registrations) {i : Inbound} (hi : s.inbound = some i)
    (after : Inbound) :
    Sound (s.withInbound after) made registrations ∧
      s.phase.Follows (s.withInbound after).phase := by
  obtain ⟨done, waiting, hmade, hwaits, haccount⟩ := h.calls
  have hlate : Phase.rank .streaming ≤ s.phase.rank :=
    (haccount.receiving (Or.inl (by rw [hi]; rfl))).2
  have hreceiving : Account { s with inbound := some after } done registrations :=
    haccount.of_same (Nat.le_refl _) rfl rfl rfl (by rw [hi]; rfl) id id haccount.fresh
  unfold Session.withInbound
  split
  · exact ⟨⟨⟨done, waiting, hmade, hwaits, hreceiving⟩, h.mayWaitIn,
      fun hphase _ => ready_of_late hlate hphase⟩, Or.inl rfl⟩
  · rename_i outcome _
    have hend : phaseAfter outcome = .closed ∨ phaseAfter outcome = .failed := by
      cases outcome with
      | ok => exact Or.inl rfl
      | error => exact Or.inr rfl
    have hended : Phase.rank .streaming ≤ (s.advance (phaseAfter outcome)).phase.rank :=
      late_of_end hend
    exact ⟨⟨⟨done, waiting, hmade, hwaits, hreceiving.ended hend⟩, h.mayWaitIn.of_late hlate hended,
      fun hphase _ => ready_of_late hended hphase⟩, Phase.advance_end hend⟩

end Session

end Courier
