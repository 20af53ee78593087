import Courier.Proofs.Session.Ending
import Courier.Proofs.Session.Verdict

/-!
# Closing is final

While a session closes, every send that is under way can look and fails by that, receiving can end,
and when all of them have had their turn closing returns as soon as it looks. Then the session has
neither writer nor reader, and whoever still has its writer writes nothing any more
(`closing_is_final`).
-/

namespace Courier

namespace Session

variable {s next : Session} {metrics counted : Metrics} {made : List Action}
  {registrations : List Envelope} {o : Outbound}

/-! ## What can always happen -/

/-- While a session closes, a send that is under way can look, and has failed to write. -/
theorem CloseBegun.step?_pollSend (h : s.CloseBegun) (hunique : s.HasUniquePlaces) {n : Nat}
    (hsending : s.isSending n = true) (metrics : Metrics) :
    ∃ next fault, s.step? metrics (.pollSend n) = some (next, metrics) ∧
      next.result? n = some (.error (.write fault)) := by
  obtain ⟨o, ho, hsends⟩ := (Option.any_eq_true _ _).1 hsending
  have hother : s.isOwn n = false := by
    cases h.stage with
    | @sink p own hcall hp hdraining =>
      cases ho.symm.trans hp
      simp only [isOwn, hcall, decide_eq_false_iff_not]
      rintro rfl
      rcases (Outbound.isSending_iff o n).1 hsends with ⟨a, ha, hnumber⟩ | ⟨x, hx, hnumber⟩
      · exact (hunique o ho).number_ne ha hdraining.mem_waiting hnumber.symm
      · cases (hunique o ho).eq_of_number hx hdraining.mem_waiting hnumber
    | receiver hcall => simp [isOwn, hcall]
    | ended hcall => simp [isOwn, hcall]
  obtain ⟨after, fault, hafter, hresult⟩ :=
    (hunique o ho).step?_poll (h.cancelled o ho) hsends metrics
  refine ⟨{ s with outbound := some after }, fault, ?_, hresult⟩
  simp only [step?, hother, Bool.false_eq_true, if_false,
    outbound?_of_step? h.stage.not_opening ho hafter]

/-- While a session closes, and after it, a send that starts is refused at once. -/
theorem CloseBegun.step?_send (h : s.CloseBegun) (hsound : Sound s made registrations)
    (hsome : s.outbound.isSome = true) (metrics : Metrics) (e : Envelope) :
    ∃ next, s.step? metrics (.send e) = some (next, metrics) ∧
      next.result? s.sends = some (.error (Outbound.refusal e)) := by
  obtain ⟨o, ho⟩ := Option.isSome_iff_exists.1 hsome
  obtain ⟨after, hafter, hresult⟩ := Outbound.step?_send_of_cancelled (h.cancelled o ho)
    (hsound.isKnown_sends ho) metrics e
  refine ⟨{ s with outbound := some after, sends := s.sends + 1 }, ?_, hresult⟩
  simp only [step?, outbound?_of_step? h.stage.not_opening ho hafter, Option.map_some]

/-- While a session closes, receiving can look, and has ended. -/
theorem CloseBegun.step?_resume (h : s.CloseBegun) (hgoing : s.isReceiving = true)
    (metrics : Metrics) :
    ∃ next, s.step? metrics (.inbound .resume) = some (next, metrics) ∧
      next.isReceiving = false := by
  obtain ⟨i, hi, hopen⟩ := (Option.any_eq_true _ _).1 hgoing
  have hresume : i.resume? metrics = some (i.finish (.ok ()), metrics) :=
    Inbound.resume?_of_isStopped (Inbound.isStopped_of_disturbed (h.disturbed i hi))
      (Option.isNone_iff_eq_none.1 hopen)
  refine ⟨s.withInbound (i.finish (.ok ())), ?_, ?_⟩
  · simp only [step?, hi, Inbound.step?, hresume, Option.map_some]
  · rw [isReceiving, inbound_withInbound]
    rfl

/-- Closing that waits for the end of receiving is done where that has come. -/
theorem goOnClosing_eq_closedFrom (hreceived : s.unawaited = true → s.received?.isSome = true) :
    s.goOnClosing = s.closedFrom := by
  rcases s.goOnClosing_cases with ⟨-, hunawaited⟩ | ⟨hclosed, -⟩
  · have houtcome : s.unawaitedOutcome?.isSome = true := by
      rw [unawaitedOutcome?, if_pos hunawaited]
      exact hreceived hunawaited
    unfold goOnClosing
    rw [hunawaited, Bool.not_true, if_neg Bool.false_ne_true, if_pos houtcome]
    rfl
  · exact hclosed

/-- When nobody sends or receives any more, closing returns as soon as it looks. -/
theorem CloseBegun.step?_poll (h : s.CloseBegun) (hwaits : s.call.isSome = true)
    (hnobody : ∀ n, s.isSending n = false)
    (hreceived : s.unawaited = true → s.received?.isSome = true) (metrics : Metrics) :
    ∃ next, s.step? metrics .poll = some (next, metrics) ∧
      next.returned = s.returned ++ [.done] := by
  cases h.stage with
  | @sink o n hcall ho hdraining =>
    have hfree (m : Nat) : o.isSending m = false := by
      have hnone := hnobody m
      rwa [isSending, ho] at hnone
    obtain ⟨after, hafter, hover⟩ := hdraining.step?_poll hfree metrics
    have hclosed : { s with outbound := some after }.settleClosing n =
        { s with
          outbound := some after
          reader := false
          call := some .closeReceiver }.closedFrom := by
      rw [settleClosing, Option.any_some, if_pos hover, closeReader]
      exact goOnClosing_eq_closedFrom hreceived
    refine ⟨_, ?_, congrArg Session.returned hclosed⟩
    simp only [step?, poll?, hcall, outbound?_of_step? h.stage.not_opening ho hafter,
      Option.map_some]
  | receiver hcall =>
    refine ⟨s.goOnClosing, by simp only [step?, poll?, hcall], ?_⟩
    rw [goOnClosing_eq_closedFrom hreceived]
    rfl
  | ended hcall =>
    rw [hcall] at hwaits
    cases hwaits

/-- A send that is under way has a number that was used, and is not over. -/
theorem Sound.of_isSending (h : Sound s made registrations) (hunique : s.HasUniquePlaces) {n : Nat}
    (hsending : s.isSending n = true) : n < s.sends ∧ s.result? n = none := by
  obtain ⟨o, ho, hsends⟩ := (Option.any_eq_true _ _).1 hsending
  obtain ⟨done, waiting, -, -, haccount⟩ := h.calls
  have hplace := Outbound.exists_of_isSending hsends
  refine ⟨haccount.fresh o ho n ?_, ?_⟩
  · rw [Outbound.isKnown, Bool.or_eq_true, Bool.or_eq_true, Option.any_eq_true, List.any_eq_true]
    simp only [decide_eq_true_eq]
    exact Or.inl hplace
  · rw [Session.result?, ho]
    exact (hunique o ho).result?_eq_none hplace

/-- Nobody sends while nobody holds the sink and nobody waits for it. -/
theorem isSending_of_quiet (h : ∀ o, s.outbound = some o → o.Quiet) (n : Nat) :
    s.isSending n = false := by
  rw [isSending]
  cases ho : s.outbound with
  | none => rfl
  | some o =>
    rw [Option.any_some, Outbound.isSending, (h o ho).active, (h o ho).waiting]
    rfl

/-- Receiving that goes on was started, and has not ended. -/
theorem of_isReceiving (h : s.isReceiving = true) :
    s.inbound.isSome = true ∧ s.received? = none := by
  obtain ⟨i, hi, hopen⟩ := (Option.any_eq_true _ _).1 h
  rw [received?, hi]
  exact ⟨rfl, Option.isNone_iff_eq_none.1 hopen⟩

/-- Receiving that does not go on has ended, if it was started. -/
theorem received?_of_not_receiving (h : s.isReceiving = false)
    (hstarted : s.inbound.isSome = true) : s.received?.isSome = true := by
  obtain ⟨i, hi⟩ := Option.isSome_iff_exists.1 hstarted
  rw [isReceiving, hi, Option.any_some, Option.isNone_eq_false_iff] at h
  rw [received?, hi]
  exact h

/-- Closing begins where no call waits. -/
theorem of_step?_close (h : s.step? metrics .close = some (next, counted)) :
    s.call = none ∧ s.close metrics = (next, counted) :=
  call?_eq_some_iff.1 h

/-- Where no call waits closing can begin. -/
theorem step?_close (hidle : s.call = none) : s.step? metrics .close = some (s.close metrics) :=
  call?_eq_some_iff.2 ⟨hidle, rfl⟩

/-! ## Whole runs -/

namespace History

variable {options : Options} {actions later : List Action} {b c d : History} {action : Action}

/-- A session has not begun to close, or it closes, or is closed. -/
theorem closeNotBegun_or_closeBegun (h : after? step? (start options) actions = some b) :
    b.session.CloseNotBegun ∨ b.session.CloseBegun := by
  refine (after?_induction
    (motive := fun _ b => b.Agrees ∧ (b.session.CloseNotBegun ∨ b.session.CloseBegun))
    ⟨agrees_start options, Or.inl (closeNotBegun_start options)⟩ ?_ h).2
  rintro _ s action t - ⟨hagrees, hstage⟩ hstep
  have hnext := hagrees.step hstep
  have hsession := session_of_step? hstep
  refine ⟨hnext, ?_⟩
  rcases hstage with hnotBegun | hcloseBegun
  · by_cases haction : action = .close
    · subst haction
      obtain ⟨-, hclose⟩ := of_step?_close hsession
      exact Or.inr
        (hnotBegun.close hagrees.sound hagrees.hasUniquePlaces hnext.hasUniquePlaces hclose).1
    · exact Or.inl (hnotBegun.step (hagrees.sound.sinkStep hsession) haction)
  · exact Or.inr (hcloseBegun.step hagrees.hasUniquePlaces hnext.hasUniquePlaces hsession).1

/-- What closing leads to, and whatever happens later. -/
structure AfterClose (b : History) (later : List Action) (d : History) : Prop where
  agrees : d.Agrees
  closeBegun : d.session.CloseBegun
  nothingStarted : NothingStarted b.session (.close :: later) d.session
  closes : d.session.call.isSome = true ∧ d.session.returned = b.session.returned ∨
    d.session.call = none ∧ ∃ rest, d.session.returned = b.session.returned ++ .done :: rest

/-- Closing begins the end of a session. -/
theorem afterClose_of_close (h : after? step? (start options) actions = some b)
    (hclose : b.step? .close = some c) : AfterClose b [] c := by
  have hagrees := agrees_of_after? h
  have hnext := hagrees.step hclose
  have hsession := session_of_step? hclose
  obtain ⟨hidle, hmade⟩ := of_step?_close hsession
  rcases closeNotBegun_or_closeBegun h with hnotBegun | hcloseBegun
  · obtain ⟨hcloseBegun, hcloses, hnothing⟩ :=
      hnotBegun.close hagrees.sound hagrees.hasUniquePlaces hnext.hasUniquePlaces hmade
    exact ⟨hnext, hcloseBegun, hnothing, hcloses.imp id fun ⟨hover, hreturned⟩ =>
      ⟨hover, [], hreturned⟩⟩
  · obtain ⟨hafter, hnothing, -⟩ :=
      hcloseBegun.step hagrees.hasUniquePlaces hnext.hasUniquePlaces hsession
    have hclosed : b.session.answer .done = c.session :=
      congrArg Prod.fst ((hcloseBegun.close_eq hidle _).symm.trans hmade)
    exact ⟨hnext, hafter, hnothing, Or.inr (hclosed ▸ ⟨rfl, [], rfl⟩)⟩

/-- The end of a session goes on, whatever happens. -/
theorem AfterClose.step {t : History} (h : AfterClose b later d) (hstep : d.step? action = some t) :
    AfterClose b (later ++ [action]) t := by
  have hnext := h.agrees.step hstep
  obtain ⟨hcloseBegun, hnothing, hanswers⟩ :=
    h.closeBegun.step h.agrees.hasUniquePlaces hnext.hasUniquePlaces (session_of_step? hstep)
  refine ⟨hnext, hcloseBegun, h.nothingStarted.trans hnothing, ?_⟩
  rcases h.closes with ⟨hwaits, hsame⟩ | ⟨hover, rest, hreturned⟩
  · rw [← hsame]
    exact (hanswers.waits hwaits).imp id fun ⟨hover, hreturned⟩ => ⟨hover, [], hreturned⟩
  · obtain ⟨hidle, more, hmore⟩ := hanswers.idle hover
    refine Or.inr ⟨hidle, rest ++ more, ?_⟩
    rw [← hmore, hreturned, List.append_assoc, List.cons_append]

/-- After closing has begun a session comes to its end, whatever happens. -/
theorem afterClose_of_after? (h : after? step? (start options) actions = some b)
    (hclose : b.step? .close = some c) (hlater : after? step? c later = some d) :
    AfterClose b later d :=
  after?_induction (motive := fun later d => AfterClose b later d) (afterClose_of_close h hclose)
    (fun _ _ _ _ _ hafterClose hstep => hafterClose.step hstep) hlater

/-- While closing waits, it returns as soon as it looks, if everybody who was under way has had a
turn. -/
theorem AfterClose.exists_poll (h : AfterClose b later d) (hwaits : d.session.call.isSome = true)
    (hsends : ∀ n, b.session.isSending n = true → .pollSend n ∈ later ∨ .abandonSend n ∈ later)
    (hresumes : b.session.isReceiving = true → .inbound .resume ∈ later) :
    ∃ session, d.session.step? d.metrics .poll = some (session, d.metrics) ∧
      session.returned = d.session.returned ++ [.done] := by
  -- Whoever is under way still has not had a turn since closing began.
  have hnobody (n : Nat) : d.session.isSending n = false := by
    refine eq_false_of_ne_true fun hsending => ?_
    obtain ⟨hunder, hpoll, habandon⟩ := h.nothingStarted.sending n hsending
    rcases hsends n hunder with hmem | hmem
    · exact hpoll (List.mem_cons_of_mem _ hmem)
    · exact habandon (List.mem_cons_of_mem _ hmem)
  have hstopped : d.session.isReceiving = false := by
    refine eq_false_of_ne_true fun hgoing => ?_
    obtain ⟨hunder, hresume⟩ := h.nothingStarted.receiving hgoing
    exact hresume (List.mem_cons_of_mem _ (hresumes hunder))
  refine h.closeBegun.step?_poll hwaits hnobody (fun hunawaited => ?_) d.metrics
  refine received?_of_not_receiving hstopped (eq_true_of_ne_false fun hnone => ?_)
  cases (h.agrees.coherent.unstarted hnone).2.symm.trans hunawaited

/-- Nobody receives in a session that has ended. -/
theorem Agrees.isReceiving_of_isTerminal (h : c.Agrees)
    (hterminal : c.session.phase.isTerminal = true) : c.session.isReceiving = false := by
  refine eq_false_of_ne_true fun hgoing => ?_
  obtain ⟨hstarted, hnone⟩ := of_isReceiving hgoing
  have hphase : c.session.phase = .streaming := (h.coherent.going hstarted hnone).1
  rw [hphase] at hterminal
  cases hterminal

/-- Once closing has returned nothing is left of the session. -/
theorem AfterClose.over (h : AfterClose b later d) (hover : d.session.call = none) :
    d.session.phase.isTerminal = true ∧ d.session.writer = false ∧ d.session.reader = false ∧
      d.session.unawaited = false ∧ d.session.isReceiving = false ∧
      (∀ n, d.session.isSending n = false) ∧
      (∀ o, d.session.outbound = some o → o.attached = false) ∧
      d.session.step? d.metrics .close = some ({ d.session with
        returned := d.session.returned ++ [.done] }, d.metrics) := by
  obtain ⟨hreader, hdrained, hunawaited, hterminal⟩ := h.closeBegun.rest hover
  refine ⟨hterminal, h.closeBegun.writer, hreader, hunawaited,
    h.agrees.isReceiving_of_isTerminal hterminal,
    isSending_of_quiet fun o ho => (hdrained o ho).quiet,
    fun o ho => (hdrained o ho).attached, ?_⟩
  rw [step?_close hover, h.closeBegun.close_eq hover, Session.answer, ← hover]

end History

/-- Closing is final, for everybody who has the writer.

Whatever has happened to a session when closing begins, and whatever happens from then on, no byte
is written any more. No send gets under way; those that were under way can look as long as they are,
and whoever looks has failed to write. Receiving can look as well, and has ended then. When all of
them have had their turn, closing returns as soon as it looks. Then the session has ended, has
neither writer nor reader and nothing to wait for, nobody sends or receives, the sink is gone, and
closing again changes nothing; and so it stays. -/
theorem closing_is_final {options : Options} {actions later : List Action} {b c d : History}
    (h : after? History.step? (.start options) actions = some b)
    (hclose : b.step? .close = some c) (hlater : after? History.step? c later = some d) :
    d.session.written = b.session.written ∧
    (∀ n, d.session.isSending n = true →
      b.session.isSending n = true ∧ .pollSend n ∉ later ∧ .abandonSend n ∉ later ∧
      ∃ next fault, d.step? (.pollSend n) = some next ∧
        next.session.result? n = some (.error (.write fault))) ∧
    (∀ n result, b.session.isSending n = true → d.session.result? n = some result →
      ∃ fault, result = .error (.write fault)) ∧
    (∀ e, d.session.outbound.isSome = true → ∃ next, d.step? (.send e) = some next ∧
      next.session.result? d.session.sends = some (.error (Outbound.refusal e))) ∧
    (d.session.isReceiving = true →
      b.session.isReceiving = true ∧ .inbound .resume ∉ later ∧
      ∃ next, d.step? (.inbound .resume) = some next ∧ next.session.isReceiving = false) ∧
    (d.session.returned = b.session.returned ∧
        ((∀ n, b.session.isSending n = true → .pollSend n ∈ later ∨ .abandonSend n ∈ later) →
          (b.session.isReceiving = true → .inbound .resume ∈ later) →
          ∃ next, d.step? .poll = some next ∧
            next.session.returned = b.session.returned ++ [.done]) ∨
      (∃ rest, d.session.returned = b.session.returned ++ .done :: rest) ∧
        d.session.phase.isTerminal = true ∧ d.session.writer = false ∧ d.session.reader = false ∧
        d.session.unawaited = false ∧ d.session.isReceiving = false ∧
        (∀ n, d.session.isSending n = false) ∧
        (∀ o, d.session.outbound = some o → o.attached = false) ∧
        d.session.step? d.metrics .close = some ({ d.session with
          returned := d.session.returned ++ [.done] }, d.metrics)) := by
  have hbefore := History.agrees_of_after? h
  have hafterClose := History.afterClose_of_after? h hclose hlater
  have hcloseBegun := hafterClose.closeBegun
  have hnothing := hafterClose.nothingStarted
  obtain ⟨hidle, -⟩ := of_step?_close (History.session_of_step? hclose)
  have hsteps {action : Action} {session : Session} {metrics : Metrics}
      (hstep : d.session.step? d.metrics action = some (session, metrics)) :
      ∃ next, d.step? action = some next ∧ next.session = session :=
    ⟨_, Option.map_eq_some_iff.2 ⟨_, hstep, rfl⟩, rfl⟩
  refine ⟨hnothing.written, ?_, ?_, ?_, ?_, ?_⟩
  · intro n hsending
    obtain ⟨hunder, hpoll, habandon⟩ := hnothing.sending n hsending
    obtain ⟨session, fault, hstep, hresult⟩ :=
      hcloseBegun.step?_pollSend hafterClose.agrees.hasUniquePlaces hsending d.metrics
    obtain ⟨next, hnext, rfl⟩ := hsteps hstep
    exact ⟨hunder, List.not_mem_of_not_mem_cons hpoll, List.not_mem_of_not_mem_cons habandon,
      next, fault, hnext, hresult⟩
  · intro n result hunder hresult
    obtain ⟨hused, hopen⟩ := hbefore.sound.of_isSending hbefore.hasUniquePlaces hunder
    rcases hnothing.result n result hresult with hold | hwrite | hnew | hown
    · cases hopen.symm.trans hold
    · exact hwrite
    · omega
    · simp [hidle] at hown
  · intro e hsome
    obtain ⟨session, hstep, hresult⟩ :=
      hcloseBegun.step?_send hafterClose.agrees.sound hsome d.metrics e
    obtain ⟨next, hnext, rfl⟩ := hsteps hstep
    exact ⟨next, hnext, hresult⟩
  · intro hgoing
    obtain ⟨hunder, hresume⟩ := hnothing.receiving hgoing
    obtain ⟨session, hstep, hended⟩ := hcloseBegun.step?_resume hgoing d.metrics
    obtain ⟨next, hnext, rfl⟩ := hsteps hstep
    exact ⟨hunder, List.not_mem_of_not_mem_cons hresume, next, hnext, hended⟩
  · rcases hafterClose.closes with ⟨hwaits, hreturned⟩ | ⟨hover, hreturned⟩
    · refine Or.inl ⟨hreturned, fun hsends hresumes => ?_⟩
      obtain ⟨session, hstep, hdone⟩ := hafterClose.exists_poll hwaits hsends hresumes
      obtain ⟨next, hnext, rfl⟩ := hsteps hstep
      exact ⟨next, hnext, hreturned ▸ hdone⟩
    · exact Or.inr ⟨hreturned, hafterClose.over hover⟩

/-- One send is stuck within its frame and another waits when closing begins; both fail, closing
returns, and a send that starts later writes nothing. -/
theorem closing_is_final_under_way :
    ∃ b c d, after? History.step? (.start .standard) [.connect "localhost" 1, .connected none,
        .send ⟨"TASK", "", 1⟩, .accept 10, .send ⟨"TASK", "", 2⟩] = some b ∧
      b.step? .close = some c ∧
      after? History.step? c [.pollSend 1, .pollSend 0, .poll, .send ⟨"TASK", "", 3⟩] = some d ∧
      c.session.returned.length = 1 ∧ d.session.returned.length = 2 ∧
      b.session.written.length = 10 ∧ d.session.written = b.session.written ∧
      (∃ fault, d.session.result? 0 = some (.error (.write fault))) ∧
      (∃ fault, d.session.result? 1 = some (.error (.write fault))) ∧
      d.session.phase.isTerminal = true ∧ ∀ n, d.session.isSending n = false := by
  obtain ⟨b, hb⟩ : ∃ b, after? History.step? (.start .standard) [.connect "localhost" 1,
      .connected none, .send ⟨"TASK", "", 1⟩, .accept 10, .send ⟨"TASK", "", 2⟩] = some b :=
    Option.isSome_iff_exists.1 (by decide +kernel)
  have hrun : (after? History.step? (.start .standard) [.connect "localhost" 1,
      .connected none, .send ⟨"TASK", "", 1⟩, .accept 10, .send ⟨"TASK", "", 2⟩]).any (fun b =>
        b.session.returned.length = 1 ∧ b.session.written.length = 10 ∧
        b.session.isSending 0 = true ∧ b.session.isSending 1 = true ∧
        (b.step? .close).any (fun c => c.session.returned.length = 1 ∧
          (after? History.step? c [.pollSend 1, .pollSend 0, .poll, .send ⟨"TASK", "", 3⟩]).any
            (fun d => d.session.returned.length = 2 ∧ (d.session.result? 0).isSome = true ∧
              (d.session.result? 1).isSome = true))) = true := by decide +kernel
  rw [hb] at hrun
  obtain ⟨hone, hten, hfirst, hsecond, hrun⟩ := of_decide_eq_true hrun
  obtain ⟨c, hc, hrun⟩ := (Option.any_eq_true _ _).1 hrun
  obtain ⟨hwaits, hrun⟩ := of_decide_eq_true hrun
  obtain ⟨d, hd, hrun⟩ := (Option.any_eq_true _ _).1 hrun
  obtain ⟨htwo, hzero, hother⟩ := of_decide_eq_true hrun
  obtain ⟨zero, hzero⟩ := Option.isSome_iff_exists.1 hzero
  obtain ⟨other, hother⟩ := Option.isSome_iff_exists.1 hother
  obtain ⟨hwritten, -, hfailed, -, -, hstage⟩ := closing_is_final hb hc hd
  obtain ⟨fault, rfl⟩ := hfailed 0 zero hfirst hzero
  obtain ⟨later, rfl⟩ := hfailed 1 other hsecond hother
  have hover : d.session.returned ≠ b.session.returned := fun hsame => by
    rw [hsame, hone] at htwo
    cases htwo
  obtain ⟨-, hterminal, -, -, -, -, hnobody, -⟩ := hstage.resolve_left fun hleft => hover hleft.1
  exact ⟨b, c, d, hb, hc, hd, hwaits, htwo, hten, hwritten, ⟨fault, hzero⟩, ⟨later, hother⟩,
    hterminal, hnobody⟩

end Session

end Courier
