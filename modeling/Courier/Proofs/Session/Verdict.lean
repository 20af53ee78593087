import Courier.Proofs.Session.EndState
import Courier.Proofs.Session.Order

/-!
# The end of a session and what its calls return

The phase in which a session ends, how receiving ended and what the calls have returned agree, in
whichever order receiving ends and the calls are made (`History.Agrees`). So a session that was
closed shows every failure that has ended it (`closing_hides_no_failure`).
-/

namespace Courier

/-- A session that has not ended has not failed. -/
theorem Phase.ne_failed_of_open {p : Phase} (h : p.isTerminal = false) : p ≠ .failed := by
  rintro rfl
  cases h

namespace Session

/-! ## What is to be waited for -/

/-- Whether the end of receiving is still to be waited for after a call. -/
def pendingAfter (pending : Bool) (e : Entry) : Bool :=
  match e.1 with
  | .waitReceiver | .close => false
  | _ => isStart e || pending

/-- Whether receiving was started, and nobody has waited for its end since. -/
def pending (log : List Entry) : Bool := log.foldl pendingAfter false

variable {f g : EndState} {log before after : List Entry} {noted : Option Entry} {e : Entry}

/-- What is to be waited for depends on the last call. -/
theorem pending_append (log : List Entry) (noted : Option Entry) :
    pending (log ++ noted.toList) =
      (noted.map (pendingAfter (pending log))).getD (pending log) := by
  rw [pending, List.foldl_append]
  cases noted <;> rfl

/-- A call that breaks the session or says nothing starts nothing, and waits for nothing. -/
theorem pendingAfter_of_quiet (h : isNeutral e = true ∨ breaks e = true) (pending : Bool) :
    pendingAfter pending e = pending := by
  obtain ⟨a, r⟩ := e
  cases a with
  | waitReceiver => rcases h with h | h <;> cases h
  | close => rcases h with h | h <;> cases h
  | startReceiving =>
    rcases h with h | h
    · cases r <;> first | rfl | cases h
    · cases h
  | _ => rfl

/-- A call that says nothing about the end breaks nothing. -/
theorem breaks_of_isNeutral (h : isNeutral e = true) : breaks e = false := by
  obtain ⟨a, r⟩ := e
  cases a with
  | waitReceiver => cases h
  | close => cases h
  | _ =>
    simp only [isNeutral, Bool.and_eq_true, Bool.not_eq_true'] at h
    exact h.1

/-! ## What stays coherent -/

/-- What decides the end is coherent, where the end of receiving is to be waited for or not. -/
structure Coherent (f : EndState) (pending : Bool) : Prop where
  awaited : f.unawaited = pending
  unstarted : f.started = false → f.received = none ∧ f.unawaited = false
  going : f.started = true → f.received = none → f.phase = .streaming ∧ f.unawaited = true
  ended (outcome : Except Failure Unit) (h : f.received = some outcome) :
    f.phase = phaseAfter outcome

/-- What neither starts nor waits for anything keeps the rest coherent. -/
theorem Coherent.of_quiet (h : Coherent f (pending log))
    (hquiet : ∀ e ∈ noted, isNeutral e = true ∨ breaks e = true) :
    Coherent f (pending (log ++ noted.toList)) := by
  rw [pending_append]
  cases noted with
  | none => exact h
  | some e =>
    rw [Option.map_some, Option.getD_some, pendingAfter_of_quiet (hquiet e rfl)]
    exact h

/-- Every step keeps what decides the end coherent. -/
theorem Coherent.endStep (h : Coherent f (pending log)) (hend : EndStep f noted g) :
    Coherent g (pending (log ++ noted.toList)) := by
  cases hend with
  | rest _ hneutral => exact h.of_quiet fun e he => Or.inl (hneutral e he)
  | opens _ next hneutral _ hstarted =>
    have hopened : Coherent { f with phase := next } (pending log) := {
      awaited := h.awaited
      unstarted := h.unstarted
      going := fun hgoing => absurd (hstarted.symm.trans hgoing) Bool.false_ne_true
      ended := fun outcome houtcome => by
        cases (h.unstarted hstarted).1.symm.trans houtcome }
    exact hopened.of_quiet fun e he => Or.inl (hneutral e he)
  | breaks e hbreaks _ hstarted =>
    have hbroken : Coherent { f with phase := .failed } (pending log) := {
      awaited := h.awaited
      unstarted := h.unstarted
      going := fun hgoing => absurd (hstarted.symm.trans hgoing) Bool.false_ne_true
      ended := fun outcome houtcome => by
        cases (h.unstarted hstarted).1.symm.trans houtcome }
    refine hbroken.of_quiet fun x hx => ?_
    obtain rfl := Option.some.inj hx
    exact Or.inr hbreaks
  | starts hphase hstarted =>
    rw [pending_append]
    exact {
      awaited := rfl
      unstarted := by rintro ⟨⟩
      going := fun _ _ => ⟨hphase, rfl⟩
      ended := by rintro outcome ⟨⟩ }
  | ends outcome hstarted hreceived =>
    rw [Option.toList_none, List.append_nil]
    exact {
      awaited := h.awaited
      unstarted := fun hunstarted => absurd (hunstarted.symm.trans hstarted) Bool.false_ne_true
      going := by rintro - ⟨⟩
      ended := by
        rintro _ ⟨⟩
        change f.phase.advance (phaseAfter outcome) = phaseAfter outcome
        -- While receiving goes on the session streams, so it ends as receiving does.
        cases hearlier : f.received with
        | none =>
          rw [(h.going hstarted hearlier).1]
          rfl
        | some earlier =>
          obtain rfl := hreceived earlier hearlier
          rw [h.ended outcome hearlier, Phase.advance_of_isTerminal (isTerminal_phaseAfter _)] }
  | waits _ _ hreceived =>
    rw [pending_append]
    exact {
      awaited := rfl
      unstarted := fun hstarted => ⟨(h.unstarted hstarted).1, rfl⟩
      going := fun _ hnone => by cases hreceived.symm.trans hnone
      ended := h.ended }
  | passes hawaited =>
    rw [pending_append]
    exact ⟨hawaited, h.unstarted, h.going, h.ended⟩
  | closes hawaited =>
    rw [pending_append]
    exact {
      awaited := rfl
      unstarted := fun hstarted => ⟨(h.unstarted hstarted).1, rfl⟩
      going := fun hstarted hnone => by
        have hsome := hawaited (h.going hstarted hnone).2
        rw [show f.received = none from hnone] at hsome
        cases hsome
      ended := fun outcome houtcome => by
        change f.phase.advance .closed = phaseAfter outcome
        rw [h.ended outcome houtcome, Phase.advance_of_isTerminal (isTerminal_phaseAfter _)] }

/-- How receiving ended stays. -/
theorem Coherent.received_of_endStep {pending : Bool} (h : Coherent f pending)
    (hend : EndStep f noted g) {outcome : Except Failure Unit}
    (hreceived : f.received = some outcome) : g.received = some outcome := by
  cases hend with
  | starts _ hstarted => cases (h.unstarted hstarted).1.symm.trans hreceived
  | ends later _ hearlier => exact congrArg some (hearlier outcome hreceived)
  | _ => exact hreceived

/-- A session that has ended stays in its phase, and receiving that was started has ended. -/
theorem Coherent.stays {pending : Bool} (h : Coherent f pending) (hend : EndStep f noted g)
    (hterminal : f.phase.isTerminal = true) : g.phase = f.phase ∧ g.received = f.received := by
  have hended : f.phase ≠ .streaming := by
    intro hphase
    rw [hphase] at hterminal
    cases hterminal
  cases hend with
  | opens _ _ _ hopen => cases hopen.symm.trans hterminal
  | breaks _ _ hopen => cases hopen.symm.trans hterminal
  | starts hphase => exact absurd hphase hended
  | ends outcome hstarted hearlier =>
    refine ⟨Phase.advance_of_isTerminal hterminal, ?_⟩
    cases hreceived : f.received with
    | none => exact absurd (h.going hstarted hreceived).1 hended
    | some earlier => exact congrArg some (hearlier earlier hreceived)
  | closes => exact ⟨Phase.advance_of_isTerminal hterminal, rfl⟩
  | _ => exact ⟨rfl, rfl⟩

/-! ## Why a session has failed -/

/-- The session has failed just if a call broke it, or receiving failed. -/
def FailedIffBroken (f : EndState) (log : List Entry) : Prop :=
  f.phase = .failed ↔
    (∃ e ∈ log, breaks e = true) ∨ ∃ failure, f.received = some (.error failure)

/-- What breaks nothing changes nothing about who is to blame. -/
theorem FailedIffBroken.of_sound (h : FailedIffBroken f log)
    (hsound : ∀ e ∈ noted, breaks e = false)
    (hphase : g.phase = .failed ↔ f.phase = .failed) (hreceived : g.received = f.received) :
    FailedIffBroken g (log ++ noted.toList) := by
  have hsame : (∃ e ∈ log ++ noted.toList, breaks e = true) ↔ ∃ e ∈ log, breaks e = true := by
    refine ⟨?_, fun ⟨e, he, hbreaks⟩ => ⟨e, List.mem_append_left _ he, hbreaks⟩⟩
    rintro ⟨e, he, hbreaks⟩
    rcases List.mem_append.1 he with he | he
    · exact ⟨e, he, hbreaks⟩
    · rw [hsound e (Option.mem_toList.1 he)] at hbreaks
      cases hbreaks
  rw [FailedIffBroken, hsame, hreceived, hphase]
  exact h

/-- After every step the session has failed just if a call broke it, or receiving failed. -/
theorem FailedIffBroken.endStep (h : FailedIffBroken f log) (hcoherent : Coherent f (pending log))
    (hend : EndStep f noted g) : FailedIffBroken g (log ++ noted.toList) := by
  have hneutral {e? : Option Entry} (he? : ∀ e ∈ e?, isNeutral e = true) (e : Entry) (he : e ∈ e?) :
      breaks e = false := breaks_of_isNeutral (he? e he)
  cases hend with
  | rest _ hrest => exact h.of_sound (hneutral hrest) Iff.rfl rfl
  | opens _ next hrest hopen _ hnext =>
    exact h.of_sound (hneutral hrest)
      (iff_of_false (Phase.ne_failed_of_open hnext) (Phase.ne_failed_of_open hopen)) rfl
  | breaks e hbreaks =>
    exact iff_of_true rfl (Or.inl ⟨e, List.mem_append_right _ List.mem_cons_self, hbreaks⟩)
  | starts _ hstarted =>
    exact h.of_sound (by rintro e ⟨⟩; rfl) Iff.rfl (hcoherent.unstarted hstarted).1.symm
  | ends outcome hstarted hearlier =>
    cases hreceived : f.received with
    | none =>
      have hphase : f.phase = .streaming := (hcoherent.going hstarted hreceived).1
      have hunbroken : ¬∃ e ∈ log, breaks e = true := fun hbroken =>
        Phase.noConfusion (hphase.symm.trans (h.2 (Or.inl hbroken)))
      rw [Option.toList_none, List.append_nil, FailedIffBroken, hphase]
      change phaseAfter outcome = .failed ↔ _ ∨ ∃ failure, some outcome = some (.error failure)
      rw [phaseAfter_eq_failed_iff]
      simp only [hunbroken, false_or, Option.some.injEq]
    | some earlier =>
      obtain rfl := hearlier earlier hreceived
      have hterminal : f.phase.isTerminal = true := by
        rw [hcoherent.ended outcome hreceived]
        exact isTerminal_phaseAfter _
      refine h.of_sound (by rintro e ⟨⟩) ?_ hreceived.symm
      change f.phase.advance _ = _ ↔ _
      rw [Phase.advance_of_isTerminal hterminal]
  | waits => exact h.of_sound (by rintro e ⟨⟩; rfl) Iff.rfl rfl
  | passes => exact h.of_sound (by rintro e ⟨⟩; rfl) Iff.rfl rfl
  | closes => exact h.of_sound (by rintro e ⟨⟩; rfl) (Phase.advance_closed_eq_failed_iff _) rfl

/-! ## What calls return -/

/-- What waiting or closing has returned agrees with how receiving ended. -/
def ReturnAgrees (f : EndState) (before : List Entry) : Entry → Prop
  | (.waitReceiver, r) =>
    if pending before then
      ∃ outcome, f.received = some outcome ∧ r = returnOf outcome ∧ f.phase.isTerminal = true
    else r = .done
  | (.close, r) =>
    r = .done ∧ f.phase.isTerminal = true ∧ (pending before = true → f.received.isSome = true)
  | _ => True

/-- What a call has returned stays right. -/
theorem ReturnAgrees.mono (h : ReturnAgrees f before e)
    (hreceived : ∀ outcome, f.received = some outcome → g.received = some outcome)
    (hterminal : f.phase.isTerminal = true → g.phase.isTerminal = true) :
    ReturnAgrees g before e := by
  obtain ⟨a, r⟩ := e
  cases a with
  | waitReceiver =>
    simp only [ReturnAgrees] at h ⊢
    split
    · rename_i hpending
      rw [if_pos hpending] at h
      obtain ⟨outcome, houtcome, hreturn, hended⟩ := h
      exact ⟨outcome, hreceived outcome houtcome, hreturn, hterminal hended⟩
    · rename_i hpassed
      rwa [if_neg hpassed] at h
  | close =>
    obtain ⟨hreturn, hended, houtcome⟩ := h
    refine ⟨hreturn, hterminal hended, fun hpending => ?_⟩
    obtain ⟨outcome, hsome⟩ := Option.isSome_iff_exists.1 (houtcome hpending)
    rw [hreceived outcome hsome]
    rfl
  | _ => exact trivial

/-- What a call returns that neither waits for the end of receiving nor closes is always right. -/
theorem returnAgrees_of_quiet (h : isNeutral e = true ∨ breaks e = true) :
    ReturnAgrees f before e := by
  obtain ⟨a, r⟩ := e
  cases a with
  | waitReceiver => rcases h with h | h <;> cases h
  | close => rcases h with h | h <;> cases h
  | _ => exact trivial

/-- What a call returns is right when it returns. -/
theorem Coherent.returnAgrees (h : Coherent f (pending log)) (hend : EndStep f (some e) g) :
    ReturnAgrees g log e := by
  cases hend with
  | rest _ hneutral => exact returnAgrees_of_quiet (Or.inl (hneutral e rfl))
  | opens _ _ hneutral => exact returnAgrees_of_quiet (Or.inl (hneutral e rfl))
  | breaks _ hbreaks => exact returnAgrees_of_quiet (Or.inr hbreaks)
  | starts => exact trivial
  | waits outcome hunawaited hreceived =>
    simp only [ReturnAgrees]
    rw [if_pos (h.awaited.symm.trans hunawaited)]
    refine ⟨outcome, hreceived, rfl, ?_⟩
    rw [h.ended outcome hreceived]
    exact isTerminal_phaseAfter _
  | passes hawaited =>
    have hpassed : pending log = false := h.awaited.symm.trans hawaited
    simp only [ReturnAgrees, hpassed, Bool.false_eq_true, if_false]
  | closes hawaited =>
    refine ⟨rfl, ?_, fun hpending => hawaited (h.awaited.trans hpending)⟩
    simp

/-- What calls returned before comes before what has just been returned. -/
theorem eq_or_exists_of_append_eq (h : log ++ noted.toList = before ++ e :: after) :
    (∃ rest, log = before ++ e :: rest) ∨ noted = some e ∧ log = before := by
  rcases List.append_eq_append_iff.1 h with ⟨more, rfl, hlast⟩ | ⟨rest, rfl, hrest⟩
  · cases noted with
    | none => simp at hlast
    | some x =>
      cases more with
      | nil =>
        injection hlast with hx
        exact Or.inr ⟨congrArg some hx, (List.append_nil _).symm⟩
      | cons => simp at hlast
  · cases rest with
    | nil =>
      cases noted with
      | none => cases hrest
      | some x =>
        injection hrest with hx
        exact Or.inr ⟨congrArg some hx.symm, List.append_nil _⟩
    | cons x rest =>
      injection hrest with hx
      exact Or.inl ⟨rest, by rw [hx]⟩

/-! ## Whole runs -/

namespace History

variable {options : Options} {actions later : List Action} {c d next : History} {action : Action}

/-- A session and what its calls have returned agree. -/
structure Agrees (c : History) : Prop where
  sound : c.session.Sound c.made c.registrations
  hasUniquePlaces : c.session.HasUniquePlaces
  coherent : Coherent c.session.endState (pending c.log)
  failedIffBroken : FailedIffBroken c.session.endState c.log
  returns (before : List Entry) (e : Entry) (after : List Entry)
    (h : c.log = before ++ e :: after) :
    ReturnAgrees c.session.endState before e

/-- At first nothing was called. -/
theorem agrees_start (options : Options) : Agrees (start options) where
  sound := sound_start options
  hasUniquePlaces := by rintro o ⟨⟩
  coherent := ⟨rfl, fun _ => ⟨rfl, rfl⟩, by rintro ⟨⟩, by rintro outcome ⟨⟩⟩
  failedIffBroken := iff_of_false Phase.noConfusion (by rintro (⟨e, ⟨⟩, -⟩ | ⟨failure, ⟨⟩⟩))
  returns before e after h := by cases before <;> cases h

/-- Every step of a session is one of what decides its end. -/
theorem Agrees.endStepNoted (h : c.Agrees) (hstep : c.step? action = some next) :
    ∃ noted, next.log = c.log ++ noted.toList ∧
    EndStep c.session.endState noted next.session.endState ∧
      next.session.Sound next.made next.registrations ∧ next.session.HasUniquePlaces := by
  obtain ⟨⟨session, metrics⟩, hsession, rfl⟩ := Option.map_eq_some_iff.1 hstep
  have hunique := h.hasUniquePlaces.step h.sound (h.sound.sinkStep hsession)
  obtain ⟨noted, hlog, hend⟩ := h.sound.endStepNoted hunique hsession
  exact ⟨noted, hlog, hend, (h.sound.step hsession).1, hunique⟩

/-- Whatever happens, a session and what its calls have returned agree. -/
theorem Agrees.step (h : c.Agrees) (hstep : c.step? action = some next) : next.Agrees := by
  obtain ⟨noted, hlog, hend, hsound, hunique⟩ := h.endStepNoted hstep
  refine ⟨hsound, hunique, hlog ▸ h.coherent.endStep hend,
    hlog ▸ h.failedIffBroken.endStep h.coherent hend, ?_⟩
  intro before e after hsplit
  rw [hlog] at hsplit
  rcases eq_or_exists_of_append_eq hsplit with ⟨rest, hold⟩ | ⟨rfl, hnew⟩
  · refine (h.returns before e rest hold).mono (fun _ => h.coherent.received_of_endStep hend) ?_
    intro hterminal
    rw [(h.coherent.stays hend hterminal).1]
    exact hterminal
  · exact hnew ▸ h.coherent.returnAgrees hend

/-- After any actions a session and what its calls have returned agree. -/
theorem agrees_of_after? (h : after? step? (start options) actions = some c) : c.Agrees :=
  after?_induction (motive := fun _ c => c.Agrees) (agrees_start options)
    (fun _ _ _ _ _ hagrees hstep => hagrees.step hstep) h

/-- A session that has ended keeps its phase, and how receiving ended. -/
theorem Agrees.stays (h : c.Agrees) (hterminal : c.session.phase.isTerminal = true)
    (hlater : after? step? c later = some d) :
    d.session.phase = c.session.phase ∧ d.session.received? = c.session.received? := by
  have hkept : d.Agrees ∧
      d.session.phase = c.session.phase ∧ d.session.received? = c.session.received? := by
    refine after?_induction (motive := fun _ d => d.Agrees ∧
      d.session.phase = c.session.phase ∧ d.session.received? = c.session.received?)
      ⟨h, rfl, rfl⟩ ?_ hlater
    rintro _ s a t - ⟨hagrees, hphase, hreceived⟩ hstep
    obtain ⟨_, -, hend, -⟩ := hagrees.endStepNoted hstep
    obtain ⟨hsame, hkept⟩ := hagrees.coherent.stays hend (by
      change s.session.phase.isTerminal = true
      rw [hphase]
      exact hterminal)
    exact ⟨hagrees.step hstep, hsame.trans hphase, hkept.trans hreceived⟩
  exact hkept.2

end History

/-- How a session ends and what its calls return agree, and closing hides no failure, in whichever
order receiving ends and the calls are made.

Once receiving has ended the session is closed or has failed as receiving has. The first call that
waits for that end returns how receiving ended, and by then the session has ended as well; where
nothing is to be waited for, because it was not started or was waited for already, also by closing,
waiting returns at once. A session has failed just if no connection could be made, if a registration
failed that was made in time, or if receiving failed; a session that was closed and has not failed
is closed. Nothing that happens later changes that, or how receiving ended. -/
theorem closing_hides_no_failure {options : Options} {actions : List Action} {c : History}
    (h : after? History.step? (.start options) actions = some c) :
    (∀ outcome, c.session.received? = some outcome → c.session.phase = phaseAfter outcome) ∧
    (∀ before r after, c.log = before ++ (.waitReceiver, r) :: after →
      (pending before = true → ∃ outcome, c.session.received? = some outcome ∧
        r = returnOf outcome ∧ c.session.phase.isTerminal = true) ∧
      (pending before = false → r = .done)) ∧
    (c.session.phase = .failed ↔ (∃ e ∈ c.log, isUnreached e = true ∨ isUnregistered e = true) ∨
      ∃ failure, c.session.received? = some (.error failure)) ∧
    (∀ before r after, c.log = before ++ (.close, r) :: after →
      r = .done ∧ (pending before = true → c.session.received?.isSome = true) ∧
      (c.session.phase ≠ .failed → c.session.phase = .closed) ∧
      ∀ later d, after? History.step? c later = some d →
        d.session.phase = c.session.phase ∧ d.session.received? = c.session.received?) := by
  have hagrees := History.agrees_of_after? h
  refine ⟨hagrees.coherent.ended, ?_, ?_, ?_⟩
  · intro before r after hlog
    have htold := hagrees.returns before _ after hlog
    simp only [ReturnAgrees] at htold
    refine ⟨fun hpending => ?_, fun hpassed => ?_⟩
    · rwa [if_pos hpending] at htold
    · rwa [if_neg (by rw [hpassed]; exact Bool.false_ne_true)] at htold
  · have hfailedIff := hagrees.failedIffBroken
    simp only [FailedIffBroken, breaks, Bool.or_eq_true] at hfailedIff
    exact hfailedIff
  · intro before r after hlog
    obtain ⟨hreturn, hterminal, hreceived⟩ := hagrees.returns before _ after hlog
    refine ⟨hreturn, hreceived, fun hsound => ?_, fun later d hlater =>
      hagrees.stays hterminal hlater⟩
    change c.session.phase.isTerminal = true at hterminal
    generalize c.session.phase = p at hterminal hsound ⊢
    cases p <;> first | rfl | exact absurd rfl hsound | cases hterminal

/-- A part of a frame at the end of the stream fails the session, and closing does not hide it. -/
theorem closing_hides_no_failure_partial_frame :
    ∃ c, after? History.step? (.start .standard)
        [.connect "localhost" 1, .connected none, .register "" [], .accept 230, .flush,
          .startReceiving, .inbound (.read [0, 0, 0, 2, 7]), .inbound .readEnd, .close,
          .waitReceiver] = some c ∧
      c.session.returned.getLast? = some .done ∧ c.session.phase = .failed ∧
      (∃ failure, c.session.received? = some (.error failure)) ∧
      ∀ later d, after? History.step? c later = some d → d.session.phase = .failed := by
  obtain ⟨c, hc⟩ : ∃ c, after? History.step? (.start .standard)
      [.connect "localhost" 1, .connected none, .register "" [], .accept 230, .flush,
        .startReceiving, .inbound (.read [0, 0, 0, 2, 7]), .inbound .readEnd, .close,
        .waitReceiver] = some c := Option.isSome_iff_exists.1 (by decide +kernel)
  have hclosed : (after? History.step? (.start .standard)
      [.connect "localhost" 1, .connected none, .register "" [], .accept 230, .flush,
        .startReceiving, .inbound (.read [0, 0, 0, 2, 7]), .inbound .readEnd, .close,
        .waitReceiver]).any (fun c =>
          c.session.returned.getLast? = some .done ∧ c.session.phase = .failed ∧
            c.log.any breaks = false ∧ (.close, .done) ∈ c.log) = true := by
    decide +kernel
  rw [hc] at hclosed
  obtain ⟨hlast, hphase, hunbroken, hclose⟩ := of_decide_eq_true hclosed
  obtain ⟨-, -, hfailed, hafter⟩ := closing_hides_no_failure hc
  have hreceived : ∃ failure, c.session.received? = some (.error failure) := by
    refine (hfailed.1 hphase).resolve_left ?_
    rintro ⟨e, he, hbreaks⟩
    have hsound := List.any_eq_false.1 hunbroken e he
    exact hsound (Bool.or_eq_true _ _ ▸ hbreaks)
  obtain ⟨before, after, hlog⟩ := List.append_of_mem hclose
  obtain ⟨-, -, -, hstays⟩ := hafter before _ after hlog
  exact ⟨c, hc, hlast, hphase, hreceived, fun later d hlater =>
    (hstays later d hlater).1.trans hphase⟩

end Session

end Courier
