import Courier.Proofs.Session.Receiving
import Courier.Proofs.Session.Sink

/-!
# What decides how a session ends

How a session ends depends on its phase, on how receiving ended, and on whether that was waited for
already (`EndState`). Whatever happens to the session, this changes in one of a few ways, and each
goes with what a call returns by it (`EndStep`).
-/

namespace Courier

namespace Session

/-! ## What calls say about the end -/

/-- Whether no connection could be made. -/
def isUnreached : Entry → Bool
  | (.connect _ _, .failed (.connection (.refused _ _ _))) => true
  | (.connect _ _, .failed (.connection (.timedOut _ _ _))) => true
  | _ => false

/-- Whether a registration failed that was made in time. -/
def isUnregistered : Entry → Bool
  | (.register _ _, .failed failure) => !failure.isUntimely
  | _ => false

/-- Whether a call failed in a way that ends the session. -/
def breaks (e : Entry) : Bool := isUnreached e || isUnregistered e

/-- Whether a call says nothing about how the session ends. -/
def isNeutral : Entry → Bool
  | (.waitReceiver, _) | (.close, _) => false
  | e => !breaks e && !isStart e

/-- What decides how a session ends. -/
structure EndState where
  phase : Phase
  /-- Whether receiving was started. -/
  started : Bool
  /-- How receiving ended, if it did. -/
  received : Option (Except Failure Unit)
  /-- Whether the end of receiving is still to be waited for. -/
  unawaited : Bool

/-- What decides how this session ends. -/
def endState (s : Session) : EndState := ⟨s.phase, s.inbound.isSome, s.received?, s.unawaited⟩

/-- How a step changes what decides the end, and what a call returns by it. -/
inductive EndStep (f : EndState) : Option Entry → EndState → Prop where
  | rest (noted : Option Entry) (hneutral : ∀ e ∈ noted, isNeutral e = true) : EndStep f noted f
  | opens (noted : Option Entry) (next : Phase) (hneutral : ∀ e ∈ noted, isNeutral e = true)
      (hopen : f.phase.isTerminal = false) (hstarted : f.started = false)
      (hnext : next.isTerminal = false) : EndStep f noted { f with phase := next }
  | breaks (e : Entry) (hbreaks : breaks e = true) (hopen : f.phase.isTerminal = false)
      (hstarted : f.started = false) : EndStep f (some e) { f with phase := .failed }
  | starts (hphase : f.phase = .streaming) (hstarted : f.started = false) :
    EndStep f (some (.startReceiving, .done)) ⟨f.phase, true, none, true⟩
  | ends (outcome : Except Failure Unit) (hstarted : f.started = true)
      (hreceived : ∀ earlier, f.received = some earlier → outcome = earlier) :
    EndStep f none
      { f with phase := f.phase.advance (phaseAfter outcome), received := some outcome }
  | waits (outcome : Except Failure Unit) (hunawaited : f.unawaited = true)
      (hreceived : f.received = some outcome) :
    EndStep f (some (.waitReceiver, returnOf outcome)) { f with unawaited := false }
  | passes (hawaited : f.unawaited = false) : EndStep f (some (.waitReceiver, .done)) f
  | closes (hawaited : f.unawaited = true → f.received.isSome = true) :
    EndStep f (some (.close, .done))
      { f with phase := f.phase.advance .closed, unawaited := false }

variable {s next : Session} {metrics counted : Metrics} {action a : Action}
  {done made : List Action} {registrations : List Envelope} {f : EndState} {returned : List Return}

/-! ## Calls that wait -/

/-- A call goes on to wait, or returns. -/
def WaitsOrReturns (f : EndState) (returned : List Return) (next : Session) (a : Action) : Prop :=
  ∃ noted, (∀ e ∈ noted, e.1 = a) ∧ next.returned = returned ++ (noted.map Prod.snd).toList ∧
    EndStep f noted next.endState

/-- A call goes on to wait, and what decides the end changes without it. -/
theorem waitsOrReturns_of_endStep (hreturned : next.returned = returned)
    (hmove : EndStep f none next.endState) :
    WaitsOrReturns f returned next a := by
  refine ⟨none, ?_, ?_, hmove⟩
  · rintro e ⟨⟩
  · simpa using hreturned

/-- A call goes on to wait, and nothing happens. -/
theorem waitsOrReturns_of_same (hreturned : next.returned = returned) (hstate : next.endState = f) :
    WaitsOrReturns f returned next a :=
  waitsOrReturns_of_endStep hreturned (hstate ▸ .rest none (by rintro e ⟨⟩))

/-- A call returns. -/
theorem waitsOrReturns_of_return {r : Return} (hreturned : next.returned = returned ++ [r])
    (hmove : EndStep f (some (a, r)) next.endState) : WaitsOrReturns f returned next a := by
  refine ⟨some (a, r), ?_, hreturned, hmove⟩
  rintro e ⟨⟩
  rfl

/-- A call that says nothing about the end returns. -/
theorem waitsOrReturns_of_neutral {r : Return} (hneutral : isNeutral (a, r) = true)
    (hreturned : next.returned = returned ++ [r]) (hstate : next.endState = f) :
    WaitsOrReturns f returned next a := by
  refine waitsOrReturns_of_return hreturned (hstate ▸ .rest _ ?_)
  rintro e ⟨⟩
  exact hneutral

/-- A registration goes on to wait, or returns. -/
theorem HasUniquePlaces.waitsOrReturns_settle (h : s.settle.HasUniquePlaces) {request : Int64}
    {paths : List String}
    {send : Nat} (hcall : s.call = some (.register request paths send)) (clientId : String)
    (hopen : f.phase.isTerminal = false) (hstarted : f.started = false)
    (hstate : s.endState = { f with phase := .registering }) :
    WaitsOrReturns f s.returned s.settle (.register clientId paths) := by
  obtain ⟨hphase, -⟩ := EndState.mk.inj hstate
  have hadvanced (q : Phase) {t : Session} (hphase : t.phase = q) (hinbound : t.inbound = s.inbound)
      (hunawaited : t.unawaited = s.unawaited) : t.endState = { f with phase := q } := by
    rw [endState, received?_of_inbound hinbound, hphase, hinbound, hunawaited]
    exact congrArg (fun g : EndState => { g with phase := q }) hstate
  rcases s.settle_cases with hsame | ⟨_, _, own, hother, hafter⟩
  · rw [hsame]
    refine waitsOrReturns_of_endStep rfl ?_
    rw [hstate]
    exact .opens none _ (by rintro e ⟨⟩) hopen hstarted rfl
  · cases hcall.symm.trans hother
    rcases hafter with ⟨failure, hresult, hfailed⟩ | hdone
    · obtain ⟨o, ho, hresult⟩ := Option.bind_eq_some_iff.1 hresult
      have hunique : o.HasUniquePlaces := h o (s.sameSides_settle.outbound.trans ho)
      have hnoted := (Outbound.result?_eq_some_iff (hunique.places_le _) _).1 hresult
      have htimely := hunique.timely _ _ hnoted
      rw [hfailed]
      refine waitsOrReturns_of_return rfl ?_
      have hbroken : ((s.advance .failed).fail failure).endState = { f with phase := .failed } := by
        refine hadvanced _ ?_ rfl rfl
        rw [phase_fail, phase_advance, hphase]
        rfl
      rw [hbroken]
      refine .breaks _ ?_ hopen hstarted
      simp only [Session.breaks, isUnregistered, htimely, Bool.not_false, Bool.or_true]
    · rw [hdone]
      refine waitsOrReturns_of_return rfl ?_
      have hopened : (({ s with paths }.advance .streaming).answer (.registered request)).endState =
          { f with phase := .streaming } := by
        refine hadvanced _ ?_ rfl rfl
        rw [phase_answer, phase_advance, hphase]
        rfl
      rw [hopened]
      refine .opens _ _ ?_ hopen hstarted rfl
      rintro e ⟨⟩
      rfl

/-- Waiting for the end of receiving goes on, or returns how it ended. -/
theorem waitsOrReturns_goOnWaiting (s : Session) :
    WaitsOrReturns s.endState s.returned s.goOnWaiting .waitReceiver := by
  rcases s.goOnWaiting_cases with hsame | ⟨outcome, hunawaited, hreceived, hafter⟩
  · rw [hsame]
    exact waitsOrReturns_of_same rfl rfl
  · rw [hafter]
    exact waitsOrReturns_of_return rfl (.waits outcome hunawaited hreceived)

/-- Closing that waits for the end of receiving goes on, or is done. -/
theorem waitsOrReturns_goOnClosing (s : Session) :
    WaitsOrReturns s.endState s.returned s.goOnClosing .close := by
  rcases s.goOnClosing_cases with ⟨hsame, -⟩ | ⟨hclosed, hreceived⟩
  · rw [hsame]
    exact waitsOrReturns_of_same rfl rfl
  · rw [hclosed]
    exact waitsOrReturns_of_return rfl (.closes hreceived)

/-- Closing that waits for the sink goes on, or is done. -/
theorem waitsOrReturns_settleClosing (s : Session) (shutdown : Nat) :
    WaitsOrReturns s.endState s.returned (s.settleClosing shutdown) .close := by
  rcases s.settleClosing_cases shutdown with hsame | hafter
  · rw [hsame]
    exact waitsOrReturns_of_same rfl rfl
  · rw [hafter]
    exact waitsOrReturns_goOnClosing { s with reader := false, call := some .closeReceiver }

/-! ## Calls that are made -/

/-- Before it streams a session has not ended, and has not started to receive. -/
theorem Account.unstarted (h : Account s done registrations)
    (hphase : s.phase.rank < Phase.rank .streaming) :
    s.phase.isTerminal = false ∧ s.endState.started = false := by
  refine ⟨?_, ?_⟩
  · generalize s.phase = p at hphase ⊢
    cases p <;> first | rfl | exact absurd hphase (by decide)
  · change s.inbound.isSome = false
    cases hstarted : s.inbound.isSome with
    | false => rfl
    | true => exact absurd hphase (Nat.not_lt.2 (h.receiving (Or.inl hstarted)).2)

/-- Connecting waits, or returns that it came at the wrong time. -/
theorem Account.waitsOrReturns_connect (h : Account s done registrations) (host : String)
    (port : Nat) :
    WaitsOrReturns s.endState s.returned (s.connect host port) (.connect host port) := by
  unfold Session.connect
  split
  · rename_i hphase
    obtain ⟨hopen, hstarted⟩ := h.unstarted (by rw [hphase]; decide)
    refine waitsOrReturns_of_endStep rfl (.opens none _ (by rintro e ⟨⟩) hopen hstarted ?_)
    change (s.phase.advance .connecting).isTerminal = false
    rw [hphase]
    rfl
  · exact waitsOrReturns_of_neutral rfl rfl rfl

/-- A connection that cannot be made ends the session. -/
theorem Account.waitsOrReturns_connectFailed (h : Account s done registrations)
    (hphase : s.phase = .connecting) {fault : ConnectionFault}
    (hbreaks : breaks (a, .failed (.connection fault)) = true) :
    WaitsOrReturns s.endState s.returned (s.connectFailed fault) a := by
  obtain ⟨hopen, hstarted⟩ := h.unstarted (by rw [hphase]; decide)
  refine waitsOrReturns_of_return rfl ?_
  have hfailed : (s.connectFailed fault).endState = { s.endState with phase := .failed } := by
    have hend : s.phase.advance .failed = .failed := Phase.advance_of_open hopen
    rw [← hend]
    rfl
  rw [hfailed]
  exact .breaks _ hbreaks hopen hstarted

/-- Registering waits, or returns. -/
theorem Sound.waitsOrReturns_register (h : Sound s made registrations)
    (hunique : next.HasUniquePlaces)
    (hcall : s.call = none) {clientId : String} {paths : List String}
    (hregister : s.register metrics clientId paths = (next, counted)) :
    WaitsOrReturns s.endState s.returned next (.register clientId paths) := by
  by_cases hphase : s.phase = .connected
  · obtain ⟨hopen, hstarted⟩ := (h.account hcall).unstarted (by rw [hphase]; decide)
    obtain ⟨o, after, -, -, hbegun⟩ := h.register_eq_settle hcall hphase metrics clientId paths
    cases hbegun.symm.trans hregister
    exact hunique.waitsOrReturns_settle rfl clientId hopen hstarted rfl
  · cases (register_of_ne hphase metrics clientId paths).symm.trans hregister
    exact waitsOrReturns_of_neutral rfl rfl rfl

/-- Starting to receive returns at once. -/
theorem Account.waitsOrReturns_startReceiving (h : Account s done registrations) :
    WaitsOrReturns s.endState s.returned s.startReceiving .startReceiving := by
  rcases s.startReceiving_cases with
    ⟨-, _, hafter⟩ | ⟨⟨hphase, hreader⟩, ⟨-, hafter⟩ | ⟨-, hafter⟩⟩
  · rw [hafter]
    exact waitsOrReturns_of_neutral rfl rfl rfl
  · rw [hafter]
    exact waitsOrReturns_of_neutral rfl rfl rfl
  · rw [hafter]
    refine waitsOrReturns_of_return rfl (.starts hphase ?_)
    change s.inbound.isSome = false
    cases hstarted : s.inbound.isSome with
    | false => rfl
    | true => cases hreader.symm.trans (h.receiving (Or.inl hstarted)).1

/-- Waiting for the end of receiving waits if it is to be waited for, or returns at once. -/
theorem waitsOrReturns_waitReceiver (s : Session) :
    WaitsOrReturns s.endState s.returned s.waitReceiver .waitReceiver := by
  unfold waitReceiver
  split
  · exact waitsOrReturns_goOnWaiting { s with call := some .waitReceiver }
  · rename_i hawaited
    exact waitsOrReturns_of_return rfl (.passes (eq_false_of_ne_true hawaited))

/-- Turning the switch on does not decide how a session ends. -/
theorem endState_turnOn (s : Session) : s.turnOn.endState = s.endState := by
  unfold endState received? turnOn
  cases s.inbound <;> rfl

/-- Closing waits, or is done. -/
theorem waitsOrReturns_close (hclose : s.close metrics = (next, counted)) :
    WaitsOrReturns s.endState s.returned next .close := by
  rw [← endState_turnOn s]
  rcases close_cases hclose with ⟨_, after, -, -, rfl⟩ | ⟨-, ⟨-, rfl⟩ | ⟨-, rfl⟩⟩
  · exact waitsOrReturns_settleClosing (s.shutting after) s.sends
  · exact waitsOrReturns_goOnClosing { s.turnOn with
      writer := false
      reader := false
      call := some .closeReceiver }
  · exact waitsOrReturns_of_same rfl rfl

/-! ## What happens to receiving -/

/-- Receiving goes on, or its end ends the session. -/
theorem endStep_withInbound {i after : Inbound} {b : Inbound.Action} (hi : s.inbound = some i)
    (hstep : i.Step metrics b after counted) :
    EndStep s.endState none (s.withInbound after).endState := by
  have hstarted : s.endState.started = true := by
    change s.inbound.isSome = true
    rw [hi]
    rfl
  have hkept (earlier : Except Failure Unit) (hearlier : s.endState.received = some earlier) :
      after.outcome? = some earlier := by
    change s.inbound.bind Inbound.outcome? = some earlier at hearlier
    rw [hi] at hearlier
    exact outcome?_of_step hstep hearlier
  have hstate : { s with inbound := some after }.endState =
      { s.endState with received := after.outcome? } := by
    simp only [endState, received?, hi, Option.isSome_some, Option.bind_some]
  unfold withInbound
  split
  · rename_i hnone
    have hopen : s.endState.received = none := by
      cases hearlier : s.endState.received with
      | none => rfl
      | some earlier => cases hnone.symm.trans (hkept earlier hearlier)
    rw [hstate, hnone, ← hopen]
    exact .rest none (by rintro e ⟨⟩)
  · rename_i outcome houtcome
    have hended : ({ s with inbound := some after }.advance (phaseAfter outcome)).endState =
        { s.endState with
          phase := s.endState.phase.advance (phaseAfter outcome)
          received := some outcome } := by
      rw [← houtcome]
      exact congrArg (fun f : EndState => { f with phase := f.phase.advance (phaseAfter outcome) })
        hstate
    rw [hended]
    refine .ends outcome hstarted fun earlier hearlier => ?_
    exact Option.some.inj (houtcome.symm.trans (hkept earlier hearlier))

/-! ## What a step notes -/

/-- What decides the end makes a step, and what a call returns by it is noted. -/
def EndStepNoted (s next : Session) (made after : List Action) : Prop :=
  ∃ noted, after.zip next.returned = made.zip s.returned ++ noted.toList ∧
    EndStep s.endState noted next.endState

/-- What belongs to no call notes nothing. -/
theorem endStepNoted_of_endStep (hreturned : next.returned = s.returned)
    (hmove : EndStep s.endState none next.endState) : EndStepNoted s next made made := by
  refine ⟨none, ?_, hmove⟩
  rw [hreturned]
  exact (List.append_nil _).symm

/-- What a call returns is noted behind what calls have returned before. -/
theorem Account.endStepNoted (h : Account s done registrations)
    (hreturns : WaitsOrReturns s.endState s.returned next a) :
    EndStepNoted s next done (done ++ [a]) := by
  obtain ⟨noted, ha, hreturned, hmove⟩ := hreturns
  refine ⟨noted, ?_, hmove⟩
  rw [hreturned, List.zip_append h.length_eq]
  cases noted with
  | none => rfl
  | some e =>
    obtain rfl := ha e rfl
    rfl

/-- A call that has not returned is not noted. -/
theorem Account.zip_append (h : Account s done registrations) (waiting : List Action) :
    (done ++ waiting).zip s.returned = done.zip s.returned := by
  have hzip : (done ++ waiting).zip (s.returned ++ []) = done.zip s.returned ++ waiting.zip [] :=
    List.zip_append h.length_eq
  rwa [List.append_nil, List.zip_nil_right, List.append_nil] at hzip

/-- What a call that has waited returns is noted. -/
theorem Sound.endStepNoted_of_waits (h : Sound s made registrations) {c : Call}
    (hcall : s.call = some c)
    (hreturns : ∀ done a, Waits (some c) [a] → Account s done registrations →
      MayWaitIn (some c) s.phase → WaitsOrReturns s.endState s.returned next a) :
    EndStepNoted s next made made := by
  obtain ⟨done, a, rfl, hwaits, haccount, hmayWait⟩ := h.exists_of_call hcall
  obtain ⟨noted, hlog, hmove⟩ := haccount.endStepNoted (hreturns done a hwaits haccount hmayWait)
  refine ⟨noted, ?_, hmove⟩
  rw [hlog, haccount.zip_append]

/-- What happens to the sink may let a registration return. -/
theorem Sound.endStepNoted_outbound? (h : Sound s made registrations)
    (hunique : next.HasUniquePlaces)
    {b : Outbound.Action} (hstep : s.outbound? metrics b = some (next, counted)) :
    EndStepNoted s next made made := by
  obtain ⟨o, after, -, -, rfl⟩ := outbound?_cases hstep
  rcases settle_cases { s with outbound := some after } with
    hsame | ⟨request, paths, send, hcall, -⟩
  · rw [hsame]
    exact endStepNoted_of_endStep rfl (.rest none (by rintro e ⟨⟩))
  · refine h.endStepNoted_of_waits hcall fun done a hwaits haccount hmayWait => ?_
    have hphase : s.phase = .registering := hmayWait
    obtain ⟨hopen, hstarted⟩ := haccount.unstarted (by rw [hphase]; decide)
    cases hwaits with
    | register _ clientId =>
      refine hunique.waitsOrReturns_settle hcall clientId hopen hstarted ?_
      rw [← hphase]
      rfl

/-- Every step of a session is one of what decides its end, and what a call returns is noted. -/
theorem Sound.endStepNoted (h : Sound s made registrations) (hunique : next.HasUniquePlaces)
    (hstep : s.step? metrics action = some (next, counted)) :
    EndStepNoted s next made (if action.isCall then made ++ [action] else made) := by
  cases step_of_step? hstep with
  | connect host port hidle =>
    exact (h.account hidle).endStepNoted ((h.account hidle).waitsOrReturns_connect host port)
  | register _ _ hidle hnext =>
    exact (h.account hidle).endStepNoted (h.waitsOrReturns_register hunique hidle hnext)
  | startReceiving hidle =>
    exact (h.account hidle).endStepNoted (h.account hidle).waitsOrReturns_startReceiving
  | waitReceiver hidle => exact (h.account hidle).endStepNoted (waitsOrReturns_waitReceiver s)
  | close hidle hnext => exact (h.account hidle).endStepNoted (waitsOrReturns_close hnext)
  | nextRequest => exact endStepNoted_of_endStep rfl (.rest none (by rintro e ⟨⟩))
  | goOnRegistering _ hsink => exact h.endStepNoted_outbound? hunique hsink
  | @goOnShutting shutdown _ _ hcall hsink =>
    obtain ⟨o, after, -, -, rfl⟩ := exists_of_outbound? (by rw [hcall]; rfl) hsink
    refine h.endStepNoted_of_waits hcall fun done a hwaits _ _ => ?_
    cases hwaits
    exact waitsOrReturns_settleClosing { s with outbound := some after } shutdown
  | goOnWaiting hcall =>
    refine h.endStepNoted_of_waits hcall fun done a hwaits _ _ => ?_
    cases hwaits
    exact waitsOrReturns_goOnWaiting s
  | goOnClosing hcall =>
    refine h.endStepNoted_of_waits hcall fun done a hwaits _ _ => ?_
    cases hwaits
    exact waitsOrReturns_goOnClosing s
  | connected _ hcall =>
    refine h.endStepNoted_of_waits hcall fun done a hwaits haccount hmayWait => ?_
    have hphase : s.phase = .connecting := hmayWait
    obtain ⟨hopen, hstarted⟩ := haccount.unstarted (by rw [hphase]; decide)
    cases hwaits
    refine waitsOrReturns_of_return rfl (.opens _ _ (by rintro e ⟨⟩; rfl) hopen hstarted ?_)
    change (s.phase.advance .connected).isTerminal = false
    rw [hphase]
    rfl
  | refused _ hcall =>
    refine h.endStepNoted_of_waits hcall fun done a hwaits haccount hmayWait => ?_
    cases hwaits
    exact haccount.waitsOrReturns_connectFailed hmayWait rfl
  | timedOut hcall =>
    refine h.endStepNoted_of_waits hcall fun done a hwaits haccount hmayWait => ?_
    cases hwaits
    exact haccount.waitsOrReturns_connectFailed hmayWait rfl
  | @inbound _ _ after _ hi hafter =>
    obtain ⟨phase, hnext, -⟩ := exists_withInbound s after
    exact endStepNoted_of_endStep (by rw [hnext]) (endStep_withInbound hi hafter)
  | @sink _ _ after _ haction _ hsink =>
    rw [Action.isCall_of_onSink? haction, if_neg Bool.false_ne_true]
    have hsteps : EndStepNoted s after made made := h.endStepNoted_outbound? hunique hsink
    exact hsteps

end Session

end Courier
