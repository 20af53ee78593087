import Courier.Proofs.Client.Outcome
import Courier.Proofs.Client.Schedule
import Courier.Proofs.Session.Closing

/-!
# The session at each stage of the runner

While a run is opened and while it serves, it goes on with its session and does not close it
(`ReachesUnclosed`). What going on with opening can come to is said once (`Opened`). The runner
closes the session only where it has stopped, with no call waiting, and it ends when closing has
returned; a run that could not connect ends with nothing to close (`SessionAtStage`).
-/

namespace Courier

namespace Session

variable {s t next : Session} {metrics counted : Metrics} {action : Action}

/-! ## Sessions that go on -/

/-- A session goes on to another one, and is not closed on the way. -/
inductive ReachesUnclosed (s : Session) : Session → Prop where
  | refl : ReachesUnclosed s s
  | step {t next : Session} {metrics counted : Metrics} {action : Action} (h : ReachesUnclosed s t)
      (haction : action ≠ .close) (hstep : t.step? metrics action = some (next, counted)) :
    ReachesUnclosed s next

/-- A session that goes on may go on further. -/
theorem ReachesUnclosed.trans (h : s.ReachesUnclosed t) (hlater : t.ReachesUnclosed next) :
    s.ReachesUnclosed next := by
  induction hlater with
  | refl => exact h
  | step _ haction hstep ih => exact ih.step haction hstep

/-- A session agrees with what some calls have returned. -/
def AgreesWithCalls (s : Session) : Prop := ∃ c : History, c.session = s ∧ c.Agrees

/-- At first nothing was called. -/
theorem agreesWithCalls_start (options : Options) : (start options).AgreesWithCalls :=
  ⟨.start options, rfl, History.agrees_start options⟩

/-- Whatever happens to a session it agrees with its calls. -/
theorem AgreesWithCalls.step (h : s.AgreesWithCalls)
    (hstep : s.step? metrics action = some (next, counted)) :
    next.AgreesWithCalls := by
  obtain ⟨c, rfl, hagrees⟩ := h
  have hcounted : { c with metrics }.Agrees :=
    ⟨hagrees.sound, hagrees.hasUniquePlaces, hagrees.coherent, hagrees.failedIffBroken,
      hagrees.returns⟩
  exact ⟨_, rfl, hcounted.step (Option.map_eq_some_iff.2 ⟨_, hstep, rfl⟩)⟩

/-- Every send of such a session is in one place at most. -/
theorem AgreesWithCalls.hasUniquePlaces (h : s.AgreesWithCalls) : s.HasUniquePlaces := by
  obtain ⟨_, rfl, hagrees⟩ := h
  exact hagrees.hasUniquePlaces

/-- Nobody receives in such a session once it has ended. -/
theorem AgreesWithCalls.isReceiving_of_isTerminal (h : s.AgreesWithCalls)
    (hterminal : s.phase.isTerminal = true) :
    s.isReceiving = false := by
  obtain ⟨_, rfl, hagrees⟩ := h
  exact hagrees.isReceiving_of_isTerminal hterminal

/-- Where nobody receives, how receiving ended is known if it is still to be waited for. -/
theorem AgreesWithCalls.received?_of_unawaited (h : s.AgreesWithCalls)
    (hreceiving : s.isReceiving = false)
    (hunawaited : s.unawaited = true) : s.received?.isSome = true := by
  obtain ⟨c, rfl, hagrees⟩ := h
  refine received?_of_not_receiving hreceiving (eq_true_of_ne_false fun hnone => ?_)
  cases (hagrees.coherent.unstarted hnone).2.symm.trans hunawaited

/-- A session that goes on agrees with its calls, and closing has not begun. -/
theorem ReachesUnclosed.unclosed (h : s.ReachesUnclosed t) (hcalls : s.AgreesWithCalls)
    (hnotBegun : s.CloseNotBegun) :
    t.AgreesWithCalls ∧ t.CloseNotBegun := by
  induction h with
  | refl => exact ⟨hcalls, hnotBegun⟩
  | step _ haction hstep ih =>
    obtain ⟨hearlier, hbefore⟩ := ih
    refine ⟨hearlier.step hstep, ?_⟩
    obtain ⟨_, rfl, hagrees⟩ := hearlier
    exact hbefore.step (hagrees.sound.sinkStep hstep) haction

/-- Closing a session that agrees with its calls begins its end. -/
theorem AgreesWithCalls.close (h : s.AgreesWithCalls) (hnotBegun : s.CloseNotBegun)
    (hidle : s.call = none)
    (metrics : Metrics) :
    (s.close metrics).1.AgreesWithCalls ∧ (s.close metrics).1.CloseBegun := by
  have hnext : (s.close metrics).1.AgreesWithCalls := h.step (step?_close hidle)
  obtain ⟨_, rfl, hagrees⟩ := h
  exact ⟨hnext, (hnotBegun.close hagrees.sound hagrees.hasUniquePlaces hnext.hasUniquePlaces rfl).1⟩

/-- A session that closes goes on to close, whatever happens, and no call waits once it is
closed. -/
theorem CloseBegun.reachesUnclosed (h : s.CloseBegun) (hcalls : s.AgreesWithCalls)
    (hstep : s.step? metrics action = some (next, counted)) :
    next.AgreesWithCalls ∧ next.CloseBegun ∧ (s.call = none → next.call = none) := by
  have hnext := hcalls.step hstep
  obtain ⟨hcloseBegun, -, hanswers⟩ := h.step hcalls.hasUniquePlaces hnext.hasUniquePlaces hstep
  exact ⟨hnext, hcloseBegun, fun hidle => (hanswers.idle hidle).1⟩

/-- Starting to receive returns at once. -/
theorem call_startReceiving (s : Session) : s.startReceiving.call = none := by
  rcases s.startReceiving_cases with ⟨-, _, hafter⟩ | ⟨-, ⟨-, hafter⟩ | ⟨-, hafter⟩⟩ <;>
    rw [hafter] <;> rfl

end Session

namespace Run

open Session (ReachesUnclosed)

variable {client : Client} {switch : Switch} {actions : List Action} {action : Action}
  {r next : Run} {outcome : Except Failure Unit}

/-! ## What the run does with its session -/

/-- What happens to a session but closing lets it go on. -/
theorem reachesUnclosed_onSession? {a : Session.Action} (ha : a ≠ .close)
    (h : r.onSession? a = some next) :
    r.session.ReachesUnclosed next.session := by
  obtain ⟨session, metrics, hsession, rfl⟩ := exists_of_onSession? h
  exact ReachesUnclosed.refl.step ha hsession

/-- What may happen to a session but closing lets it go on. -/
theorem reachesUnclosed_onSession (r : Run) {a : Session.Action} (ha : a ≠ .close) :
    r.session.ReachesUnclosed (r.onSession a).session := by
  rcases r.onSession_cases a with hsame | hnext
  · rw [hsame]
    exact .refl
  · exact reachesUnclosed_onSession? ha hnext

/-- The pump goes on with the session, and is not stopped by that. -/
structure PumpStep (r next : Run) : Prop where
  session : r.session.ReachesUnclosed next.session
  stopped (h : next.pump = some .stopped) : r.pump = some .stopped

/-- The pump may go on further. -/
theorem PumpStep.trans {later : Run} (h : PumpStep r next) (hlater : PumpStep next later) :
    PumpStep r later :=
  ⟨h.session.trans hlater.session, fun hstopped => h.stopped (hlater.stopped hstopped)⟩

/-- The session goes on beside the pump. -/
theorem pumpStep_onSession? {a : Session.Action} (ha : a ≠ .close)
    (h : r.onSession? a = some next) :
    PumpStep r next := by
  refine ⟨reachesUnclosed_onSession? ha h, ?_⟩
  obtain ⟨_, _, -, rfl⟩ := exists_of_onSession? h
  exact id

/-- A pump that comes to its end lets the session go on. -/
theorem reachesUnclosed_endPump (r : Run) (pump : Pump) :
    r.session.ReachesUnclosed (r.endPump pump).session :=
  reachesUnclosed_onSession { r with pump := some pump } Session.Action.noConfusion

/-- A pump that ends with a result was not stopped. -/
theorem pumpStep_endPump (r : Run) (result : Except Failure Unit) :
    PumpStep r (r.endPump (.ended result)) := by
  refine ⟨r.reachesUnclosed_endPump _, fun hstopped => ?_⟩
  simp at hstopped

/-- The pump goes on once its answer is sent or cannot be. -/
theorem pumpStep_settlePump (r : Run) : PumpStep r r.settlePump := by
  rcases r.settlePump_cases with hsame | hwaits | ⟨failure, hended⟩
  · rw [hsame]
    exact ⟨.refl, id⟩
  · rw [hwaits]
    refine ⟨.refl, ?_⟩
    rintro ⟨⟩
  · rw [hended]
    exact pumpStep_endPump r _

/-- The pump answers an envelope. -/
theorem pumpStep_answer (r : Run) (e : Envelope) : PumpStep r (r.answer e) := by
  unfold answer
  dsimp only
  cases r.client.dispatcher.reply? e with
  | none => exact ⟨.refl, id⟩
  | some reply =>
    dsimp only
    generalize hbegun : ({ r with
        metrics := r.metrics.countReply (some reply)
        pump := some (.sending r.session.sends) } : Run) = begun
    have hcounted : PumpStep r begun := by
      subst hbegun
      refine ⟨.refl, ?_⟩
      rintro ⟨⟩
    have hsent : PumpStep begun (begun.onSession (.send reply)) := by
      refine ⟨reachesUnclosed_onSession _ Session.Action.noConfusion, ?_⟩
      rw [pump_onSession]
      exact id
    exact (hcounted.trans hsent).trans (pumpStep_settlePump _)

/-- The pump goes on if it can. -/
theorem pumpStep_pump? (h : r.pump? = some next) : PumpStep r next := by
  unfold pump? at h
  split at h
  · split at h
    · obtain ⟨taken, htaken, rfl⟩ := Option.map_eq_some_iff.1 h
      exact (pumpStep_onSession? Session.Action.noConfusion htaken).trans (pumpStep_answer taken _)
    · exact pumpStep_onSession? Session.Action.noConfusion h
    · simp only [Option.ite_none_right_eq_some, Option.some.injEq] at h
      obtain ⟨-, rfl⟩ := h
      exact pumpStep_endPump r _
  · obtain ⟨polled, hpolled, rfl⟩ := Option.map_eq_some_iff.1 h
    exact (pumpStep_onSession? Session.Action.noConfusion hpolled).trans
      (pumpStep_settlePump polled)
  · cases h

/-- Stopping lets the session go on. -/
theorem reachesUnclosed_stop (r : Run) (outcome : Except Failure Unit) :
    r.session.ReachesUnclosed (r.stop outcome).session := by
  change r.session.ReachesUnclosed r.stopPump.session
  rcases r.stopPump_cases with ⟨-, hsame⟩ | ⟨-, hstopped | ⟨_, hstopped⟩⟩
  · rw [hsame]
    exact .refl
  · rw [hstopped]
    exact r.reachesUnclosed_endPump _
  · rw [hstopped]
    exact (reachesUnclosed_onSession r Session.Action.noConfusion).trans
      (reachesUnclosed_endPump _ _)

/-! ## Opening -/

/-- What going on with opening the session can come to. -/
inductive Opened (r : Run) : Run → Prop where
  | waits {stage : Stage} {session : Session} {metrics : Metrics}
      (hstage : stage.isOpening = true) (hsession : r.session.ReachesUnclosed session) :
    Opened r { r with stage, session, metrics }
  | unconnected (failure : Failure) (hstage : r.stage = .connecting) (hidle : r.session.call = none)
      (hfailed : r.session.lastReturn? = some (.failed failure)) :
    Opened r { r with stage := .ended (.error failure) }
  | closes {session : Session} {metrics : Metrics} (failure : Failure)
      (hsession : r.session.ReachesUnclosed session) (hidle : session.call = none) (stage : Stage) :
    Opened r ({ r with stage, session, metrics }.close (.error failure))
  | crashes {session : Session} {metrics : Metrics} {pump : Option Pump}
      (hsession : r.session.ReachesUnclosed session) (hpump : pump ≠ some .stopped) :
    Opened r { r with stage := .crashed, session, metrics, pump }
  | serves {session : Session} {metrics : Metrics} (hsession : r.session.ReachesUnclosed session)
      (hidle : session.call = none) (stage : Stage) :
    Opened r { r with stage, session, metrics, pump := some .waiting }.lookAtSwitch

/-- A run that is being opened may go on to wait. -/
theorem opened_self (hstage : r.stage.isOpening = true) : Opened r r := by
  have hsame : Opened r
      { r with stage := r.stage, session := r.session, metrics := r.metrics } := .waits hstage .refl
  exact hsame

/-- What comes of a run that has gone on to register comes of it. -/
theorem Opened.of_registering {session : Session} {metrics : Metrics}
    (h : Opened { r with stage := .registering, session, metrics } next)
    (hsession : r.session.ReachesUnclosed session) : Opened r next := by
  cases h with
  | waits hopening hmore => exact .waits hopening (hsession.trans hmore)
  | unconnected _ hconnecting => cases hconnecting
  | closes failure hmore hidle stage => exact .closes failure (hsession.trans hmore) hidle stage
  | crashes hmore hpump => exact .crashes (hsession.trans hmore) hpump
  | serves hmore hidle stage => exact .serves (hsession.trans hmore) hidle stage

/-- A run that has started to receive starts the pump and serves, unless something is missing. -/
theorem opened_serve {session : Session} (hsession : r.session.ReachesUnclosed session)
    (hidle : session.call = none) : Opened r { r with session }.serve := by
  unfold serve
  split
  · exact .closes _ hsession hidle r.stage
  · dsimp only
    split
    · exact .crashes hsession (by rintro ⟨⟩)
    · exact .serves hsession hidle r.stage

/-- A run that registers goes on to do so, or comes to one of these ends. -/
theorem opened_settleRegistering (hstage : r.stage = .registering)
    (hpump : r.pump = none) : Opened r r.settleRegistering := by
  unfold settleRegistering
  split
  · rename_i hcall _
    have hstart := onSession_startReceiving hcall
    have hsession : r.session.ReachesUnclosed r.session.startReceiving := by
      have hreaches := r.reachesUnclosed_onSession (Session.Action.noConfusion :
        Session.Action.startReceiving ≠ .close)
      rwa [hstart] at hreaches
    have hidle := r.session.call_startReceiving
    rw [hstart]
    dsimp only
    split
    · exact opened_serve hsession hidle
    · exact .closes _ hsession hidle r.stage
    · exact .crashes hsession (by rw [hpump]; rintro ⟨⟩)
  · rename_i hcall _
    exact .closes _ .refl hcall r.stage
  · exact opened_self (by rw [hstage]; rfl)

/-- A run that is being opened goes on to be opened, or comes to one of these ends. -/
theorem opened_settle (hstage : r.stage.isOpening = true) (hpump : r.pump = none) :
    Opened r r.settle := by
  unfold settle
  rw [settlePump_of_not_live (by rw [hpump]; rfl)]
  dsimp only
  split
  · rename_i hconnecting
    unfold settleConnecting
    split
    · have hregistering : Opened ({ r with stage := .registering }.onSession (.register
          r.client.config.client.id r.client.config.client.paths)) _ :=
        opened_settleRegistering (stage_onSession _ _) ((pump_onSession _ _).trans hpump)
      have hsession := reachesUnclosed_onSession { r with stage := .registering }
        (Session.Action.noConfusion : Session.Action.register r.client.config.client.id
          r.client.config.client.paths ≠ .close)
      obtain ⟨session, metrics, hregister⟩ := exists_onSession_eq { r with stage := .registering }
        (.register r.client.config.client.id r.client.config.client.paths)
      rw [hregister] at hsession hregistering
      dsimp only
      rw [hregister]
      exact Opened.of_registering (r := r) hregistering hsession
    · exact .unconnected _ hconnecting ‹_› ‹_›
    · exact opened_self hstage
  · exact opened_settleRegistering ‹_› hpump
  · rename_i hawaiting
    rw [hawaiting] at hstage
    cases hstage
  · rename_i hclosing
    rw [hclosing] at hstage
    cases hstage
  · exact opened_self hstage

/-! ## What the stage says of the session -/

/-- The outcome of a run, from the moment when it is known. -/
def Stage.verdict? : Stage → Option (Except Failure Unit)
  | .stopping outcome | .closing outcome | .ended outcome => some outcome
  | _ => none

/-- While the session is opened the outcome is not known. -/
theorem Stage.verdict?_of_isOpening {stage : Stage} (h : stage.isOpening = true) :
    stage.verdict? = none := by
  cases stage <;> first | rfl | cases h

/-- What is known of the session at each stage of the runner. -/
inductive SessionAtStage (r : Run) : Prop where
  /-- The session is not to be closed yet, and the runner has seen all that it was asked. -/
  | unclosed (hstage : r.stage.verdict? = none) (hnotBegun : r.session.CloseNotBegun)
      (hpump : r.pump ≠ some .stopped)
      (hseen : r.stage = .serving → r.switch.on = true → r.switch.unseen = true)
  | stopped (outcome : Except Failure Unit) (hstage : r.stage = .stopping outcome)
      (hidle : r.session.call = none) (hnotBegun : r.session.CloseNotBegun)
  | closing (outcome : Except Failure Unit) (hstage : r.stage = .closing outcome)
      (hwaits : r.session.call.isSome = true) (hcloseBegun : r.session.CloseBegun)
  | closed (outcome : Except Failure Unit) (hstage : r.stage = .ended outcome)
      (hidle : r.session.call = none) (hcloseBegun : r.session.CloseBegun)
  | unconnected (outcome : Except Failure Unit) (hstage : r.stage = .ended outcome)
      (hidle : r.session.call = none) (houtbound : r.session.outbound = none)
      (hinbound : r.session.inbound = none)

/-- The session of a run agrees with its calls, and is as the stage of the runner demands. -/
structure SessionSound (r : Run) : Prop where
  agreesWithCalls : r.session.AgreesWithCalls
  sessionAtStage : SessionAtStage r

/-- A runner that serves has not stopped its pump, and has seen all that it was asked. -/
theorem SessionAtStage.of_serving (h : SessionAtStage r) (hserving : r.stage = .serving) :
    r.pump ≠ some .stopped ∧ (r.switch.on = true → r.switch.unseen = true) := by
  cases h with
  | unclosed _ _ hpump hseen => exact ⟨hpump, hseen hserving⟩
  | stopped _ hstage | closing _ hstage | closed _ hstage | unconnected _ hstage =>
    cases hserving.symm.trans hstage

/-- A run whose outcome is known has yet to close its session, or closes it, or has ended. -/
theorem SessionAtStage.of_verdict? (h : SessionAtStage r)
    (hverdict : r.stage.verdict? = some outcome) :
    r.stage = .stopping outcome ∨
      (r.stage = .closing outcome ∧ r.session.call.isSome = true ∧ r.session.CloseBegun) ∨
      r.stage = .ended outcome := by
  cases h with
  | unclosed hstage => cases hstage.symm.trans hverdict
  | stopped _ hstage =>
    rw [hstage] at hverdict
    cases hverdict
    exact Or.inl hstage
  | closing _ hstage hwaits hcloseBegun =>
    rw [hstage] at hverdict
    cases hverdict
    exact Or.inr (Or.inl ⟨hstage, hwaits, hcloseBegun⟩)
  | closed _ hstage | unconnected _ hstage =>
    rw [hstage] at hverdict
    cases hverdict
    exact Or.inr (Or.inr hstage)

/-- A runner that stops has a session to close. -/
theorem sessionSound_stop (hcalls : r.session.AgreesWithCalls) (hnotBegun : r.session.CloseNotBegun)
    (hidle : r.session.call = none) (outcome : Except Failure Unit) :
    SessionSound (r.stop outcome) := by
  obtain ⟨hafter, hunclosed⟩ := (r.reachesUnclosed_stop outcome).unclosed hcalls hnotBegun
  exact ⟨hafter, .stopped outcome rfl ((sameForRunner_stopPump r).1.idle hidle).1 hunclosed⟩

/-- A runner that looks at the switch has seen it, or stops. -/
theorem sessionSound_lookAtSwitch (hcalls : r.session.AgreesWithCalls)
    (hnotBegun : r.session.CloseNotBegun) (hidle : r.session.call = none)
    (hpump : r.pump ≠ some .stopped) :
    SessionSound r.lookAtSwitch := by
  cases hon : r.switch.on with
  | true =>
    rw [lookAtSwitch_of_on hon]
    exact sessionSound_stop (r := { r with switch := { r.switch with unseen := false } }) hcalls
      hnotBegun hidle _
  | false =>
    rw [lookAtSwitch_of_off hon]
    exact ⟨hcalls, .unclosed rfl hnotBegun hpump fun _ hset => by cases hon.symm.trans hset⟩

/-- A runner that goes on to wait for the end of receiving has a session to close once it stops. -/
theorem sessionSound_settleReceiver (hcalls : r.session.AgreesWithCalls)
    (hnotBegun : r.session.CloseNotBegun)
    (hpump : r.pump ≠ some .stopped) : SessionSound r.settleReceiver := by
  rcases r.settleReceiver_cases with ⟨_, hidle, -, hstop⟩ | hwait
  · rw [hstop]
    exact sessionSound_stop hcalls hnotBegun hidle _
  · rw [hwait]
    exact ⟨hcalls, .unclosed rfl hnotBegun hpump (by rintro ⟨⟩)⟩

/-- While the session closes the run waits for that, and then it ends. -/
theorem sessionSound_settleClosing (hcalls : r.session.AgreesWithCalls)
    (hcloseBegun : r.session.CloseBegun)
    (outcome : Except Failure Unit) : SessionSound (r.settleClosing outcome) := by
  unfold settleClosing
  refine ⟨hcalls, ?_⟩
  cases hcall : r.session.call with
  | none => exact .closed outcome rfl hcall hcloseBegun
  | some call => exact .closing outcome rfl (by rw [hcall]; rfl) hcloseBegun

/-- A run that closes its session has begun its end. -/
theorem sessionSound_close (hcalls : r.session.AgreesWithCalls)
    (hnotBegun : r.session.CloseNotBegun) (hidle : r.session.call = none)
    (outcome : Except Failure Unit) :
    SessionSound (r.close outcome) := by
  have hclose : r.onSession .close = { r with
      session := (r.session.close r.metrics).1
      metrics := (r.session.close r.metrics).2 } :=
    onSession_of_step? (Session.step?_close hidle)
  obtain ⟨hafter, hcloseBegun⟩ := hcalls.close hnotBegun hidle r.metrics
  rw [close, hclose]
  exact sessionSound_settleClosing (r := { r with
    session := (r.session.close r.metrics).1
    metrics := (r.session.close r.metrics).2 }) hafter hcloseBegun outcome

/-- Whatever opening comes to, the session is as the stage demands. -/
theorem Opened.sessionSound (h : Opened r next) (hcalls : r.session.AgreesWithCalls)
    (hnotBegun : r.session.CloseNotBegun)
    (hpump : r.pump = none)
    (hunconnected : r.stage = .connecting →
      ∀ failure, r.session.lastReturn? = some (.failed failure) →
        r.session.outbound = none ∧ r.session.inbound = none) : SessionSound next := by
  cases h with
  | waits hstage hsession =>
    obtain ⟨hafter, hunclosed⟩ := hsession.unclosed hcalls hnotBegun
    refine ⟨hafter, .unclosed (Stage.verdict?_of_isOpening hstage) hunclosed
      (by rw [hpump]; rintro ⟨⟩) ?_⟩
    rintro rfl
    cases hstage
  | unconnected failure hstage hidle hfailed =>
    obtain ⟨houtbound, hinbound⟩ := hunconnected hstage failure hfailed
    exact ⟨hcalls, .unconnected _ rfl hidle houtbound hinbound⟩
  | @closes session metrics failure hsession hidle stage =>
    obtain ⟨hafter, hunclosed⟩ := hsession.unclosed hcalls hnotBegun
    exact sessionSound_close (r := { r with stage, session, metrics }) hafter hunclosed hidle _
  | crashes hsession hpump =>
    obtain ⟨hafter, hunclosed⟩ := hsession.unclosed hcalls hnotBegun
    exact ⟨hafter, .unclosed rfl hunclosed hpump (by rintro ⟨⟩)⟩
  | @serves session metrics hsession hidle stage =>
    obtain ⟨hafter, hunclosed⟩ := hsession.unclosed hcalls hnotBegun
    exact sessionSound_lookAtSwitch (r := { r with stage, session, metrics, pump := some .waiting })
      hafter hunclosed hidle (by rintro ⟨⟩)

/-- A run that is just connecting has neither a sink nor anything to receive when that fails. -/
theorem start_onSession? {a : Session.Action} {after : Run} (haction : action.session? = some a)
    (hafter : (start client switch).onSession? a = some after) {failure : Failure}
    (hfailed : after.session.lastReturn? = some (.failed failure)) :
    after.session.outbound = none ∧ after.session.inbound = none := by
  cases action with
  | connected peer =>
    cases haction
    cases hafter
    cases hfailed
  | refused reason =>
    cases haction
    cases hafter
    exact ⟨rfl, rfl⟩
  | timedOut =>
    cases haction
    cases hafter
    exact ⟨rfl, rfl⟩
  | _ => cases haction <;> cases hafter

/-- A run whose outcome is known is over. -/
theorem OutcomeAtStage.outcomeKnown_of_verdict? (h : OutcomeAtStage switch actions r)
    (hverdict : r.stage.verdict? = some outcome) : OutcomeKnown switch actions outcome r := by
  cases h with
  | unopened h =>
    cases hverdict.symm.trans (Stage.verdict?_of_isOpening h.stage)
  | serving h =>
    rw [h.stage] at hverdict
    cases hverdict
  | crashed hstage =>
    rw [hstage] at hverdict
    cases hverdict
  | ending h =>
    rcases h.stage with hstage | hstage | hstage <;> rw [hstage] at hverdict <;> cases hverdict <;>
      exact h

/-- A run that has not stopped is being opened, serves, or has crashed. -/
theorem OutcomeAtStage.stage_of_verdict? (h : OutcomeAtStage switch actions r)
    (hverdict : r.stage.verdict? = none) :
    Unopened switch actions r ∨ Serving switch actions r ∨ r.stage = .crashed := by
  cases h with
  | unopened h => exact Or.inl h
  | serving h => exact Or.inr (Or.inl h)
  | crashed hstage => exact Or.inr (Or.inr hstage)
  | ending h =>
    rcases h.stage with hstage | hstage | hstage <;> rw [hstage] at hverdict <;> cases hverdict

/-- A runner that notices something with an open session goes on to serve, or has stopped. -/
theorem sessionSound_notice (hsound : r.session.AgreesWithCalls ∧ r.session.CloseNotBegun)
    (hidle : r.session.call = none)
    (hpump : r.pump ≠ some .stopped) (hnext : r.noticeSwitch? = some next ∨
      r.noticeReceiver? = some next ∨ r.noticePump? = some next) : SessionSound next := by
  obtain ⟨hcalls, hnotBegun⟩ := hsound
  have hwait : SessionSound (r.onSession .waitReceiver).settleReceiver := by
    obtain ⟨hafter, hunclosed⟩ := (r.reachesUnclosed_onSession
      (Session.Action.noConfusion : Session.Action.waitReceiver ≠ .close)).unclosed hcalls hnotBegun
    exact sessionSound_settleReceiver hafter hunclosed (by rw [pump_onSession]; exact hpump)
  rcases hnext with hnext | hnext | hnext
  · rcases noticeSwitch?_eq_some_iff.1 hnext with ⟨-, rfl⟩ | ⟨-, -, rfl⟩
    · exact sessionSound_lookAtSwitch hcalls hnotBegun hidle hpump
    · exact sessionSound_stop hcalls hnotBegun hidle _
  · obtain ⟨-, rfl⟩ := noticeReceiver?_eq_some_iff.1 hnext
    exact hwait
  · rcases noticePump?_eq_some_iff.1 hnext with ⟨-, rfl⟩ | ⟨_, -, rfl⟩
    · exact hwait
    · exact sessionSound_stop hcalls hnotBegun hidle _

/-! ## Steps -/

/-- Whatever happens while the session is not to be closed, it is as the stage demands. -/
theorem sessionSound_of_unclosed (hafter : after? step? (start client switch) actions = some r)
    (hcalls : r.session.AgreesWithCalls) (hverdict : r.stage.verdict? = none)
    (hnotBegun : r.session.CloseNotBegun)
    (hpump : r.pump ≠ some .stopped)
    (hseen : r.stage = .serving → r.switch.on = true → r.switch.unseen = true)
    (hstep : r.step? action = some next) : SessionSound next := by
  have hatStage := outcomeAtStage_of_after? hafter
  -- What goes on beside the runner leaves its stage and the switch alone.
  have hreaches {t : Run} (hpumped : PumpStep r t) (hrunner : SameForRunner r t) :
      SessionSound t := by
    obtain ⟨hstill, hunclosed⟩ := hpumped.session.unclosed hcalls hnotBegun
    refine ⟨hstill, .unclosed (hrunner.stage ▸ hverdict) hunclosed
      (fun hstopped => hpump (hpumped.stopped hstopped)) ?_⟩
    rw [hrunner.stage, hrunner.switch]
    exact hseen
  cases step_of_step? hstep with
  | inbound haction hnext =>
    exact hreaches (pumpStep_onSession? Session.Action.noConfusion hnext)
      (sameForRunner_onSession? rfl hnext).1
  | @session _ _ later haction hlater =>
    have hcall := isCall_of_session? haction
    have hpumped := pumpStep_onSession? (by rintro rfl; cases hcall) hlater
    obtain ⟨hrunner, hsame⟩ := sameForRunner_onSession? hcall hlater
    rcases hatStage.stage_of_verdict? hverdict with hunopened | hserving | hcrashed
    · obtain ⟨hstill, hunclosed⟩ := hpumped.session.unclosed hcalls hnotBegun
      refine (opened_settle (hrunner.stage ▸ hunopened.stage)
        (hsame.trans hunopened.pump)).sessionSound hstill hunclosed (hsame.trans hunopened.pump) ?_
      intro hconnecting failure hfailed
      cases mode_of_after? hafter with
      | connecting switch hrun =>
        subst hrun
        exact start_onSession? haction hlater hfailed
      | registering h => cases (hrunner.stage.symm.trans hconnecting).symm.trans h.stage
      | liveOrFinished h =>
        have hopen := h.isOpening_eq_false
        rw [hrunner.stage.symm.trans hconnecting] at hopen
        cases hopen
    · rw [settle_eq_settlePump (Or.inl (hrunner.stage.trans hserving.stage))]
      exact hreaches (hpumped.trans (pumpStep_settlePump later))
        (hrunner.trans (sameForRunner_settlePump later).1)
    · rw [settle_eq_settlePump (Or.inr (hrunner.stage.trans hcrashed))]
      exact hreaches (hpumped.trans (pumpStep_settlePump later))
        (hrunner.trans (sameForRunner_settlePump later).1)
  | pump hnext => exact hreaches (pumpStep_pump? hnext) (sameForRunner_pump? hnext).1
  | noticeSwitch hserving hnext =>
    exact sessionSound_notice ⟨hcalls, hnotBegun⟩ (hatStage.serving_of_stage hserving).call hpump
      (Or.inl hnext)
  | noticeReceiver hserving hnext =>
    exact sessionSound_notice ⟨hcalls, hnotBegun⟩ (hatStage.serving_of_stage hserving).call hpump
      (Or.inr (Or.inl hnext))
  | noticePump hserving hnext =>
    exact sessionSound_notice ⟨hcalls, hnotBegun⟩ (hatStage.serving_of_stage hserving).call hpump
      (Or.inr (Or.inr hnext))
  | heartbeat hserving =>
    exact sessionSound_lookAtSwitch hcalls hnotBegun (hatStage.serving_of_stage hserving).call hpump
  | close hstopping =>
    rw [hstopping] at hverdict
    cases hverdict
  | set on => exact ⟨hcalls, .unclosed hverdict hnotBegun hpump fun _ _ => rfl⟩
  | drop => exact ⟨hcalls, .unclosed hverdict hnotBegun hpump hseen⟩

/-- Nothing happens to a session that was never connected and of which nothing is called. -/
theorem onSession?_of_unconnected {a : Session.Action} (hcall : a.isCall = false)
    (hsends : a ≠ .nextRequest) (hidle : r.session.call = none)
    (houtbound : r.session.outbound = none) (hinbound : r.session.inbound = none) :
    r.onSession? a = none := by
  have hnothing : r.session.step? r.metrics a = none := by
    cases a with
    | connect | register | startReceiving | waitReceiver | close => cases hcall
    | nextRequest => exact absurd rfl hsends
    | poll => simp [Session.step?, Session.poll?, hidle]
    | connected | refused | timedOut => simp [Session.step?, hidle]
    | send | accept | flush | refuse => simp [Session.step?, Session.outbound?, houtbound]
    | pollSend | abandonSend => simp [Session.step?, Session.outbound?, houtbound]
    | inbound b => cases b <;> simp [Session.step?, hinbound]
  rw [onSession?, hnothing, Option.map_none]

/-- A runner that has stopped, or is over, has nothing to go on with. -/
theorem settle_eq_self (hpump : r.pump.any Pump.isLive = false)
    (hstage : r.stage = .stopping outcome ∨ r.stage = .ended outcome) : r.settle = r := by
  unfold settle
  rw [settlePump_of_not_live hpump]
  rcases hstage with hstage | hstage <;> simp only [hstage]

/-- A runner that closes the session goes on with that alone. -/
theorem settle_eq_settleClosing (hpump : r.pump.any Pump.isLive = false)
    (hstage : r.stage = .closing outcome) : r.settle = r.settleClosing outcome := by
  unfold settle
  rw [settlePump_of_not_live hpump]
  simp only [hstage]

/-- While the runner waits for the end of closing, and when it is over, the session is as the stage
demands. -/
theorem SessionSound.step_of_verdict? (h : SessionSound r)
    (hafter : after? step? (start client switch) actions = some r)
    (hverdict : r.stage.verdict? = some outcome) (hstep : r.step? action = some next) :
    SessionSound next := by
  have hpump := ((outcomeAtStage_of_after? hafter).outcomeKnown_of_verdict? hverdict).pump
  have hserving : r.stage ≠ .serving := fun hserving => by
    rw [hserving] at hverdict
    cases hverdict
  cases step_of_step? hstep with
  | inbound haction hnext =>
    obtain ⟨session, metrics, hsession, rfl⟩ := exists_of_onSession? hnext
    refine ⟨h.agreesWithCalls.step hsession, ?_⟩
    cases h.sessionAtStage with
    | unclosed hstage =>
      rw [hstage] at hverdict
      cases hverdict
    | stopped _ hstage hidle hnotBegun =>
      exact .stopped _ hstage (Session.idle_of_step? hidle rfl hsession).1
        ((reachesUnclosed_onSession? Session.Action.noConfusion hnext).unclosed
          h.agreesWithCalls hnotBegun).2
    | closing _ hstage hwaits hcloseBegun =>
      obtain ⟨_, later, -, -, rfl⟩ := Session.exists_of_step?_inbound hsession
      exact .closing _ hstage ((r.session.call_withInbound later).symm ▸ hwaits)
        (hcloseBegun.reachesUnclosed h.agreesWithCalls hsession).2.1
    | closed _ hstage hidle hcloseBegun =>
      obtain ⟨-, hafter, hknown⟩ := hcloseBegun.reachesUnclosed h.agreesWithCalls hsession
      exact .closed _ hstage (hknown hidle) hafter
    | unconnected _ _ hidle houtbound hinbound =>
      rw [onSession?_of_unconnected rfl Session.Action.noConfusion hidle houtbound hinbound]
        at hnext
      cases hnext
  | session haction hlater =>
    have hcall := isCall_of_session? haction
    obtain ⟨session, metrics, hsession, rfl⟩ := exists_of_onSession? hlater
    have hstill := h.agreesWithCalls.step hsession
    cases h.sessionAtStage with
    | unclosed hstage =>
      rw [hstage] at hverdict
      cases hverdict
    | stopped _ hstage hidle hnotBegun =>
      rw [settle_eq_self (r := { r with session, metrics }) hpump (Or.inl hstage)]
      exact ⟨hstill, .stopped _ hstage (Session.idle_of_step? hidle hcall hsession).1
        ((reachesUnclosed_onSession? (by rintro rfl; cases hcall) hlater).unclosed
          h.agreesWithCalls hnotBegun).2⟩
    | closing _ hstage hwaits hcloseBegun =>
      rw [settle_eq_settleClosing (r := { r with session, metrics }) hpump hstage]
      exact sessionSound_settleClosing (r := { r with session, metrics }) hstill
        (hcloseBegun.reachesUnclosed h.agreesWithCalls hsession).2.1 _
    | closed _ hstage hidle hcloseBegun =>
      obtain ⟨-, hafter, hknown⟩ := hcloseBegun.reachesUnclosed h.agreesWithCalls hsession
      rw [settle_eq_self (r := { r with session, metrics }) hpump (Or.inr hstage)]
      exact ⟨hstill, .closed _ hstage (hknown hidle) hafter⟩
    | unconnected _ _ hidle houtbound hinbound =>
      rw [onSession?_of_unconnected hcall (by rintro rfl; cases action <;> cases haction) hidle
        houtbound hinbound] at hlater
      cases hlater
  | pump hnext =>
    rw [pump?_of_not_live hpump] at hnext
    cases hnext
  | noticeSwitch hstage | noticeReceiver hstage | noticePump hstage | heartbeat hstage =>
    exact absurd hstage hserving
  | close hstopping =>
    cases h.sessionAtStage with
    | stopped _ hstage hidle hnotBegun =>
      exact sessionSound_close h.agreesWithCalls hnotBegun hidle _
    | unclosed hstage =>
      rw [hstage] at hverdict
      cases hverdict
    | closing _ hstage => cases hstopping.symm.trans hstage
    | closed _ hstage => cases hstopping.symm.trans hstage
    | unconnected _ hstage => cases hstopping.symm.trans hstage
  | set on | drop =>
    refine ⟨h.agreesWithCalls, ?_⟩
    cases h.sessionAtStage with
    | unclosed hstage =>
      rw [hstage] at hverdict
      cases hverdict
    | stopped _ hstage hidle hnotBegun => exact .stopped _ hstage hidle hnotBegun
    | closing _ hstage hwaits hcloseBegun => exact .closing _ hstage hwaits hcloseBegun
    | closed _ hstage hidle hcloseBegun => exact .closed _ hstage hidle hcloseBegun
    | unconnected _ hstage hidle houtbound hinbound =>
      exact .unconnected _ hstage hidle houtbound hinbound

/-- Whatever happens in a run, its session is as its stage demands. -/
theorem sessionSound_of_after? (h : after? step? (start client switch) actions = some r) :
    SessionSound r := by
  refine after?_induction (motive := fun _ r => SessionSound r) ?_ ?_ h
  · have hconnects : (Session.start (.ofConfig client.config)).step? .zero
        (.connect client.config.coordinator.host client.config.coordinator.port) =
      some ((start client switch).session, .zero) := rfl
    have hreaches := ReachesUnclosed.refl.step Session.Action.noConfusion hconnects
    obtain ⟨hcalls, hnotBegun⟩ := hreaches.unclosed (Session.agreesWithCalls_start _)
      (Session.closeNotBegun_start _)
    exact ⟨hcalls, .unclosed rfl hnotBegun (by rintro ⟨⟩) (by rintro ⟨⟩)⟩
  · intro actions r action next hafter hsound hstep
    cases hverdict : r.stage.verdict? with
    | some outcome => exact hsound.step_of_verdict? hafter hverdict hstep
    | none =>
      cases hsound.sessionAtStage with
      | unclosed hstage hnotBegun hpump hseen =>
        exact sessionSound_of_unclosed hafter hsound.agreesWithCalls hstage hnotBegun hpump
          hseen hstep
      | stopped _ hstage | closing _ hstage | closed _ hstage | unconnected _ hstage =>
        rw [hstage] at hverdict
        cases hverdict

end Run

end Courier
