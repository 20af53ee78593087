import Courier.Proofs.Client.Announcing
import Courier.Proofs.Config.Accepted

/-!
# What a configuration promises the runtime

A queue can only be made for a number of items up to a bound, and a heartbeat needs a period. The
rules of a configuration see to the period and to the least number of items, but not to the bound.
So a configuration that is accepted may still be one with which nothing can be received: a session
crashes where it should start to receive, and a run does so as soon as its registration is flushed,
just if the queue is too large (`crashed_iff_of_ofText`).
-/

namespace Courier

namespace Session

variable {s next : Session} {metrics counted : Metrics} {action : Action}

/-! ## Limits stay -/

/-- A registration that looks again leaves the limits alone. -/
theorem options_settle (s : Session) : s.settle.options = s.options := by
  rcases s.settle_cases with hsame | ⟨_, _, _, _, ⟨_, -, hfailed⟩ | hdone⟩
  · rw [hsame]
  · rw [hfailed]
    rfl
  · rw [hdone]
    rfl

/-- What becomes of receiving leaves the limits alone. -/
theorem options_withInbound (s : Session) (i : Inbound) :
    (s.withInbound i).options = s.options := by
  unfold withInbound
  split <;> rfl

/-- Waiting for the end of receiving leaves the limits alone. -/
theorem options_goOnWaiting (s : Session) : s.goOnWaiting.options = s.options := by
  rcases s.goOnWaiting_cases with hsame | ⟨_, -, -, hafter⟩
  · rw [hsame]
  · rw [hafter]
    rfl

/-- Closing that waits for the end of receiving leaves the limits alone. -/
theorem options_goOnClosing (s : Session) : s.goOnClosing.options = s.options := by
  rcases s.goOnClosing_cases with ⟨hsame, -⟩ | ⟨hclosed, -⟩
  · rw [hsame]
  · rw [hclosed]
    rfl

/-- Closing that waits for the sink leaves the limits alone. -/
theorem options_settleClosing (s : Session) (shutdown : Nat) :
    (s.settleClosing shutdown).options = s.options := by
  rcases s.settleClosing_cases shutdown with hsame | hafter
  · rw [hsame]
  · rw [hafter]
    exact options_goOnClosing { s with reader := false, call := some .closeReceiver }

/-- What happens to the sink leaves the limits alone. -/
theorem options_outbound? {a : Outbound.Action}
    (h : s.outbound? metrics a = some (next, counted)) : next.options = s.options := by
  obtain ⟨_, after, -, -, rfl⟩ := outbound?_cases h
  exact options_settle { s with outbound := some after }

/-- Whatever happens to a session, its limits stay. -/
theorem options_of_step? (h : s.step? metrics action = some (next, counted)) :
    next.options = s.options := by
  cases step_of_step? h with
  | connect host port =>
    unfold connect
    split <;> rfl
  | register clientId paths _ hnext =>
    rcases register_cases hnext with ⟨_, after, -, -, rfl⟩ | ⟨-, ⟨_, rfl⟩ | rfl⟩
    · exact options_settle (s.registering after paths)
    · rfl
    · rfl
  | startReceiving =>
    rcases s.startReceiving_cases with ⟨-, _, hafter⟩ | ⟨-, ⟨-, hafter⟩ | ⟨-, hafter⟩⟩ <;>
      rw [hafter] <;> rfl
  | waitReceiver =>
    unfold waitReceiver
    split
    · exact options_goOnWaiting { s with call := some .waitReceiver }
    · rfl
  | close _ hnext =>
    rcases close_cases hnext with ⟨_, after, -, -, rfl⟩ | ⟨-, ⟨-, rfl⟩ | ⟨-, rfl⟩⟩
    · exact options_settleClosing (s.shutting after) s.sends
    · exact options_goOnClosing { s.turnOn with
        writer := false
        reader := false
        call := some .closeReceiver }
    · rfl
  | nextRequest => rfl
  | goOnRegistering _ hsink => exact options_outbound? hsink
  | goOnShutting _ hsink => exact (options_settleClosing _ _).trans (options_outbound? hsink)
  | goOnWaiting => exact options_goOnWaiting s
  | goOnClosing => exact options_goOnClosing s
  | connected | refused | timedOut => rfl
  | inbound => exact options_withInbound s _
  | @sink _ _ polled _ _ _ hsink =>
    have hsame : polled.options = s.options := options_outbound? hsink
    exact hsame

/-- A session has the limits that it was made with. -/
theorem History.options_of_after? {options : Options} {actions : List Action} {c : History}
    (h : after? step? (start options) actions = some c) : c.session.options = options :=
  after?_induction (motive := fun _ c => c.session.options = options) rfl
    (fun _ _ _ _ _ hoptions hstep => (options_of_step? (session_of_step? hstep)).trans hoptions) h

/-! ## Starting to receive -/

/-- Starting to receive crashes just where it is due and the queue cannot be made. -/
theorem startReceiving_crashes_iff (s : Session) :
    s.startReceiving.lastReturn? = some .crashed ↔
      s.phase = .streaming ∧ s.reader = true ∧ s.options.allowQueue = false := by
  rcases s.startReceiving_cases with
    ⟨hearly, failure, hfailed⟩ | ⟨hdue, ⟨hallow, hcrashed⟩ | ⟨hallow, hstarted⟩⟩
  · rw [hfailed, lastReturn?_fail, ← and_assoc]
    exact ⟨by rintro ⟨⟩, fun hcrash => absurd hcrash.1 hearly⟩
  · rw [hcrashed, lastReturn?_answer]
    exact ⟨fun _ => ⟨hdue.1, hdue.2, hallow⟩, fun _ => rfl⟩
  · rw [hstarted, lastReturn?_answer]
    exact ⟨by rintro ⟨⟩, fun hcrash => by cases hcrash.2.2.symm.trans hallow⟩

/-- Where a queue has room for something, it cannot be made just if it is too large. -/
theorem Options.allowQueue_eq_false_iff {o : Options} (h : 1 ≤ o.queue) :
    o.allowQueue = false ↔ greatestQueue < o.queue := by
  rw [← Bool.not_eq_true, allowQueue, Bool.and_eq_true, decide_eq_true_eq, decide_eq_true_eq,
    not_and, Nat.not_le]
  exact ⟨fun hmore => hmore h, fun hmore _ => hmore⟩

end Session

namespace Run

variable {client : Client} {switch : Switch} {actions : List Action} {action : Action}
  {frame : Bytes} {r next : Run}

/-- A runner whose session is open does not open it again, and does not crash any more. -/
theorem stage_of_step? (hopen : r.stage.isOpening = false) (hstep : r.step? action = some next) :
    next.stage.isOpening = false ∧ (next.stage = .crashed → r.stage = .crashed) := by
  have hother {t : Run} (h : t.stage.isOpening = false ∧ t.stage ≠ .crashed) :
      t.stage.isOpening = false ∧ (t.stage = .crashed → r.stage = .crashed) :=
    ⟨h.1, fun hcrashed => absurd hcrashed h.2⟩
  have hsame {t : Run} (h : t.stage = r.stage) :
      t.stage.isOpening = false ∧ (t.stage = .crashed → r.stage = .crashed) := by
    rw [h]
    exact ⟨hopen, id⟩
  have hlook (t : Run) : t.lookAtSwitch.stage.isOpening = false ∧
      t.lookAtSwitch.stage ≠ .crashed := by
    cases hon : t.switch.on <;> simp [hon, Stage.isOpening]
  have hreceiver (t : Run) : t.settleReceiver.stage.isOpening = false ∧
      t.settleReceiver.stage ≠ .crashed := by
    rcases t.settleReceiver_cases with ⟨_, -, -, hstop⟩ | hwait
    · rw [hstop]
      exact ⟨rfl, Stage.noConfusion⟩
    · rw [hwait]
      exact ⟨rfl, Stage.noConfusion⟩
  have hclosing (t : Run) (outcome : Except Failure Unit) :
      (t.settleClosing outcome).stage.isOpening = false ∧
        (t.settleClosing outcome).stage ≠ .crashed := by
    rcases t.settleClosing_cases outcome with hclosed | hclosed <;> rw [hclosed] <;>
      exact ⟨rfl, Stage.noConfusion⟩
  cases step_of_step? hstep with
  | inbound _ hnext => exact hsame (sameForRunner_onSession? rfl hnext).1.stage
  | @session _ _ after haction hafter =>
    have hsettled : after.settlePump.stage = r.stage :=
      (stage_settlePump after).trans
        (sameForRunner_onSession? (isCall_of_session? haction) hafter).1.stage
    unfold settle
    dsimp only
    split
    · rename_i hconnecting
      rw [← hsettled, hconnecting] at hopen
      cases hopen
    · rename_i hregistering
      rw [← hsettled, hregistering] at hopen
      cases hopen
    · exact hother (hreceiver _)
    · exact hother (hclosing _ _)
    · exact hsame hsettled
  | pump hnext => exact hsame (sameForRunner_pump? hnext).1.stage
  | noticeSwitch _ hnotice =>
    rcases noticeSwitch?_eq_some_iff.1 hnotice with ⟨-, rfl⟩ | ⟨-, -, rfl⟩
    · exact hother (hlook r)
    · exact hother ⟨rfl, Stage.noConfusion⟩
  | noticeReceiver _ hnotice =>
    obtain ⟨-, rfl⟩ := noticeReceiver?_eq_some_iff.1 hnotice
    exact hother (hreceiver _)
  | noticePump _ hnotice =>
    rcases noticePump?_eq_some_iff.1 hnotice with ⟨-, rfl⟩ | ⟨_, -, rfl⟩
    · exact hother (hreceiver _)
    · exact hother ⟨rfl, Stage.noConfusion⟩
  | heartbeat => exact hother (hlook r)
  | close => exact hother (hclosing _ _)
  | set | drop => exact hsame rfl

/-- A run with a heartbeat that goes on from its registration crashes just if its queue cannot be
made. -/
theorem Registered.crashed_iff (h : Registered client frame r)
    (hbeats : client.config.session.heartbeat ≠ 0) :
    r.settle.stage = .crashed ↔
      (Session.Options.ofConfig client.config).allowQueue = false := by
  rcases h.settle_cases with ⟨hqueue, hcrash⟩ | ⟨hallow, -, -⟩
  · rw [hcrash, ← h.options]
    exact iff_of_true rfl hqueue
  · have hruns := (h.written_settle.2 hallow hbeats).2
    rw [← h.options, hallow]
    exact iff_of_false hruns Bool.noConfusion

/-- How far a run has come with what its configuration asks for. Nothing is flushed before the
registration, and once that is flushed the run has crashed just if its queue cannot be made. -/
inductive CrashProgress (client : Client) (actions : List Action) (r : Run) : Prop where
  | connecting (switch : Switch) (hrun : r = start client switch) (hflush : .flush ∉ actions)
  | registering {frame : Bytes} (h : Registering client frame r) (hflush : .flush ∉ actions)
  | givenUp (h : r.Resting client r.session.written) (hstage : r.stage ≠ .crashed)
      (hflush : .flush ∉ actions)
  | registered (hopen : r.stage.isOpening = false)
      (hstage : r.stage = .crashed ↔
        (Session.Options.ofConfig client.config).allowQueue = false)
      (hflush : .flush ∈ actions)

/-- Every step of a run with a heartbeat keeps to that. -/
theorem CrashProgress.step (h : CrashProgress client actions r)
    (hbeats : client.config.session.heartbeat ≠ 0)
    (hstep : r.step? action = some next) : CrashProgress client (actions ++ [action]) next := by
  have hmore (hflush : .flush ∉ actions) (haction : action ≠ .flush) :
      .flush ∉ actions ++ [action] := by
    rw [List.mem_append, List.mem_singleton, not_or]
    exact ⟨hflush, haction.symm⟩
  cases h with
  | connecting switch hrun hflush =>
    subst hrun
    obtain ⟨-, haction, hnext⟩ := start_step hstep
    rcases hnext with ⟨switch, hrun⟩ | ⟨frame, hregistering, -⟩ | hgivenUp
    · exact .connecting switch hrun (hmore hflush haction)
    · exact .registering hregistering (hmore hflush haction)
    · exact .givenUp hgivenUp.resting hgivenUp.stage.2 (hmore hflush haction)
  | registering h hflush =>
    cases (h.step hstep).2 with
    | waits hregistering _ haction => exact .registering hregistering (hmore hflush haction)
    | sent hsent =>
      have hgoing : LiveOrFinished client [] none false _ := hsent.liveOrFinished
      exact .registered hgoing.isOpening_eq_false (hsent.crashed_iff hbeats) (by simp)
    | givenUp hgivenUp haction =>
      exact .givenUp hgivenUp.resting hgivenUp.stage.2 (hmore hflush haction)
  | givenUp h hstage hflush =>
    have hnext := (h.step hstep).1
    exact .givenUp (hnext.written_eq.symm ▸ hnext)
      (fun hcrashed => hstage ((stage_of_step? h.stage hstep).2 hcrashed))
      (hmore hflush (h.action_ne_flush hstep))
  | registered hopen hstage hflush =>
    obtain ⟨hstill, hback⟩ := stage_of_step? hopen hstep
    refine .registered hstill ?_ (List.mem_append_left _ hflush)
    rw [← hstage]
    exact ⟨hback, fun hcrashed => crashed_step hcrashed hstep⟩

/-- A run of an accepted configuration crashes when its registration is flushed, just if its queue
is too large. -/
theorem crashed_iff_of_keeps {c : Config} (hkeeps : c.Keeps) {dispatcher : Dispatcher}
    (h : after? step? (start ⟨c, dispatcher⟩ switch) actions = some r) :
    r.stage = .crashed ↔
      Session.Options.greatestQueue < c.session.queue ∧ .flush ∈ actions := by
  have hbeats : c.session.heartbeat ≠ 0 :=
    Nat.ne_of_gt (Nat.lt_of_lt_of_le (by decide) hkeeps.beats)
  have hprogress : CrashProgress ⟨c, dispatcher⟩ actions r :=
    after?_induction (motive := CrashProgress ⟨c, dispatcher⟩)
      (.connecting switch rfl List.not_mem_nil)
      (fun _ _ _ _ _ hprogress hstep => hprogress.step hbeats hstep) h
  have hlimit : (Session.Options.ofConfig c).allowQueue = false ↔
      Session.Options.greatestQueue < c.session.queue :=
    Session.Options.allowQueue_eq_false_iff hkeeps.queue
  rw [← hlimit]
  cases hprogress with
  | connecting switch hrun hflush =>
    rw [hrun]
    exact iff_of_false Stage.noConfusion fun hboth => hflush hboth.2
  | registering h hflush =>
    rw [h.stage]
    exact iff_of_false Stage.noConfusion fun hboth => hflush hboth.2
  | givenUp _ hstage hflush => exact iff_of_false hstage fun hboth => hflush hboth.2
  | registered _ hstage hflush =>
    rw [hstage]
    exact ⟨fun hqueue => ⟨hqueue, hflush⟩, fun hboth => hboth.1⟩

/-- Not every configuration that is accepted can be run, and just the size of the queue decides.

The heartbeat always has a period, so nothing fails there. But a session with the limits of an
accepted configuration crashes when it should start to receive, just if it is due to do so and its
queue is too large; and a run crashes just if its queue is too large and something was flushed,
which can only be the registration. -/
theorem crashed_iff_of_ofText {text : String} {c : Config} (hconfig : Config.ofText text = .ok c) :
    (∀ calls history next,
      after? Session.History.step? (.start (.ofConfig c)) calls = some history →
      history.step? .startReceiving = some next →
        (next.session.lastReturn? = some .crashed ↔
          history.session.phase = .streaming ∧ history.session.reader = true ∧
            Session.Options.greatestQueue < c.session.queue)) ∧
    ∀ dispatcher switch actions r,
      after? step? (start ⟨c, dispatcher⟩ switch) actions = some r →
        (r.stage = .crashed ↔
          Session.Options.greatestQueue < c.session.queue ∧ .flush ∈ actions) := by
  have hkeeps := Config.keeps_of_ofText hconfig
  constructor
  · intro calls history next hafter hstep
    obtain ⟨⟨session, metrics⟩, hsession, rfl⟩ := Option.map_eq_some_iff.1 hstep
    have hlimit : (Session.Options.ofConfig c).allowQueue = false ↔
        Session.Options.greatestQueue < c.session.queue :=
      Session.Options.allowQueue_eq_false_iff hkeeps.queue
    obtain ⟨-, hmade⟩ := Session.call?_eq_some_iff.1 hsession
    cases hmade
    rw [← hlimit, ← Session.History.options_of_after? hafter]
    exact Session.startReceiving_crashes_iff _
  · intro dispatcher switch actions r hafter
    exact crashed_iff_of_keeps hkeeps hafter

/-- A configuration that says nothing about its session is accepted, and with it a registration can
be flushed without a crash. -/
theorem crashed_iff_of_ofText_standard_session :
    ∃ c r, Config.ofText "version: 1\nclient: \x7bid: a, paths: [/a]\x7d\n" = .ok c ∧
      after? step? (start (.ofConfig c) .off) [.connected none, .accept 242, .flush] = some r ∧
      r.stage ≠ .crashed := by
  obtain ⟨c, hc, hruns⟩ := exists_ok_of_any
    (x := Config.ofText "version: 1\nclient: \x7bid: a, paths: [/a]\x7d\n")
    (p := fun c => decide (c.session.queue ≤ Session.Options.greatestQueue) &&
      (after? step? (start (.ofConfig c) .off)
        [.connected none, .accept 242, .flush]).isSome) (by decide +kernel)
  rw [Bool.and_eq_true, decide_eq_true_eq] at hruns
  obtain ⟨hqueue, hrun⟩ := hruns
  obtain ⟨r, hr⟩ := Option.isSome_iff_exists.1 hrun
  have hiff := (crashed_iff_of_ofText hc).2 _ _ _ _ hr
  exact ⟨c, r, hc, hr, fun hcrashed => Nat.not_lt.2 hqueue (hiff.1 hcrashed).1⟩

/-- A configuration whose queue is too large by one is accepted as well, and with it the run crashes
where its registration is flushed. -/
theorem crashed_of_accepted :
    ∃ c r, Config.ofText ("version: 1\nclient: \x7bid: a, paths: [/a]\x7d\n" ++
        "session: \x7binbound_queue: 2305843009213693952\x7d\n") = .ok c ∧
      after? step? (start (.ofConfig c) .off) [.connected none, .accept 242, .flush] = some r ∧
      r.stage = .crashed := by
  obtain ⟨c, hc, hruns⟩ := exists_ok_of_any
    (x := Config.ofText ("version: 1\nclient: \x7bid: a, paths: [/a]\x7d\n" ++
      "session: \x7binbound_queue: 2305843009213693952\x7d\n"))
    (p := fun c => decide (Session.Options.greatestQueue < c.session.queue) &&
      (after? step? (start (.ofConfig c) .off)
        [.connected none, .accept 242, .flush]).isSome) (by decide +kernel)
  rw [Bool.and_eq_true, decide_eq_true_eq] at hruns
  obtain ⟨hqueue, hrun⟩ := hruns
  obtain ⟨r, hr⟩ := Option.isSome_iff_exists.1 hrun
  have hiff := crashed_iff_of_keeps (Config.keeps_of_ofText hc) hr
  exact ⟨c, r, hc, hr, hiff.2 ⟨hqueue, by simp⟩⟩

end Run

end Courier
