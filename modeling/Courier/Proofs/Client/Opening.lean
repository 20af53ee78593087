import Courier.Proofs.Client.Replying
import Courier.Proofs.Session.ReceivingStep

/-!
# Opening the session

Before the pump is started nothing is received, and nothing is written but the registration. Once it
is written the pump goes on; if it cannot be, nothing else is written.
-/

namespace Courier

namespace Run

variable {client : Client} {bytes : Bytes} {close : Option Inbound.Close} {frame : Bytes}
  {faulty : Bool}
  {r next : Run}

/-! ## The stage -/

/-- The session goes on in the same way at every stage. -/
theorem onSession_withStage (r : Run) (stage : Stage) (action : Session.Action) :
    { r with stage }.onSession action = { r.onSession action with stage } := by
  unfold onSession onSession?
  dsimp only
  cases r.session.step? r.metrics action <;> rfl

/-- The pump is stopped in the same way at every stage. -/
theorem stopPump_withStage (r : Run) (stage : Stage) :
    { r with stage }.stopPump = { r.stopPump with stage } := by
  unfold stopPump
  dsimp only
  split
  · exact onSession_withStage { r with pump := some .stopped } stage _
  · rename_i send _
    rw [onSession_withStage]
    exact onSession_withStage { r.onSession (.abandonSend send) with pump := some .stopped } stage _
  · rfl

/-- The switch is looked at in the same way at every stage. -/
theorem lookAtSwitch_withStage (r : Run) (stage : Stage) :
    { r with stage }.lookAtSwitch = r.lookAtSwitch := by
  unfold lookAtSwitch stop
  dsimp only
  split
  · rw [stopPump_withStage { r with switch := { r.switch with unseen := false } } stage]
  · rfl

/-! ## Registering -/

/-- The registration is being sent. -/
structure Registering (client : Client) (frame : Bytes) (r : Run) : Prop where
  client_eq : r.client = client
  stage : r.stage = .registering
  pump : r.pump = none
  call : ∃ request paths, r.session.call = some (.register request paths 0)
  busy : ∃ o, r.session.outbound = some o ∧ o.Busy [] frame 0
  inbound : r.session.inbound = none
  sends : r.session.sends = 1
  phase : r.session.phase = .registering
  reader : r.session.reader = true
  writer : r.session.writer = true
  options : r.session.options = .ofConfig client.config
  framed : client.registration.toFrame = .ok frame

/-- Where nothing was received, the registration is all that is to be sent. -/
theorem framed_registration (h : client.registration.toFrame = .ok frame) :
    Framed (client.script []) [frame] := by
  rw [Framed, Client.script, List.filterMap_nil, List.map_singleton, h]
  rfl

/-- The registration is the first of what is to be written. -/
theorem Registering.frame_prefix (h : Registering client frame r) : frame <+: client.wire [] := by
  have hwire := Client.wire_of_prefix (framed_registration h.framed)
    (List.nil_prefix : [] <+: client.items [])
  rwa [List.flatten_singleton] at hwire

/-- What happens to the sink while a registration waits is settled by it. -/
theorem exists_of_outbound?_registering {s session : Session} {metrics counted : Metrics}
    {o : Outbound}
    {action : Outbound.Action} (ho : s.outbound = some o)
    (h : s.outbound? metrics action = some (session, counted)) :
    ∃ after, o.Step metrics action after counted ∧
      session = { s with outbound := some after }.settle := by
  obtain ⟨p, after, hp, hstep, hnext⟩ := Session.outbound?_cases h
  obtain rfl : o = p := Option.some.inj (ho.symm.trans hp)
  exact ⟨after, hstep, hnext⟩

/-- While there is no pump only the registration is settled. -/
theorem settle_eq_settleRegistering (hstage : r.stage = .registering) (hpump : r.pump = none) :
    r.settle = r.settleRegistering := by
  simp only [settle, settlePump, hpump, hstage]

/-- A registration that is still being sent is left to be sent. -/
theorem Registering.settle_eq (h : Registering client frame r) : r.settle = r := by
  obtain ⟨request, paths, hcall⟩ := h.call
  simp only [settle_eq_settleRegistering h.stage h.pump, settleRegistering, hcall]

/-- While the registration is being sent, the sink may take some bytes of it. -/
theorem Registering.of_busy (h : Registering client frame r) {after : Outbound} (metrics : Metrics)
    (hbusy : after.Busy [] frame 0) : Registering client frame
      { r with session := { r.session with outbound := some after }.settle, metrics } := by
  obtain ⟨request, paths, hcall⟩ := h.call
  have hsettle : { r.session with outbound := some after }.settle =
      { r.session with outbound := some after } := by
    simp only [Session.settle, hcall, Outbound.result?_eq_none hbusy.finished]
  rw [hsettle]
  exact ⟨h.client_eq, h.stage, h.pump, ⟨request, paths, hcall⟩, ⟨after, rfl, hbusy⟩, h.inbound,
    h.sends, h.phase, h.reader, h.writer, h.options, h.framed⟩

/-- The session could not be opened: nobody will answer, and nothing is received or counted. -/
structure GivenUp (client : Client) (metrics : Metrics) (r : Run) : Prop where
  resting : r.Resting client r.session.written
  written_prefix : r.session.written <+: client.wire []
  pump : r.pump = none
  stage : r.stage ≠ .serving ∧ r.stage ≠ .crashed
  inbound : r.session.inbound = none
  metrics_eq : r.metrics = metrics

/-- A run that was given up is finished. -/
theorem GivenUp.finished {metrics : Metrics} (h : GivenUp client metrics r) :
    Finished client [] faulty r :=
  finished_of_resting h.resting h.written_prefix h.stage.1

/-- Going on with closing neither serves nor crashes. -/
theorem stage_settleClosing (r : Run) (outcome : Except Failure Unit) :
    (r.settleClosing outcome).stage ≠ .serving ∧ (r.settleClosing outcome).stage ≠ .crashed := by
  rcases r.settleClosing_cases outcome with hclosed | hclosed <;> rw [hclosed] <;>
    exact ⟨Stage.noConfusion, Stage.noConfusion⟩

/-- Closing a session in which nothing is received counts nothing. -/
theorem exists_onSession_close (hinbound : r.session.inbound = none) :
    ∃ session, r.onSession .close = { r with session } ∧ session.inbound = none := by
  rcases r.onSession_cases .close with hsame | hnext
  · exact ⟨r.session, hsame, hinbound⟩
  · obtain ⟨session, metrics, hsession, hclosed⟩ := exists_of_onSession? hnext
    rw [hclosed]
    have hreceiving := Session.receivingStep_of_step? hsession
    generalize hafter : session.inbound = after at hreceiving
    cases hreceiving with
    | closed => exact ⟨session, rfl, by rw [hafter, hinbound]; rfl⟩
    | silent haction => cases haction

/-- Closing a session in which nothing is sent or received gives the run up. -/
theorem givenUp_close (hclient : r.client = client) (hpump : r.pump = none)
    (hquiet : r.session.Quiet) (hinbound : r.session.inbound = none)
    (hwritten : r.session.written <+: client.wire []) (outcome : Except Failure Unit) :
    GivenUp client r.metrics (r.close outcome) := by
  have hnobody : r.pump.any Pump.isLive = false := by rw [hpump]; rfl
  obtain ⟨hresting, -⟩ := resting_close hclient hnobody hquiet outcome
  obtain ⟨session, hclose, hnone⟩ := exists_onSession_close hinbound
  have heq := hresting.written_eq
  refine ⟨heq.symm ▸ hresting, heq.symm ▸ hwritten, (pump_onSession r .close).trans hpump,
    stage_settleClosing _ outcome, ?_, ?_⟩ <;> rw [close, hclose]
  · exact hnone
  · rfl

/-- A registration that could not be sent has failed. -/
theorem settle_of_failed {s : Session} {o : Outbound} {request : Int64} {paths : List String}
    {send : Nat} {failure : Failure} (hcall : s.call = some (.register request paths send))
    (ho : s.outbound = some o) (hresult : o.result? send = some (.error failure)) :
    s.settle.call = none ∧ s.settle.lastReturn? = some (.failed failure) ∧
      s.settle.outbound = some o := by
  have hsettle : s.settle = (s.advance .failed).fail failure := by
    simp only [Session.settle, hcall, ho, hresult]
  rw [hsettle]
  exact ⟨rfl, List.getLast?_concat, ho⟩

/-- A registration that failed closes the session, and nothing more is written. -/
theorem givenUp_of_failed {metrics : Metrics} (hclient : r.client = client)
    (hstage : r.stage = .registering) (hpump : r.pump = none) (hmetrics : r.metrics = metrics)
    {failure : Failure} (hcall : r.session.call = none)
    (hlast : r.session.lastReturn? = some (.failed failure))
    (hinbound : r.session.inbound = none) {o : Outbound}
    (ho : r.session.outbound = some o) (hquiet : o.Quiet)
    (hwritten : o.written <+: client.wire []) : GivenUp client metrics r.settle := by
  have hsettle : r.settle = r.close (.error failure) := by
    simp only [settle_eq_settleRegistering hstage hpump, settleRegistering, hcall, hlast]
  have hsession : r.session.Quiet :=
    Session.quiet_of_outbound (by rw [hcall]; rfl) ho hquiet
  rw [hsettle, ← hmetrics]
  exact givenUp_close hclient hpump hsession hinbound
    ((Session.written_of_outbound ho).symm ▸ hwritten) _

/-- A registration that the sink refuses closes the session. -/
theorem Registering.refuse (h : Registering client frame r) {reason : String}
    (hstep : r.onSession? (.refuse reason) = some next) :
    GivenUp client r.metrics next.settle := by
  obtain ⟨o, ho, hbusy⟩ := h.busy
  obtain ⟨request, paths, hcall⟩ := h.call
  obtain ⟨⟨session, metrics⟩, hsession, rfl⟩ := Option.map_eq_some_iff.1 hstep
  obtain ⟨hinbound, ⟨-, rfl⟩ | ⟨_, _, hflush, -⟩⟩ := Session.receivingStep_outbound? hsession
  · obtain ⟨after, hafter, rfl⟩ := exists_of_outbound?_registering ho hsession
    obtain ⟨hquiet, hwritten, failure, hresult⟩ := hbusy.refuse hafter
    obtain ⟨hnone, hlast, hafter⟩ :=
      settle_of_failed (s := { r.session with outbound := some after }) hcall rfl hresult
    exact givenUp_of_failed h.client_eq h.stage h.pump rfl hnone hlast
      (hinbound.trans h.inbound) hafter hquiet
      (hwritten.symm ▸ hbusy.written_prefix.trans h.frame_prefix)
  · cases hflush

/-- Receiving starts in a session that has registered, if the queue can be made. -/
theorem startReceiving_spec {s : Session} (hphase : s.phase = .streaming)
    (hreader : s.reader = true) :
    (s.startReceiving.call = none ∧ s.startReceiving.outbound = s.outbound ∧
      s.startReceiving.sends = s.sends ∧ s.startReceiving.writer = s.writer) ∧
    (s.options.allowQueue = false ∧ s.startReceiving.lastReturn? = some .crashed ∧
        s.startReceiving.inbound = s.inbound ∨
      s.options.allowQueue = true ∧ 1 ≤ s.options.queue ∧
        s.startReceiving.lastReturn? = some .done ∧
        s.startReceiving.inbound = some (.start s.options.frameLimit s.options.queue)) := by
  cases hallow : s.options.allowQueue with
  | false =>
    have hstart : s.startReceiving = Session.answer { s with reader := false } .crashed := by
      simp [Session.startReceiving, hphase, hreader, hallow]
    rw [hstart]
    exact ⟨⟨rfl, rfl, rfl, rfl⟩, Or.inl ⟨rfl, List.getLast?_concat, rfl⟩⟩
  | true =>
    have hstart : s.startReceiving = Session.answer { s with
        reader := false
        inbound := some (.start s.options.frameLimit s.options.queue)
        unawaited := true } .done := by
      simp [Session.startReceiving, hphase, hreader, hallow]
    rw [hstart]
    simp only [Session.Options.allowQueue, Bool.and_eq_true, decide_eq_true_eq] at hallow
    exact ⟨⟨rfl, rfl, rfl, rfl⟩, Or.inr ⟨rfl, hallow.1, List.getLast?_concat, rfl⟩⟩

/-- The registration was sent, and the runner has not gone on yet. -/
structure Registered (client : Client) (frame : Bytes) (r : Run) : Prop where
  client_eq : r.client = client
  stage : r.stage = .registering
  pump : r.pump = none
  call : r.session.call = none
  last : ∃ request, r.session.lastReturn? = some (.registered request)
  idle : ∃ o, r.session.outbound = some o ∧ o.Idle frame r.session.sends
  inbound : r.session.inbound = none
  phase : r.session.phase = .streaming
  reader : r.session.reader = true
  writer : r.session.writer = true
  options : r.session.options = .ofConfig client.config
  framed : client.registration.toFrame = .ok frame

/-- A runner whose registration was sent starts to receive, and then it serves, unless the queue
cannot be made. -/
theorem Registered.settle_cases (h : Registered client frame r) :
    r.session.options.allowQueue = false ∧
        r.settle = { r with session := r.session.startReceiving, stage := .crashed } ∨
      r.session.options.allowQueue = true ∧
        r.settle = { r with session := r.session.startReceiving }.serve ∧
        Waiting client [] none [] [frame]
          { r with
            session := r.session.startReceiving
            pump := some .waiting
            stage := .crashed } := by
  obtain ⟨request, hlast⟩ := h.last
  obtain ⟨o, ho, hidle⟩ := h.idle
  have hstart := onSession_startReceiving h.call
  obtain ⟨⟨hnone, hsame, hsends, -⟩, hreturn⟩ := startReceiving_spec h.phase h.reader
  rcases hreturn with ⟨hqueue, hcrash, -⟩ | ⟨hallow, hqueue, hdone, hinbound⟩
  · refine Or.inl ⟨hqueue, ?_⟩
    simp only [settle_eq_settleRegistering h.stage h.pump, settleRegistering, h.call, hlast, hstart,
      hcrash]
  · refine Or.inr ⟨hallow, ?_, ?_⟩
    · simp only [settle_eq_settleRegistering h.stage h.pump, settleRegistering, h.call, hlast,
        hstart, hdone]
    · rw [h.options] at hqueue hinbound
      refine ⟨⟨h.client_eq, Or.inr rfl, hnone, _, hinbound, Inbound.undisturbed_start _ hqueue⟩,
        rfl,
        ⟨o, hsame.trans ho, ?_⟩, framed_registration h.framed⟩
      rw [hsends, List.flatten_singleton]
      exact hidle

/-- When the pump is started it waits for an envelope, unless the runner is to stop at once. -/
theorem serve_cases (hwriter : r.session.writer = true) :
    r.client.config.session.heartbeat = 0 ∧
        r.serve = { r with pump := some .waiting, stage := .crashed } ∨
      r.serve = { r with pump := some .waiting, stage := .crashed }.lookAtSwitch := by
  unfold serve
  rw [hwriter]
  simp only [Bool.not_true, Bool.false_eq_true, if_false]
  split
  · exact Or.inl ⟨‹_›, rfl⟩
  · exact Or.inr (lookAtSwitch_withStage { r with pump := some .waiting } .crashed).symm

/-- When a registration was sent, receiving and the pump are started. -/
theorem Registered.liveOrFinished (h : Registered client frame r) :
    LiveOrFinished client [] none faulty r.settle := by
  obtain ⟨o, ho, hidle⟩ := h.idle
  obtain ⟨⟨hnone, hsame, -, hstill⟩, -⟩ := startReceiving_spec h.phase h.reader
  rcases h.settle_cases with ⟨-, hcrash⟩ | ⟨-, hserve, hwaiting⟩
  · have hresting : r.settle.Resting client [frame].flatten := by
      rw [hcrash, List.flatten_singleton]
      exact ⟨h.client_eq, rfl, by rw [h.pump]; rfl,
        Session.quiet_of_outbound (by rw [hnone]; rfl) (hsame.trans ho) hidle.quiet,
        (Session.written_of_outbound (hsame.trans ho)).trans hidle.written_eq⟩
    refine .finished (finished_of_resting hresting
      (Client.wire_of_prefix (framed_registration h.framed) List.nil_prefix) ?_)
    rw [hcrash]
    exact Stage.noConfusion
  · rw [hserve]
    rcases serve_cases (r := { r with session := r.session.startReceiving })
      (hstill.trans h.writer) with ⟨-, hnever⟩ | hlooks
    · rw [hnever]
      exact .live (.waiting hwaiting)
    · rw [hlooks]
      have hlooked := (Replying.waiting hwaiting).lookAtSwitch
        (rfl : Action.heartbeat.isOfRunner = true)
      have hgoing : LiveOrFinished client ([] ++ []) none (faulty || false) _ :=
        hlooked.liveOrFinished fun _ => rfl
      rwa [Bool.or_false] at hgoing

/-- When the sink has flushed the registration, it was sent, and this is counted. -/
theorem Registering.registered (h : Registering client frame r)
    (hstep : r.onSession? .flush = some next) :
    Registered client frame next ∧ next.metrics = r.metrics.countSent frame.length := by
  obtain ⟨o, ho, hbusy⟩ := h.busy
  obtain ⟨request, paths, hcall⟩ := h.call
  obtain ⟨⟨session, metrics⟩, hsession, rfl⟩ := Option.map_eq_some_iff.1 hstep
  obtain ⟨after, hafter, rfl⟩ := exists_of_outbound?_registering ho hsession
  obtain ⟨hidle, hresult⟩ := hbusy.flush hafter
  have hsettle : { r.session with outbound := some after }.settle =
      { r.session with
        outbound := some after
        paths := paths
        phase := .streaming
        call := none
        returned := r.session.returned ++ [.registered request] } := by
    simp only [Session.settle, hcall, hresult, Session.answer, Session.advance, h.phase]
    rfl
  rw [hsettle]
  exact ⟨⟨h.client_eq, h.stage, h.pump, rfl, ⟨request, List.getLast?_concat⟩,
    ⟨after, rfl, h.sends.symm ▸ hidle⟩, h.inbound, rfl, h.reader, h.writer, h.options, h.framed⟩,
    hbusy.counted_of_flush hafter⟩

/-- What can come of a registration. -/
inductive Registering.Next (client : Client) (frame : Bytes) (r : Run) : Action → Run → Prop where
  /-- It goes on to be sent. -/
  | waits {action : Action} {next : Run} (h : Registering client frame next)
      (hmetrics : next.metrics = r.metrics) (haction : action ≠ .flush) :
    Next client frame r action next
  | sent {sent : Run} (h : Registered client frame sent)
      (hmetrics : sent.metrics = r.metrics.countSent frame.length) :
    Next client frame r .flush sent.settle
  | givenUp {action : Action} {next : Run} (h : GivenUp client r.metrics next)
      (haction : action ≠ .flush) : Next client frame r action next

/-- Whatever happens while the registration is being sent, nothing is received. The registration
goes on to be sent, or it was sent, or it failed, and then the run is given up. -/
theorem Registering.step (h : Registering client frame r) {action : Action}
    (hstep : r.step? action = some next) :
    action.inbound? = none ∧ Registering.Next client frame r action next := by
  obtain ⟨o, ho, hbusy⟩ := h.busy
  obtain ⟨request, paths, hcall⟩ := h.call
  have hinput {a : Inbound.Action} (hsession : r.onSession? (.inbound a) = some next) : False := by
    obtain ⟨_, hinbound, -⟩ := Option.map_eq_some_iff.1 hsession
    obtain ⟨i, _, hi, -⟩ := Session.exists_of_step?_inbound hinbound
    cases h.inbound.symm.trans hi
  have hsink {a : Outbound.Action} (hkeeps : ∀ {after counted}, o.Step r.metrics a after counted →
        after.Busy [] frame 0) (ha : a ≠ .flush) {session : Session} {metrics : Metrics}
      (hsession : r.session.outbound? r.metrics a = some (session, metrics)) {action : Action}
      (haction : action ≠ .flush) :
      Registering.Next client frame r action (settle { r with session, metrics }) := by
    obtain ⟨-, ⟨-, rfl⟩ | ⟨_, _, hflush, -⟩⟩ := Session.receivingStep_outbound? hsession
    · obtain ⟨after, hafter, rfl⟩ := exists_of_outbound?_registering ho hsession
      have hnext := h.of_busy r.metrics (hkeeps hafter)
      rw [hnext.settle_eq]
      exact .waits hnext rfl haction
    · exact absurd hflush ha
  cases step_of_step? hstep with
  | inbound haction hnext => exact (hinput hnext).elim
  | session haction hafter =>
    refine ⟨inbound?_of_session? haction, ?_⟩
    obtain ⟨⟨session, metrics⟩, hsession, heq⟩ := Option.map_eq_some_iff.1 hafter
    cases action with
    | connected | refused | timedOut =>
      cases haction
      simp [Session.step?, hcall] at hsession
    | accept count =>
      cases haction
      exact heq ▸ hsink hbusy.accept Outbound.Action.noConfusion hsession Action.noConfusion
    | flush =>
      cases haction
      obtain ⟨hregistered, hmetrics⟩ := h.registered hafter
      exact .sent hregistered hmetrics
    | refuse reason =>
      cases haction
      exact .givenUp (h.refuse hafter) Action.noConfusion
    | poll =>
      cases haction
      simp only [Session.step?, Session.poll?, hcall] at hsession
      exact heq ▸ hsink (fun hpoll => (hbusy.poll hpoll).symm ▸ hbusy) Outbound.Action.noConfusion
        hsession Action.noConfusion
    | _ => cases haction
  | pump hnext =>
    rw [pump?_of_not_live (by rw [h.pump]; rfl)] at hnext
    cases hnext
  | noticeSwitch hserving | noticeReceiver hserving | noticePump hserving | heartbeat hserving =>
    cases h.stage.symm.trans hserving
  | close hstopping => cases h.stage.symm.trans hstopping
  | set | drop =>
    exact ⟨rfl, .waits ⟨h.client_eq, h.stage, h.pump, h.call, h.busy, h.inbound, h.sends, h.phase,
      h.reader, h.writer, h.options, h.framed⟩ rfl Action.noConfusion⟩

/-! ## Connecting -/

/-- The session of a client that is connected. -/
def connectedSession (client : Client) (peer : Option String) : Session where
  options := .ofConfig client.config
  phase := .connected
  numbers := .fresh
  peer := peer
  paths := []
  writer := true
  reader := true
  outbound := some .start
  inbound := none
  unawaited := false
  sends := 0
  call := none
  returned := [.done]

/-- The session of a client that has just begun to register. -/
def registeringSession (client : Client) (peer : Option String) (o : Outbound) : Session :=
  { connectedSession client peer with
    phase := .registering
    numbers := RequestNumbers.fresh.take.2
    outbound := some o
    sends := 1
    call := some (.register RequestNumbers.fresh.next client.config.client.paths 0) }

/-- A new sink is idle. -/
theorem idle_start : Outbound.start.Idle [] 0 :=
  ⟨rfl, rfl, ⟨rfl, rfl⟩, rfl, fun _ _ h => absurd h List.not_mem_nil⟩

/-- A client that is connected begins to register. -/
theorem register_connectedSession {peer : Option String} {metrics counted : Metrics} {o : Outbound}
    (hsend : Outbound.start.step? metrics (.send 0 client.registration) = some (o, counted)) :
    (connectedSession client peer).register metrics client.config.client.id
        client.config.client.paths =
      ((registeringSession client peer o).settle, counted) := by
  rw [Client.registration] at hsend
  simp only [Session.register, connectedSession, Session.advance, Session.nextRequest,
    RequestNumbers.take, hsend, ne_eq, not_true, if_false]
  rfl

/-- What has just been connected goes on to register. -/
theorem settle_connectedSession {peer : Option String} {switch : Switch} {metrics counted : Metrics}
    {o : Outbound}
    (hsend : Outbound.start.step? metrics (.send 0 client.registration) = some (o, counted)) :
    settle ⟨client, connectedSession client peer, .connecting, none, switch, metrics⟩ =
      settleRegistering
        ⟨client, (registeringSession client peer o).settle, .registering, none, switch,
          counted⟩ := by
  have hcall : (connectedSession client peer).call = none := rfl
  have hlast : (connectedSession client peer).lastReturn? = some .done := rfl
  simp only [settle, settlePump, settleConnecting, hcall, hlast, onSession, onSession?,
    Session.step?, Session.call?, Option.isNone_none, if_true, register_connectedSession hsend,
    Option.map_some, Option.getD_some]

/-- A client that is connected sends its registration, or closes the session if no frame can hold
it. -/
theorem connected (client : Client) (peer : Option String) (switch : Switch) (metrics : Metrics) :
    (∃ frame, Registering client frame
      (settle ⟨client, connectedSession client peer, .connecting, none, switch, metrics⟩) ∧
        (settle ⟨client, connectedSession client peer, .connecting, none, switch,
          metrics⟩).metrics = metrics) ∨
    GivenUp client metrics
      (settle ⟨client, connectedSession client peer, .connecting, none, switch, metrics⟩) := by
  cases hframe : client.registration.toFrame with
  | ok frame =>
    obtain ⟨o, hsend, hbusy⟩ := idle_start.send hframe metrics
    have hsettle : (registeringSession client peer o).settle =
        registeringSession client peer o := by
      simp only [registeringSession, Session.settle, Outbound.result?_eq_none hbusy.finished]
    have hregistering : Registering client frame
        ⟨client, registeringSession client peer o, .registering, none, switch, metrics⟩ :=
      ⟨rfl, rfl, rfl, ⟨_, _, rfl⟩, ⟨o, rfl, hbusy⟩, rfl, rfl, rfl, rfl, rfl, rfl, hframe⟩
    refine Or.inl ⟨frame, ?_⟩
    rw [settle_connectedSession hsend, hsettle, ← settle_eq_settleRegistering rfl rfl,
      hregistering.settle_eq]
    exact ⟨hregistering, rfl⟩
  | error fault =>
    obtain ⟨o, hsend, hquiet, hwritten, hresult⟩ := idle_start.send_unframed hframe metrics
    obtain ⟨hnone, hlast, hafter⟩ :=
      settle_of_failed (s := registeringSession client peer o) rfl rfl hresult
    apply Or.inr
    rw [settle_connectedSession hsend, ← settle_eq_settleRegistering rfl rfl]
    exact givenUp_of_failed rfl rfl rfl rfl hnone hlast
      (Session.sameSides_settle (registeringSession client peer o)).inbound hafter hquiet
      (hwritten ▸ List.nil_prefix)

/-- A client that cannot connect writes nothing. -/
theorem givenUp_of_connectFailed {s : Session} (houtbound : s.outbound = none)
    (hinbound : s.inbound = none) (fault : ConnectionFault) (switch : Switch) (metrics : Metrics) :
    GivenUp client metrics
      (settle ⟨client, s.connectFailed fault, .connecting, none, switch, metrics⟩) := by
  have hlast : (s.connectFailed fault).lastReturn? = some (.failed (.connection fault)) :=
    List.getLast?_concat
  have hsettle : settle ⟨client, s.connectFailed fault, .connecting, none, switch, metrics⟩ =
      ⟨client, s.connectFailed fault, .ended (.error (.connection fault)), none, switch,
        metrics⟩ := by
    simp only [settle, settlePump, settleConnecting, hlast]
    rfl
  have hnone : (s.connectFailed fault).outbound = none := houtbound
  have hwritten : (s.connectFailed fault).written = [] := by
    rw [Session.written, hnone]
    rfl
  rw [hsettle]
  refine ⟨⟨rfl, rfl, rfl, ⟨rfl, ?_⟩, rfl⟩, hwritten ▸ List.nil_prefix, rfl,
    ⟨Stage.noConfusion, Stage.noConfusion⟩, hinbound, rfl⟩
  intro o ho
  cases hnone.symm.trans ho

/-- A run begins to register when it is connected, and else only its switch changes. -/
theorem start_step {switch : Switch} {action : Action}
    (hstep : (start client switch).step? action = some next) :
    action.inbound? = none ∧ action ≠ .flush ∧ ((∃ switch, next = start client switch) ∨
      (∃ frame, Registering client frame next ∧ next.metrics = .zero) ∨
        GivenUp client .zero next) := by
  cases action with
  | connected peer =>
    have hnext :
        settle ⟨client, connectedSession client peer, .connecting, none, switch, .zero⟩ = next :=
      Option.some.inj hstep
    exact ⟨rfl, Action.noConfusion, Or.inr (hnext ▸ connected client peer switch .zero)⟩
  | refused reason =>
    refine ⟨rfl, Action.noConfusion, Or.inr (Or.inr ?_)⟩
    rw [← Option.some.inj hstep]
    exact givenUp_of_connectFailed rfl rfl _ _ _
  | timedOut =>
    refine ⟨rfl, Action.noConfusion, Or.inr (Or.inr ?_)⟩
    rw [← Option.some.inj hstep]
    exact givenUp_of_connectFailed rfl rfl _ _ _
  | set on =>
    simp only [step?, Option.ite_none_left_eq_some, Option.some.injEq] at hstep
    obtain ⟨-, rfl⟩ := hstep
    exact ⟨rfl, Action.noConfusion, Or.inl ⟨_, rfl⟩⟩
  | drop =>
    cases hstep
    exact ⟨rfl, Action.noConfusion, Or.inl ⟨_, rfl⟩⟩
  | _ => cases hstep

end Run

end Courier
