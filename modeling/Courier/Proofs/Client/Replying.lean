import Courier.Proofs.Client.Pumping

/-!
# Steps of runs that answer

What can come of a run in which the pump answers is said here once (`Replying.Next`). Whatever it
is, the pump goes on to answer what was received, or nobody answers any more
(`LiveOrFinished.step`).
-/

namespace Courier

namespace Run

/-- The bytes that an action reads. -/
def Action.bytes (a : Action) : Bytes := (a.inbound?.map Inbound.Action.bytes).getD []

/-- The end that an action brings. -/
def Action.close? (a : Action) : Option Inbound.Close := a.inbound?.bind Inbound.Action.close?

/-- Whether an action ends the stream, or is a failure of reading or writing. -/
def Action.isFault : Action → Bool
  | .readEnd | .readFailure _ | .refuse _ => true
  | _ => false

/-- Whether an action is one of the runner alone, or of who holds its switch. -/
def Action.isOfRunner : Action → Bool
  | .noticeSwitch | .noticeReceiver | .noticePump | .heartbeat | .close | .set _ | .drop => true
  | _ => false

variable {client : Client} {bytes : Bytes} {close : Option Inbound.Close}
  {taken : List Inbound.Item}
  {written : List Bytes} {frame : Bytes} {faulty : Bool} {r next : Run}

/-! ## The pump -/

/-- What can come of a pump that waits and goes on. -/
inductive Pumped (client : Client) (bytes : Bytes) (close : Option Inbound.Close)
    (taken : List Inbound.Item) (written : List Bytes) (r : Run) : Run → Prop where
  /-- There will be no more items. -/
  | drained {i : Inbound} {outcome : Except Failure Unit} (hi : r.session.inbound = some i)
      (hqueue : i.queue = []) (houtcome : i.outcome? = some outcome) :
    Pumped client bytes close taken written r (r.endPump (.ended (.ok ())))
  /-- A frame without an envelope gets no answer. -/
  | undecoded {i : Inbound} {fault : Envelope.Fault} {rest : List Inbound.Item} {next : Run}
      (hi : r.session.inbound = some i) (hqueue : i.queue = .error fault :: rest)
      (htake : r.onSession? (.inbound .take) = some next)
      (h : Waiting client bytes close (taken ++ [.error fault]) written next) :
    Pumped client bytes close taken written r next
  /-- An envelope is handed to the dispatcher. -/
  | envelope {i : Inbound} {e : Envelope} {rest : List Inbound.Item} {o : Outbound} {after : Run}
      (hi : r.session.inbound = some i) (hqueue : i.queue = .ok e :: rest)
      (htake : r.onSession? (.inbound .take) = some after)
      (hserved : Served client bytes close (taken ++ [.ok e]) after)
      (hpump : after.pump = some .waiting) (ho : after.session.outbound = some o)
      (hidle : o.Idle written.flatten after.session.sends) :
    Pumped client bytes close taken written r (after.answer e)

/-- The pump takes the next item, or ends when there will be no more items. -/
theorem Waiting.pumped (h : Waiting client bytes close taken written r)
    (hstep : r.pump? = some next) : Pumped client bytes close taken written r next := by
  obtain ⟨i, hi, hreceipt⟩ := h.served.receiving
  obtain ⟨o, ho, hidle⟩ := h.idle
  -- Taking an item off the queue leaves everything else as it is.
  have htake {item : Inbound.Item} {rest : List Inbound.Item} (hqueue : i.queue = item :: rest)
      {after : Run} (hafter : r.onSession? (.inbound .take) = some after) :
      Served client bytes close (taken ++ [item]) after ∧ after.pump = some .waiting ∧
        after.session.outbound = some o ∧ o.Idle written.flatten after.session.sends := by
    obtain ⟨j, hj, hserved, hpump, houtbound, hsends⟩ :=
      h.served.inbound Inbound.Action.noConfusion Inbound.Action.noConfusion hafter
    obtain rfl : j = i := Option.some.inj (hj.symm.trans hi)
    have hitem : j.itemsTaken .take = [item] := by simp [Inbound.itemsTaken, hqueue]
    simp only [hitem, Inbound.Action.bytes, Inbound.Action.close?, List.append_nil,
      Option.or_none] at hserved
    exact ⟨hserved, hpump.trans h.pump, houtbound.trans ho, hsends.symm ▸ hidle⟩
  simp only [Run.pump?, h.pump, hi] at hstep
  cases hqueue : i.queue with
  | nil =>
    rw [hqueue] at hstep
    simp only [Option.ite_none_right_eq_some, Option.some.injEq] at hstep
    obtain ⟨hended, rfl⟩ := hstep
    obtain ⟨outcome, houtcome⟩ := Option.isSome_iff_exists.1 hended
    exact .drained hi hqueue houtcome
  | cons item rest =>
    rw [hqueue] at hstep
    cases item with
    | ok e =>
      obtain ⟨after, hafter, rfl⟩ := Option.map_eq_some_iff.1 hstep
      obtain ⟨hserved, hpump, houtbound, hidles⟩ := htake hqueue hafter
      exact .envelope hi hqueue hafter hserved hpump houtbound hidles
    | error fault =>
      obtain ⟨hserved, hpump, houtbound, hidles⟩ := htake hqueue hstep
      have hnone : client.reply? (.error fault) = none := rfl
      exact .undecoded hi hqueue hstep ⟨hserved, hpump, ⟨o, houtbound, hidles⟩,
        (Client.script_snoc_of_none hnone taken).symm ▸ h.framed⟩

/-- What happens to the sink while an answer is being sent happens to that answer. -/
theorem Sending.exists_of_outbound? (h : Sending client bytes close taken written frame r)
    {action : Outbound.Action} {session : Session} {metrics : Metrics}
    (hsession : r.session.outbound? r.metrics action = some (session, metrics)) :
    ∃ o after number, r.session.outbound = some o ∧ r.pump = some (.sending number) ∧
      r.session.sends = number + 1 ∧ o.Busy written.flatten frame number ∧
      o.Step r.metrics action after metrics ∧
        session = { r.session with outbound := some after } := by
  obtain ⟨o, number, ho, hpump, hsends, hbusy⟩ := h.busy
  obtain ⟨p, after, hp, hafter, rfl⟩ := Session.exists_of_outbound? h.served.call_any hsession
  obtain rfl : o = p := Option.some.inj (ho.symm.trans hp)
  exact ⟨o, after, number, ho, hpump, hsends, hbusy, hafter, rfl⟩

/-- An answer that is still being sent is left to be sent. -/
theorem Sending.settlePump_eq (h : Sending client bytes close taken written frame r) :
    r.settlePump = r := by
  obtain ⟨o, number, ho, hpump, -, hbusy⟩ := h.busy
  simp only [settlePump, hpump, ho, Outbound.result?_eq_none hbusy.finished]

/-- The sink takes some bytes of the answer. -/
theorem Sending.accept (h : Sending client bytes close taken written frame r) {count : Nat}
    (hstep : r.onSession? (.accept count) = some next) :
    Sending client bytes close taken written frame next := by
  obtain ⟨⟨session, metrics⟩, hsession, rfl⟩ := Option.map_eq_some_iff.1 hstep
  obtain ⟨o, after, number, -, hpump, hsends, hbusy, hafter, rfl⟩ := h.exists_of_outbound? hsession
  exact ⟨⟨h.served.client_eq, h.served.stage, h.served.call, h.served.receiving⟩,
    ⟨after, number, rfl, hpump, hsends, hbusy.accept hafter⟩, h.framed⟩

/-- The answer is sent, which is counted, and the pump waits for the next envelope. -/
theorem Sending.flush (h : Sending client bytes close taken written frame r)
    (hstep : r.onSession? .flush = some next) :
    Waiting client bytes close taken (written ++ [frame]) next.settlePump ∧
      next.settlePump.session.inbound = r.session.inbound ∧
      next.settlePump.metrics = r.metrics.countSent frame.length := by
  obtain ⟨⟨session, metrics⟩, hsession, rfl⟩ := Option.map_eq_some_iff.1 hstep
  obtain ⟨o, after, number, -, hpump, hsends, hbusy, hafter, rfl⟩ := h.exists_of_outbound? hsession
  obtain ⟨hidle, hresult⟩ := hbusy.flush hafter
  have hflat : (written ++ [frame]).flatten = written.flatten ++ frame := by
    rw [List.flatten_append, List.flatten_singleton]
  have hsettle : settlePump { r with
        session := { r.session with outbound := some after }, metrics := metrics } =
      { r with
        session := { r.session with outbound := some after }
        metrics := metrics
        pump := some .waiting } := by
    simp only [settlePump, hpump, hresult]
  rw [hsettle]
  exact ⟨⟨⟨h.served.client_eq, h.served.stage, h.served.call, h.served.receiving⟩, rfl,
    ⟨after, rfl, by rw [hflat, hsends]; exact hidle⟩, h.framed⟩, rfl, hbusy.counted_of_flush hafter⟩

/-- No more was written than is to be written. -/
theorem Sending.written_prefix (h : Sending client bytes close taken written frame r) :
    r.session.written <+: client.wire bytes := by
  obtain ⟨o, number, ho, -, -, hbusy⟩ := h.busy
  obtain ⟨_, -, hreceipt⟩ := h.served.receiving
  have hwire := Client.wire_of_prefix h.framed hreceipt.taken_prefix
  rw [List.flatten_append, List.flatten_singleton] at hwire
  rw [Session.written_of_outbound ho]
  exact hbusy.written_prefix.trans hwire

/-- The sink refuses the answer, and the pump ends with that. -/
theorem Sending.settlePump_of_refuse (h : Sending client bytes close taken written frame r)
    {reason : String} (hstep : r.onSession? (.refuse reason) = some next) :
    next.client = client ∧ next.stage = r.stage ∧ next.session.Quiet ∧
      next.session.written = r.session.written ∧
      ∃ failure, next.settlePump = next.endPump (.ended (.error failure)) := by
  obtain ⟨⟨session, metrics⟩, hsession, rfl⟩ := Option.map_eq_some_iff.1 hstep
  obtain ⟨o, after, number, ho, hpump, hsends, hbusy, hafter, rfl⟩ := h.exists_of_outbound? hsession
  obtain ⟨hquiet, hwritten, failure, hresult⟩ := hbusy.refuse hafter
  refine ⟨h.served.client_eq, rfl, Session.quiet_of_outbound h.served.call_any rfl hquiet, ?_,
    failure, by simp only [settlePump, hpump, hresult]⟩
  rw [Session.written_of_outbound rfl, hwritten, ← Session.written_of_outbound ho]

/-- Looking again at an answer that is being sent changes nothing. -/
theorem Sending.pump? (h : Sending client bytes close taken written frame r)
    (hstep : r.pump? = some next) :
    Sending client bytes close taken written frame next ∧
      ∃ number, r.onSession? (.pollSend number) = some next := by
  obtain ⟨_, number, _, hsending, -⟩ := h.busy
  simp only [Run.pump?, hsending] at hstep
  obtain ⟨after, hafter, rfl⟩ := Option.map_eq_some_iff.1 hstep
  obtain ⟨⟨session, metrics⟩, hsession, rfl⟩ := Option.map_eq_some_iff.1 hafter
  simp only [Session.step?, Option.ite_none_left_eq_some] at hsession
  obtain ⟨o, after, n, ho, hpump, hsends, hbusy, hpoll, rfl⟩ := h.exists_of_outbound? hsession.2
  obtain rfl := hbusy.poll hpoll
  have hsame : Sending client bytes close taken written frame
      { r with session := { r.session with outbound := some after }, metrics := metrics } :=
    ⟨⟨h.served.client_eq, h.served.stage, h.served.call, h.served.receiving⟩,
      ⟨after, n, rfl, hpump, hsends, hbusy⟩, h.framed⟩
  rw [hsame.settlePump_eq]
  exact ⟨hsame, number, hafter⟩

/-! ## The runner -/

/-- The pump goes on within one stage of the runner. -/
theorem stage_settlePump (r : Run) : r.settlePump.stage = r.stage := by
  rcases r.settlePump_cases with hsame | hwaits | ⟨failure, hended⟩
  · rw [hsame]
  · rw [hwaits]
  · rw [hended]
    exact stage_onSession _ _

/-- Only the pump goes on where the session is open. -/
theorem settle_eq_settlePump (h : r.stage = .serving ∨ r.stage = .crashed) :
    r.settle = r.settlePump := by
  have hstage := stage_settlePump r
  rcases h with h | h <;> rw [h] at hstage <;> simp only [settle, hstage]

/-- A run in which the pump answers is served. -/
theorem Replying.served (h : Replying client bytes close taken written r) :
    Served client bytes close taken r := by
  cases h with
  | waiting h => exact h.served
  | sending h => exact h.served

/-- A run in which the pump answers is live. -/
theorem Replying.live (h : Replying client bytes close taken written r) :
    Live client bytes close r := by
  cases h with
  | waiting h => exact .waiting h
  | sending h => exact .sending h

/-- In a run in which the pump answers the pump has not come to its end. -/
theorem Replying.isLive (h : Replying client bytes close taken written r) :
    r.pump.any Pump.isLive = true := by
  cases h with
  | waiting h =>
    rw [h.pump]
    rfl
  | sending h =>
    obtain ⟨_, _, _, hpump, -⟩ := h.busy
    rw [hpump]
    rfl

/-- In a live run the pump has taken some items, and the frames of some answers were sent. -/
theorem Live.exists_replying (h : Live client bytes close r) :
    ∃ taken written, Replying client bytes close taken written r := by
  cases h with
  | waiting h => exact ⟨_, _, .waiting h⟩
  | sending h => exact ⟨_, _, .sending h⟩

/-- The pump goes on to answer as long as nothing happens to it or to the sink. -/
theorem Replying.of_served {later : Bytes} {finish : Option Inbound.Close}
    (h : Replying client bytes close taken written r)
    (hserved : Served client later finish taken next)
    (houtbound : next.session.outbound = r.session.outbound)
    (hsends : next.session.sends = r.session.sends) (hpump : next.pump = r.pump) :
    Replying client later finish taken written next := by
  cases h with
  | waiting h =>
    obtain ⟨o, ho, hidle⟩ := h.idle
    exact .waiting ⟨hserved, hpump.trans h.pump, ⟨o, houtbound.trans ho, hsends ▸ hidle⟩, h.framed⟩
  | sending h =>
    obtain ⟨o, number, ho, hsending, hcount, hbusy⟩ := h.busy
    exact .sending ⟨hserved,
      ⟨o, number, houtbound.trans ho, hpump.trans hsending, hsends.trans hcount, hbusy⟩, h.framed⟩

/-- The pump answers for what a run has in common with another one. -/
theorem Replying.of_same (h : Replying client bytes close taken written r)
    (hclient : next.client = r.client) (hstage : next.stage = .serving ∨ next.stage = .crashed)
    (hcall : next.session.call = none) (hinbound : next.session.inbound = r.session.inbound)
    (houtbound : next.session.outbound = r.session.outbound)
    (hsends : next.session.sends = r.session.sends) (hpump : next.pump = r.pump) :
    Replying client bytes close taken written next :=
  h.of_served ⟨hclient.trans h.served.client_eq, hstage, hcall, hinbound.symm ▸ h.served.receiving⟩
    houtbound hsends hpump

/-- No more was written than is to be written. -/
theorem Replying.written_prefix (h : Replying client bytes close taken written r) :
    r.session.written <+: client.wire bytes := by
  cases h with
  | waiting h =>
    obtain ⟨o, ho, hidle⟩ := h.idle
    obtain ⟨_, -, hreceipt⟩ := h.served.receiving
    rw [Session.written_of_outbound ho, hidle.written_eq]
    exact Client.wire_of_prefix h.framed hreceipt.taken_prefix
  | sending h => exact h.written_prefix

/-- Stopping breaks off an answer that is being sent, and then ends the pump. -/
theorem Replying.stopPump (h : Replying client bytes close taken written r) :
    ∃ session, r.stopPump = { r with session }.endPump .stopped ∧ session.Quiet ∧
      session.written = r.session.written ∧ session.inbound = r.session.inbound := by
  cases h with
  | waiting h =>
    obtain ⟨o, ho, hidle⟩ := h.idle
    have hstop : r.stopPump = r.endPump .stopped := by simp only [Run.stopPump, h.pump]
    exact ⟨r.session, hstop, Session.quiet_of_outbound h.served.call_any ho hidle.quiet, rfl, rfl⟩
  | sending h =>
    obtain ⟨o, number, ho, hpump, -, hbusy⟩ := h.busy
    obtain ⟨habandon, hquiet⟩ := hbusy.abandon r.metrics
    have hown : r.session.isOwn number = false := by simp only [Session.isOwn, h.served.call]
    have hsession : r.onSession (.abandonSend number) =
        { r with session := { r.session with outbound := some { o with active := none } } } :=
      onSession_of_step? (by
        simp [Session.step?, hown, Session.outbound?_of_step? h.served.call_any ho habandon])
    refine ⟨{ r.session with outbound := some { o with active := none } }, ?_,
      Session.quiet_of_outbound h.served.call_any rfl hquiet, ?_, rfl⟩
    · simp only [Run.stopPump, hpump, hsession]
    · rw [Session.written_of_outbound ho, Session.written_of_outbound rfl]

/-- Stopping the pump writes nothing, even where it breaks off an answer. -/
theorem Replying.resting_stopPump (h : Replying client bytes close taken written r) :
    r.stopPump.Resting client r.session.written := by
  obtain ⟨session, hstop, hquiet, hwritten, -⟩ := h.stopPump
  rw [hstop, ← hwritten]
  exact (resting_endPump (r := { r with session }) h.served.client_eq
    h.served.isOpening_eq_false hquiet rfl).1

/-- Stopping finishes the run. -/
theorem Replying.stop (h : Replying client bytes close taken written r)
    (outcome : Except Failure Unit) : Finished client bytes faulty (r.stop outcome) :=
  finished_of_resting (h.resting_stopPump.withStage rfl) h.written_prefix Stage.noConfusion

/-- The end of receiving that is known already is not waited for. -/
theorem waitReceiver_of_unawaitedOutcome? {s : Session} {outcome : Except Failure Unit}
    (h : s.unawaitedOutcome? = some outcome) : s.waitReceiver =
      { s with
        unawaited := false
        call := none
        returned := s.returned ++ [Session.returnOf outcome] } := by
  have hunawaited : s.unawaited = true := by
    unfold Session.unawaitedOutcome? at h
    split at h
    · assumption
    · cases h
  have hcall : { s with call := some .waitReceiver }.unawaitedOutcome? = some outcome := h
  rw [Session.waitReceiver, if_pos hunawaited, Session.goOnWaiting, hcall]
  rfl

/-- A runner that waits for an end of receiving that is known already stops for it. -/
theorem settleReceiver_of_unawaitedOutcome? {outcome : Except Failure Unit}
    (hcall : r.session.call = none) (h : r.session.unawaitedOutcome? = some outcome) :
    (r.onSession .waitReceiver).settleReceiver =
      { r with session := { r.session with
          unawaited := false
          call := none
          returned := r.session.returned ++ [Session.returnOf outcome] } }.stop outcome := by
  have houtcome : returnedOutcome (Session.returnOf outcome) = outcome := by
    cases outcome <;> rfl
  rw [onSession_waitReceiver hcall, waitReceiver_of_unawaitedOutcome? h]
  simp only [settleReceiver, Session.lastReturn?, List.getLast?_concat, houtcome]

/-- Receiving goes on beside a pump that answers. -/
theorem Replying.inbound (h : Replying client bytes close taken written r)
    {action : Inbound.Action} (hitems : ∀ i : Inbound, i.itemsTaken action = [])
    (hleave : action ≠ .leave) (hdisturb : action ≠ .disturb)
    (hstep : r.onSession? (.inbound action) = some next) :
    Replying client (bytes ++ action.bytes) (close.or action.close?) taken written next := by
  obtain ⟨i, -, hnext, hpump, houtbound, hsends⟩ := h.served.inbound hleave hdisturb hstep
  rw [hitems, List.append_nil] at hnext
  exact h.of_served hnext houtbound hsends hpump

/-- The sink does nothing while the pump waits for an envelope. -/
theorem Waiting.outbound?_eq_none (h : Waiting client bytes close taken written r)
    {action : Outbound.Action} (haction : action.isOfSink = true) :
    r.session.outbound? r.metrics action = none := by
  cases hcase : r.session.outbound? r.metrics action with
  | none => rfl
  | some result =>
    obtain ⟨o, ho, hidle⟩ := h.idle
    obtain ⟨p, _, hp, hstep, -⟩ := Session.exists_of_outbound? h.served.call_any hcase
    obtain rfl : o = p := Option.some.inj (ho.symm.trans hp)
    exact (hidle.quiet.not_step haction hstep).elim

/-! ## Steps -/

/-- What an action means for receiving takes nothing out of the queue, and interferes with nothing.
-/
theorem itemsTaken_of_inbound? {action : Action} {a : Inbound.Action}
    (h : action.inbound? = some a) :
    (∀ i : Inbound, i.itemsTaken a = []) ∧ a ≠ .leave ∧ a ≠ .disturb := by
  cases action <;> cases h <;>
    exact ⟨fun _ => rfl, Inbound.Action.noConfusion, Inbound.Action.noConfusion⟩

/-- What means something for the session means nothing for receiving. -/
theorem inbound?_of_session? {action : Action} {a : Session.Action}
    (h : action.session? = some a) : action.inbound? = none := by
  cases action <;> first | rfl | cases h

/-- An action of the runner means nothing for receiving, and breaks nothing. -/
theorem Action.inbound?_of_isOfRunner {action : Action} (h : action.isOfRunner = true) :
    action.inbound? = none ∧ action.isFault = false := by
  cases action <;> first | exact ⟨rfl, rfl⟩ | cases h

/-- What can come of a run in which the pump answers. -/
inductive Replying.Next (client : Client) (bytes : Bytes) (close : Option Inbound.Close)
    (taken : List Inbound.Item) (written : List Bytes) (r : Run) : Action → Run → Prop where
  /-- Something is received, or its end. -/
  | receives {action : Action} {a : Inbound.Action} {next : Run}
      (haction : action.inbound? = some a)
      (hstep : r.onSession? (.inbound a) = some next)
      (h : Replying client (bytes ++ a.bytes) (close.or a.close?) taken written next) :
    Next client bytes close taken written r action next
  /-- The sink takes some bytes of an answer. -/
  | accepts {count : Nat} {frame : Bytes} {next : Run}
      (h : Sending client bytes close taken written frame next) (honly : OnlyDisturbs r next) :
    Next client bytes close taken written r (.accept count) next
  /-- An answer is sent. -/
  | sent {frame : Bytes} {o : Outbound} {number : Nat} {next : Run}
      (ho : r.session.outbound = some o) (hbusy : o.Busy written.flatten frame number)
      (h : Waiting client bytes close taken (written ++ [frame]) next)
      (hinbound : next.session.inbound = r.session.inbound)
      (hmetrics : next.metrics = r.metrics.countSent frame.length) :
    Next client bytes close taken written r .flush next
  /-- The sink refuses an answer, and the pump ends with that. -/
  | refused {reason : String} {frame : Bytes} {failure : Failure} {begun : Run}
      (h : Sending client bytes close taken written frame r) (hclient : begun.client = client)
      (hstage : begun.stage = r.stage) (hquiet : begun.session.Quiet)
      (hwritten : begun.session.written = r.session.written) (honly : OnlyDisturbs r begun) :
    Next client bytes close taken written r (.refuse reason)
      (begun.endPump (.ended (.error failure)))
  /-- The pump looks again at an answer that is being sent. -/
  | looks {number : Nat} {frame : Bytes} {next : Run} (hpump : r.pump = some (.sending number))
      (h : Sending client bytes close taken written frame next) (honly : OnlyDisturbs r next) :
    Next client bytes close taken written r .pump next
  /-- The pump goes on. -/
  | pumped {next : Run} (h : Waiting client bytes close taken written r)
      (hpumped : Pumped client bytes close taken written r next) :
    Next client bytes close taken written r .pump next
  /-- The runner goes on to wait for something to notice. -/
  | waits {action : Action} {next : Run} (haction : action.isOfRunner = true)
      (h : Replying client bytes close taken written next) (honly : OnlyDisturbs r next) :
    Next client bytes close taken written r action next
  /-- The runner stops the pump. -/
  | stops {action : Action} {begun : Run} (haction : action.isOfRunner = true)
      (h : Replying client bytes close taken written begun)
      (hinbound : begun.session.inbound = r.session.inbound) (hmetrics : begun.metrics = r.metrics)
      (outcome : Except Failure Unit) :
    Next client bytes close taken written r action (begun.stop outcome)

/-- Looking at the switch leaves the pump alone, or stops it. -/
theorem Replying.lookAtSwitch (h : Replying client bytes close taken written r) {action : Action}
    (haction : action.isOfRunner = true) :
    Replying.Next client bytes close taken written r action r.lookAtSwitch := by
  cases hon : r.switch.on with
  | true =>
    rw [lookAtSwitch_of_on hon]
    have hseen : Replying client bytes close taken written
        { r with switch := { r.switch with unseen := false } } :=
      h.of_same rfl h.served.stage h.served.call rfl rfl rfl rfl
    exact .stops (r := r) haction hseen rfl rfl _
  | false =>
    rw [lookAtSwitch_of_off hon]
    exact .waits haction (h.of_same rfl (Or.inl rfl) h.served.call rfl rfl rfl rfl)
      ⟨rfl, rfl, Or.inl rfl⟩

/-- The sink takes bytes of an answer, or has flushed one, or refuses it. There is nothing to
connect and nothing to look at. -/
theorem Replying.session (h : Replying client bytes close taken written r) {action : Action}
    {a : Session.Action} {after : Run} (haction : action.session? = some a)
    (hafter : r.onSession? a = some after) :
    Replying.Next client bytes close taken written r action after.settle := by
  have hstage : after.stage = .serving ∨ after.stage = .crashed := by
    obtain ⟨_, _, -, rfl⟩ := exists_of_onSession? hafter
    exact h.served.stage
  have hidle (hnone : r.session.step? r.metrics a = none) : False := by
    obtain ⟨_, _, hsession, -⟩ := exists_of_onSession? hafter
    cases hnone.symm.trans hsession
  rw [settle_eq_settlePump hstage]
  cases action with
  | connected | refused | timedOut | poll =>
    cases haction
    exact (hidle (by simp [Session.step?, Session.poll?, h.served.call])).elim
  | accept count =>
    cases haction
    cases h with
    | waiting h => exact (hidle (h.outbound?_eq_none rfl)).elim
    | sending h =>
      have hsending := h.accept hafter
      rw [hsending.settlePump_eq]
      exact .accepts hsending (onlyDisturbs_onSession? rfl hafter)
  | flush =>
    cases haction
    cases h with
    | waiting h => exact (hidle (h.outbound?_eq_none rfl)).elim
    | sending h =>
      obtain ⟨o, number, ho, -, -, hbusy⟩ := h.busy
      obtain ⟨hwaiting, hinbound, hmetrics⟩ := h.flush hafter
      exact .sent ho hbusy hwaiting hinbound hmetrics
  | refuse reason =>
    cases haction
    cases h with
    | waiting h => exact (hidle (h.outbound?_eq_none rfl)).elim
    | sending h =>
      obtain ⟨hclient, hsame, hquiet, hwritten, failure, hended⟩ := h.settlePump_of_refuse hafter
      rw [hended]
      exact .refused h hclient hsame hquiet hwritten (onlyDisturbs_onSession? rfl hafter)
  | _ => cases haction

/-- Nothing else can come of it. -/
theorem Replying.next_of_step? (h : Replying client bytes close taken written r) {action : Action}
    (hstep : r.step? action = some next) :
    Replying.Next client bytes close taken written r action next := by
  cases step_of_step? hstep with
  | inbound haction hnext =>
    obtain ⟨hitems, hleave, hdisturb⟩ := itemsTaken_of_inbound? haction
    exact .receives haction hnext (h.inbound hitems hleave hdisturb hnext)
  | session haction hafter => exact h.session haction hafter
  | pump hnext =>
    cases h with
    | waiting h => exact .pumped h (h.pumped hnext)
    | sending h =>
      obtain ⟨_, _, _, hpump, -⟩ := h.busy
      obtain ⟨hsending, number, hpoll⟩ := h.pump? hnext
      exact .looks hpump hsending (onlyDisturbs_onSession? rfl hpoll)
  | noticeSwitch _ hnotice =>
    rcases noticeSwitch?_eq_some_iff.1 hnotice with ⟨-, rfl⟩ | ⟨-, -, rfl⟩
    · exact h.lookAtSwitch rfl
    · exact .stops rfl h rfl rfl _
  | noticeReceiver _ hnotice =>
    obtain ⟨hsome, rfl⟩ := noticeReceiver?_eq_some_iff.1 hnotice
    obtain ⟨outcome, houtcome⟩ := Option.isSome_iff_exists.1 hsome
    rw [settleReceiver_of_unawaitedOutcome? h.served.call houtcome]
    have hseen : Replying client bytes close taken written { r with session := { r.session with
        unawaited := false
        call := none
        returned := r.session.returned ++ [Session.returnOf outcome] } } :=
      h.of_same rfl h.served.stage rfl rfl rfl rfl rfl
    exact .stops (r := r) rfl hseen rfl rfl outcome
  | noticePump _ hnotice =>
    have hlive := h.isLive
    rcases noticePump?_eq_some_iff.1 hnotice with ⟨hended, -⟩ | ⟨_, hended, -⟩ <;>
      rw [hended] at hlive <;> cases hlive
  | heartbeat => exact h.lookAtSwitch rfl
  | close hstopping =>
    rcases h.served.stage with hstage | hstage <;> cases hstopping.symm.trans hstage
  | set | drop =>
    exact .waits rfl (h.of_same rfl h.served.stage h.served.call rfl rfl rfl rfl)
      ⟨rfl, rfl, Or.inl rfl⟩

/-! ## What is written in the end -/

/-- The pump answers the item that it takes, or ends when there will be no more items. -/
theorem Pumped.liveOrFinished (hpumped : Pumped client bytes close taken written r next)
    (h : Waiting client bytes close taken written r) (hclean : faulty = false → close = none) :
    LiveOrFinished client bytes close faulty next := by
  obtain ⟨i, hi, hreceipt⟩ := h.served.receiving
  cases hpumped with
  | @drained j outcome hj hqueue houtcome =>
    obtain rfl : j = i := Option.some.inj (hj.symm.trans hi)
    obtain ⟨o, ho, hidle⟩ := h.idle
    have hwritten : r.session.written = written.flatten :=
      (Session.written_of_outbound ho).trans hidle.written_eq
    refine .finished (finished_endPump h.served.client_eq h.served.isOpening_eq_false
      (Session.quiet_of_outbound h.served.call_any ho hidle.quiet) rfl ?_ ?_)
    · rw [hwritten]
      exact Client.wire_of_prefix h.framed hreceipt.taken_prefix
    · intro _ hfaulty more
      obtain rfl := hclean hfaulty
      obtain ⟨hdelivered, length, hrefused, -⟩ := hreceipt.of_outcome? houtcome
      have hitems : taken = client.items bytes := by
        rw [Client.items, ← hdelivered, ← hreceipt.queue, hqueue, List.append_nil]
      rw [Client.wire_of_refused? hrefused, hwritten]
      exact Client.wire_of_framed (hitems ▸ h.framed)
  | undecoded _ _ _ hwaiting => exact .live (.waiting hwaiting)
  | envelope _ _ _ hserved hpump ho hidle => exact hserved.answer hpump ho hidle h.framed

/-- An action that brings nothing changes nothing that was received. -/
theorem LiveOrFinished.of_internal {action : Action}
    (h : LiveOrFinished client bytes close (faulty || action.isFault) next)
    (haction : action.inbound? = none) :
    LiveOrFinished client (bytes ++ action.bytes) (close.or action.close?)
      (faulty || action.isFault) next := by
  simpa [Action.bytes, Action.close?, haction] using h

/-- An action that neither brings nor breaks anything. -/
theorem LiveOrFinished.of_faultless {action : Action}
    (h : LiveOrFinished client bytes close faulty next)
    (haction : action.inbound? = none) (hfaultless : action.isFault = false) :
    LiveOrFinished client (bytes ++ action.bytes) (close.or action.close?)
      (faulty || action.isFault) next := by
  refine LiveOrFinished.of_internal ?_ haction
  rw [hfaultless, Bool.or_false]
  exact h

/-- Whatever comes of a run in which the pump answers, it goes on to do so, or nobody answers any
more. -/
theorem Replying.Next.liveOrFinished {action : Action}
    (h : Replying.Next client bytes close taken written r action next)
    (hclean : faulty = false → close = none) :
    LiveOrFinished client (bytes ++ action.bytes) (close.or action.close?)
      (faulty || action.isFault) next := by
  cases h with
  | receives haction _ hnext =>
    rw [Action.bytes, Action.close?, haction]
    exact .live hnext.live
  | accepts hsending => exact LiveOrFinished.of_faultless (.live (.sending hsending)) rfl rfl
  | sent _ _ hwaiting => exact LiveOrFinished.of_faultless (.live (.waiting hwaiting)) rfl rfl
  | refused hsending hclient hstage hquiet hwritten =>
    refine LiveOrFinished.of_internal (.finished ?_) rfl
    refine finished_endPump hclient (hstage ▸ hsending.served.isOpening_eq_false) hquiet rfl
      (hwritten ▸ hsending.written_prefix) ?_
    rw [Action.isFault, Bool.or_true]
    intro _ hfaulty
    cases hfaulty
  | looks _ hsending => exact LiveOrFinished.of_faultless (.live (.sending hsending)) rfl rfl
  | pumped hwaiting hpumped =>
    exact LiveOrFinished.of_faultless (hpumped.liveOrFinished hwaiting hclean) rfl rfl
  | waits haction hreplying =>
    obtain ⟨hinbound, hfaultless⟩ := Action.inbound?_of_isOfRunner haction
    exact LiveOrFinished.of_faultless (.live hreplying.live) hinbound hfaultless
  | stops haction hreplying _ _ outcome =>
    obtain ⟨hinbound, hfaultless⟩ := Action.inbound?_of_isOfRunner haction
    exact LiveOrFinished.of_faultless (.finished (hreplying.stop outcome)) hinbound hfaultless

/-- A finished run stays finished, whatever it reads. -/
theorem Finished.step (h : Finished client bytes faulty r) {action : Action}
    (hstep : r.step? action = some next) :
    Finished client (bytes ++ action.bytes) (faulty || action.isFault) next := by
  obtain ⟨hresting, hserving⟩ := h.resting.step hstep
  have heq := hresting.written_eq
  refine ⟨heq.symm ▸ hresting, ?_, ?_⟩
  · rw [heq]
    exact h.written_prefix.trans (client.wire_prefix bytes action.bytes)
  · intro hserves hclean more
    rw [heq, List.append_assoc]
    exact h.written_eq (hserving hserves) (Bool.or_eq_false_iff.1 hclean).1 _

/-- Whatever happens, the pump goes on to answer, or nobody answers any more. -/
theorem LiveOrFinished.step (h : LiveOrFinished client bytes close faulty r)
    (hclean : faulty = false → close = none)
    {action : Action} (hstep : r.step? action = some next) :
    LiveOrFinished client (bytes ++ action.bytes) (close.or action.close?)
      (faulty || action.isFault) next := by
  cases h with
  | live h =>
    obtain ⟨_, _, hreplying⟩ := h.exists_replying
    exact (hreplying.next_of_step? hstep).liveOrFinished hclean
  | finished h => exact .finished (h.step hstep)

/-- A session that is served, or over, is not being opened. -/
theorem LiveOrFinished.isOpening_eq_false (h : LiveOrFinished client bytes close faulty r) :
    r.stage.isOpening = false := by
  cases h with
  | live h =>
    obtain ⟨_, _, hreplying⟩ := h.exists_replying
    exact hreplying.served.isOpening_eq_false
  | finished h => exact h.resting.stage

/-- No more was written than is to be written. -/
theorem LiveOrFinished.written_prefix (h : LiveOrFinished client bytes close faulty r) :
    r.session.written <+: client.wire bytes := by
  cases h with
  | live h =>
    obtain ⟨_, _, hreplying⟩ := h.exists_replying
    exact hreplying.written_prefix
  | finished h => exact h.written_prefix

end Run

end Courier
