import Courier.Proofs.Client.Resting
import Courier.Proofs.Client.Script
import Courier.Proofs.Inbound.Account

/-!
# Runs that answer

While the pump goes on, what was received, what waits in the queue and what was sent fit together:
the items that were taken out of the queue are the first of those that the bytes hold, and the sink
has taken the frames of their answers, but for a rest of the last one (`Waiting`, `Sending`). When
the pump comes to its end, all that is to be written was written, or something went wrong
(`Finished`).
-/

namespace Courier

namespace Run

/-! ## Pumping -/

/-- What holds of a run as long as the pump answers. -/
structure Served (client : Client) (bytes : Bytes) (close : Option Inbound.Close)
    (taken : List Inbound.Item) (r : Run) : Prop where
  client_eq : r.client = client
  stage : r.stage = .serving ∨ r.stage = .crashed
  call : r.session.call = none
  receiving : ∃ i, r.session.inbound = some i ∧
    i.Undisturbed client.config.session.frameLimit bytes close taken

/-- The pump waits for an envelope, and all answers so far were sent. -/
structure Waiting (client : Client) (bytes : Bytes) (close : Option Inbound.Close)
    (taken : List Inbound.Item) (written : List Bytes) (r : Run) : Prop where
  served : Served client bytes close taken r
  pump : r.pump = some .waiting
  idle : ∃ o, r.session.outbound = some o ∧ o.Idle written.flatten r.session.sends
  framed : Framed (client.script taken) written

/-- The pump sends an answer, and all answers before it were sent. -/
structure Sending (client : Client) (bytes : Bytes) (close : Option Inbound.Close)
    (taken : List Inbound.Item) (written : List Bytes) (frame : Bytes) (r : Run) : Prop where
  served : Served client bytes close taken r
  busy : ∃ o number, r.session.outbound = some o ∧ r.pump = some (.sending number) ∧
    r.session.sends = number + 1 ∧ o.Busy written.flatten frame number
  framed : Framed (client.script taken) (written ++ [frame])

/-- Nobody answers any more. If the runner still serves and nothing went wrong, all that is to be
written was written, whatever may still come. -/
structure Finished (client : Client) (bytes : Bytes) (faulty : Bool) (r : Run) : Prop where
  resting : r.Resting client r.session.written
  written_prefix : r.session.written <+: client.wire bytes
  written_eq (hserving : r.stage = .serving) (hclean : faulty = false) (more : Bytes) :
    client.wire (bytes ++ more) = r.session.written

/-- The pump answers: it has taken some items, and the frames of some answers were sent. -/
inductive Replying (client : Client) (bytes : Bytes) (close : Option Inbound.Close)
    (taken : List Inbound.Item) (written : List Bytes) (r : Run) : Prop where
  | waiting (h : Waiting client bytes close taken written r)
  | sending {frame : Bytes} (h : Sending client bytes close taken written frame r)

/-- The pump answers, whatever it has taken and sent. -/
inductive Live (client : Client) (bytes : Bytes) (close : Option Inbound.Close)
    (r : Run) : Prop where
  | waiting {taken : List Inbound.Item} {written : List Bytes}
      (h : Waiting client bytes close taken written r)
  | sending {taken : List Inbound.Item} {written : List Bytes} {frame : Bytes}
      (h : Sending client bytes close taken written frame r)

/-- The pump answers, or nobody does any more. -/
inductive LiveOrFinished (client : Client) (bytes : Bytes) (close : Option Inbound.Close)
    (faulty : Bool)
    (r : Run) : Prop where
  | live (h : Live client bytes close r)
  | finished (h : Finished client bytes faulty r)

variable {client : Client} {bytes : Bytes} {close : Option Inbound.Close}
  {taken : List Inbound.Item}
  {r next : Run} {written : List Bytes} {frame : Bytes} {faulty : Bool} {o : Outbound}

/-- The session is open. -/
theorem Served.isOpening_eq_false (h : Served client bytes close taken r) :
    r.stage.isOpening = false := by
  rcases h.stage with hstage | hstage <;> rw [hstage] <;> rfl

/-- No call waits. -/
theorem Served.call_any (h : Served client bytes close taken r) :
    r.session.call.any Session.Call.isOpening = false := by
  rw [h.call]
  rfl

/-- When the pump has come to its end nobody answers any more. -/
theorem resting_endPump (hclient : r.client = client) (hstage : r.stage.isOpening = false)
    (hquiet : r.session.Quiet) {pump : Pump} (hpump : pump.isLive = false) :
    (r.endPump pump).Resting client r.session.written ∧ (r.endPump pump).stage = r.stage := by
  have hended : { r with pump := some pump }.Resting client r.session.written :=
    ⟨hclient, hstage, hpump, hquiet, rfl⟩
  exact hended.onSession rfl

/-- A run that rests and does not serve is finished as soon as what was written is right. -/
theorem finished_of_resting {taken : Bytes} (h : r.Resting client taken)
    (hwritten : taken <+: client.wire bytes)
    (hstage : r.stage ≠ .serving) : Finished client bytes faulty r where
  resting := h.written_eq.symm ▸ h
  written_prefix := h.written_eq.symm ▸ hwritten
  written_eq hserving := absurd hserving hstage

/-- When the pump comes to its end, the run is finished if what was written is right. -/
theorem finished_endPump (hclient : r.client = client) (hstage : r.stage.isOpening = false)
    (hquiet : r.session.Quiet) {pump : Pump} (hpump : pump.isLive = false)
    (hwritten : r.session.written <+: client.wire bytes)
    (hall : r.stage = .serving → faulty = false →
      ∀ more, client.wire (bytes ++ more) = r.session.written) :
    Finished client bytes faulty (r.endPump pump) := by
  obtain ⟨hresting, hsame⟩ := resting_endPump hclient hstage hquiet hpump
  have heq := hresting.written_eq
  exact ⟨heq.symm ▸ hresting, heq.symm ▸ hwritten,
    fun hserving hclean more => heq.symm ▸ hall (hsame ▸ hserving) hclean more⟩

/-- Receiving goes on beside the pump. -/
theorem Served.inbound (h : Served client bytes close taken r) {action : Inbound.Action}
    (hleave : action ≠ .leave) (hdisturb : action ≠ .disturb)
    (hstep : r.onSession? (.inbound action) = some next) :
    ∃ i, r.session.inbound = some i ∧
      Served client (bytes ++ action.bytes) (close.or action.close?)
        (taken ++ i.itemsTaken action) next ∧
      next.pump = r.pump ∧ next.session.outbound = r.session.outbound ∧
      next.session.sends = r.session.sends := by
  obtain ⟨⟨session, metrics⟩, hsession, rfl⟩ := Option.map_eq_some_iff.1 hstep
  obtain ⟨i, after, hi, hafter, rfl⟩ := Session.exists_of_step?_inbound hsession
  obtain ⟨j, hj, hundisturbed⟩ := h.receiving
  obtain rfl : j = i := Option.some.inj (hj.symm.trans hi)
  exact ⟨j, hi, ⟨h.client_eq, h.stage, (r.session.call_withInbound after).trans h.call, after,
    r.session.inbound_withInbound after, hundisturbed.step hafter hleave hdisturb⟩, rfl,
    r.session.outbound_withInbound after, r.session.sends_withInbound after⟩

/-! ## Answers -/

/-- Sending through a session without a waiting call is sending through its sink. -/
theorem step?_send {s : Session} {metrics counted : Metrics} {e : Envelope} {after : Outbound}
    (hcall : s.call.any Session.Call.isOpening = false) (ho : s.outbound = some o)
    (hsend : o.step? metrics (.send s.sends e) = some (after, counted)) :
    s.step? metrics (.send e) =
      some ({ s with outbound := some after, sends := s.sends + 1 }, counted) := by
  simp only [Session.step?, Session.outbound?_of_step? hcall ho hsend, Option.map_some]

/-- What can come of an envelope that is taken out of the queue: it gets no answer, its answer is
sent, or no frame can hold the answer and the pump ends. -/
inductive Answered (client : Client) (bytes : Bytes) (close : Option Inbound.Close)
    (taken : List Inbound.Item) (written : List Bytes) (r : Run) (e : Envelope) : Run → Prop where
  | silent (hreply : client.reply? (.ok e) = none)
      (h : Waiting client bytes close (taken ++ [.ok e]) written r) :
    Answered client bytes close taken written r e r
  | sending {reply : Envelope} {frame : Bytes} {next : Run}
      (hreply : client.reply? (.ok e) = some reply)
      (h : Sending client bytes close (taken ++ [.ok e]) written frame next)
      (hinbound : next.session.inbound = r.session.inbound)
      (hmetrics : next.metrics = r.metrics.countReply (some reply)) :
    Answered client bytes close taken written r e next
  | unframed {reply : Envelope} {fault : Frame.Fault} {begun : Run}
      (hreply : client.reply? (.ok e) = some reply) (hframe : reply.toFrame = .error fault)
      (hclient : begun.client = client) (hstage : begun.stage = r.stage)
      (hquiet : begun.session.Quiet) (hwritten : begun.session.written = written.flatten)
      (hinbound : begun.session.inbound = r.session.inbound)
      (hmetrics : begun.metrics = r.metrics.countReply (some reply)) :
    Answered client bytes close taken written r e (begun.endPump (.ended (.error fault.failure)))

/-- Nothing else can come of it. -/
theorem Served.answered {e : Envelope} (h : Served client bytes close (taken ++ [.ok e]) r)
    (hpump : r.pump = some .waiting) (ho : r.session.outbound = some o)
    (hidle : o.Idle written.flatten r.session.sends)
    (hframed : Framed (client.script taken) written) :
    Answered client bytes close taken written r e (r.answer e) := by
  have hreply : client.reply? (.ok e) = r.client.dispatcher.reply? e := by rw [h.client_eq]; rfl
  cases hcase : r.client.dispatcher.reply? e with
  | none =>
    rw [hcase] at hreply
    have hanswer : r.answer e = r := by
      simp only [Run.answer, hcase]
      rfl
    rw [hanswer]
    exact .silent hreply
      ⟨h, hpump, ⟨o, ho, hidle⟩, (Client.script_snoc_of_none hreply taken).symm ▸ hframed⟩
  | some reply =>
    rw [hcase] at hreply
    cases hframe : reply.toFrame with
    | ok frame =>
      obtain ⟨after, hsend, hbusy⟩ := hidle.send hframe (r.metrics.countReply (some reply))
      simp only [Run.answer, hcase, Run.onSession, Run.onSession?, step?_send h.call_any ho hsend,
        Option.map_some, Option.getD_some, Run.settlePump,
        Outbound.result?_eq_none hbusy.finished]
      exact .sending hreply ⟨⟨h.client_eq, h.stage, h.call, h.receiving⟩,
        ⟨after, r.session.sends, rfl, rfl, rfl, hbusy⟩,
        (Client.script_snoc_of_some hreply taken).symm ▸ hframed.snoc hframe⟩ rfl rfl
    | error fault =>
      obtain ⟨after, hsend, hquiet, hwritten, hresult⟩ :=
        hidle.send_unframed hframe (r.metrics.countReply (some reply))
      simp only [Run.answer, hcase, Run.onSession, Run.onSession?, step?_send h.call_any ho hsend,
        Option.map_some, Option.getD_some, Run.settlePump, hresult]
      refine .unframed hreply hframe h.client_eq rfl
        (Session.quiet_of_outbound h.call_any rfl hquiet) ?_ rfl rfl
      rw [Session.written_of_outbound rfl, hwritten]

/-- An item is answered, if it gets an answer, and the pump goes on unless no frame can hold it. -/
theorem Served.answer {e : Envelope} (h : Served client bytes close (taken ++ [.ok e]) r)
    (hpump : r.pump = some .waiting) (ho : r.session.outbound = some o)
    (hidle : o.Idle written.flatten r.session.sends)
    (hframed : Framed (client.script taken) written) :
    LiveOrFinished client bytes close faulty (r.answer e) := by
  have hanswered := h.answered hpump ho hidle hframed
  generalize r.answer e = next at hanswered ⊢
  cases hanswered with
  | silent _ hwaiting => exact .live (.waiting hwaiting)
  | sending _ hsending => exact .live (.sending hsending)
  | unframed hreply hframe hclient hstage hquiet hwritten =>
    have hall (more : Bytes) : client.wire (bytes ++ more) = written.flatten := by
      obtain ⟨_, -, hundisturbed⟩ := h.receiving
      exact Client.wire_of_unframed hframed hreply hframe
        (hundisturbed.taken_prefix.trans (client.items_prefix bytes more))
    refine .finished (finished_endPump hclient (hstage ▸ h.isOpening_eq_false) hquiet rfl ?_ ?_)
    · have hnow := hall []
      rw [List.append_nil] at hnow
      rw [hwritten]
      exact hnow ▸ List.prefix_refl _
    · intro _ _ more
      rw [hwritten]
      exact hall more

end Run

end Courier
