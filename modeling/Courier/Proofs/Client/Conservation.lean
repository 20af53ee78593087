import Courier.Proofs.Client.Accounted

/-!
# Counters across a run

Frames that are sent, answers, and frames that come in are counted by three tasks, each at a moment
of its own. Whatever the order of their steps, and however a run ends, the counters are those of its
history at any moment: nothing is counted twice, and nothing gets lost between two counters but the
one answer that is still to be sent and the one item that is held (`History.Conserved`).
-/

namespace Courier

/-- Whether an item is a request. -/
def Inbound.isRequest : Inbound.Item → Bool
  | .ok e => e.subject = Subject.request
  | .error _ => false

/-- The answers that were counted, be they responses or errors. -/
def Metrics.answered (metrics : Metrics) : UInt64 :=
  metrics.answers.get [("outcome", Subject.response)] +
    metrics.answers.get [("outcome", Subject.error)]

namespace Client

/-- A reply is a response or an error. -/
theorem subject_of_reply? {client : Client} {item : Inbound.Item} {reply : Envelope}
    (h : client.reply? item = some reply) :
    reply.subject = Subject.response ∨ reply.subject = Subject.error := by
  cases item with
  | error fault => cases h
  | ok e =>
    obtain ⟨-, hreply⟩ :=
      Option.ite_none_right_eq_some.1 (h : client.dispatcher.reply? e = some reply)
    obtain rfl := Option.some.inj hreply
    cases client.dispatcher.outcome e with
    | ok response => exact Or.inl rfl
    | error failure => exact Or.inr rfl

/-- Just the requests get replies. -/
theorem isSome_reply? (client : Client) (item : Inbound.Item) :
    (client.reply? item).isSome = Inbound.isRequest item := by
  cases item with
  | error fault => rfl
  | ok e =>
    change (client.dispatcher.reply? e).isSome = decide (e.subject = Subject.request)
    by_cases hrequest : e.subject = Subject.request <;> simp [Dispatcher.reply?, hrequest]

/-- There are as many replies as requests. -/
theorem length_replies (client : Client) (items : List Inbound.Item) :
    (items.filterMap client.reply?).length = items.countP Inbound.isRequest := by
  rw [List.length_filterMap_eq_countP]
  exact List.countP_congr fun item _ => by rw [isSome_reply?]

/-- Every reply is counted as a response or as an error, and not as both. -/
theorem countP_replies (client : Client) (items : List Inbound.Item) :
    (items.filterMap client.reply?).countP (·.subject = Subject.response) +
      (items.filterMap client.reply?).countP (·.subject = Subject.error) =
        items.countP Inbound.isRequest := by
  have hdistinct : Subject.response ≠ Subject.error := by decide
  rw [← length_replies client, List.length_eq_countP_add_countP (·.subject = Subject.response)]
  congr 1
  refine List.countP_congr fun reply hreply => ?_
  obtain ⟨item, -, hitem⟩ := List.mem_filterMap.1 hreply
  rcases subject_of_reply? hitem with hsubject | hsubject <;> simp [hsubject, hdistinct]
  exact fun heq => hdistinct heq.symm

end Client

namespace Run

variable {client : Client} {bytes : Bytes} {close : Option Inbound.Close}
  {taken lost : List Inbound.Item} {sent : List Bytes} {switch : Switch} {actions : List Action}
  {metrics : Metrics} {r : Run} {p : History}

/-! ## Sums -/

/-- All answers that were counted are those to the requests that were taken. -/
theorem OutgoingCounted.answered
    (h : OutgoingCounted metrics sent (taken.filterMap client.reply?)) :
    metrics.answered = (taken.countP Inbound.isRequest).toUInt64 := by
  rw [Metrics.answered, h.answers, h.answers, ← client.countP_replies]
  exact (UInt64.ofNat_add _ _).symm

/-- Every frame that was counted is that of an item that was taken, waits or was lost, or of the one
that is held. -/
theorem IncomingCounted.received
    (h : IncomingCounted r.session.inbound r.metrics bytes close taken lost) :
    ∃ held : Option Inbound.Item,
      r.metrics.frames.get Metrics.inbound =
        (taken ++ r.queue ++ lost ++ held.toList).length.toUInt64 ∧
      r.metrics.undecoded.get Inbound.undecodedLabel =
        ((taken ++ r.queue ++ lost ++ held.toList).countP Inbound.isUndecoded).toUInt64 ∧
      ∀ item, held = some item → ∃ i, r.session.inbound = some i ∧
        (i.stage = .delivering item ∨
          ∃ outcome, i.stage = .ended outcome ∧ i.IsInterrupted outcome) := by
  cases h with
  | unopened hinbound _ _ htaken hlost hcounted =>
    have hqueue : r.queue = [] := by
      rw [queue, hinbound]
      rfl
    rw [htaken, hqueue, hlost]
    exact ⟨none, hcounted.frames, hcounted.undecoded, fun _ hnone => by cases hnone⟩
  | opened i hinbound h =>
    have hqueue : r.queue = i.queue := by
      rw [queue, hinbound]
      rfl
    obtain ⟨held, hpayloads⟩ := h.payloadsCounted
    rw [hqueue, h.delivered_eq]
    refine ⟨held, hpayloads.counted.frames, hpayloads.counted.undecoded, ?_⟩
    rintro item rfl
    refine ⟨i, hinbound, ?_⟩
    have hholds := hpayloads.heldExplained
    unfold Inbound.HeldExplained at hholds
    split at hholds
    · cases hholds
    · rename_i hstage
      obtain rfl := Option.some.inj hholds
      exact Or.inl hstage
    · rename_i outcome hstage
      rcases hholds with ⟨hnone, -⟩ | hinterrupted
      · cases hnone
      · exact Or.inr ⟨outcome, hstage, hinterrupted⟩

/-- While items are taken none are lost, and then none are left in the queue. -/
theorem IncomingCounted.lost_or_left
    (h : IncomingCounted r.session.inbound r.metrics bytes close taken lost) :
    (r.isConsumed = true → lost = []) ∧ (r.isConsumed = false → r.queue = []) := by
  cases h with
  | unopened hinbound _ _ _ hlost =>
    refine ⟨fun _ => hlost, fun _ => ?_⟩
    rw [queue, hinbound]
    rfl
  | opened i hinbound h =>
    rw [isConsumed, queue, hinbound]
    exact ⟨h.lost_eq, h.queue_eq⟩

/-! ## Conservation -/

/-- What the counters of a run say about its history. -/
structure History.Conserved (client : Client) (p : History) : Prop where
  /-- What was sent is the registration, and then the replies to the requests that were taken, from
  the first one on. -/
  sent_framed : Framed ((client.script p.taken).take p.sent.length) p.sent
  /-- Where there is a pump, the registration was sent. -/
  opened : p.run.pump ≠ none → p.sent ≠ []
  /-- Just the frames that were sent are counted. -/
  frames_out : p.run.metrics.frames.get Metrics.outbound = p.sent.length.toUInt64
  /-- They are counted with all their bytes. -/
  bytes_out : p.run.metrics.bytes.get Metrics.outbound = p.sent.flatten.length.toUInt64
  /-- Behind them the sink has taken nothing, or some bytes of the next frame. -/
  written_eq : ∃ rest, p.run.session.written = p.sent.flatten ++ rest ∧
    (rest = [] ∨ ∃ e frame, (client.script p.taken)[p.sent.length]? = some e ∧
      e.toFrame = .ok frame ∧ rest <+: frame)
  /-- An answer is counted for every request that was taken. -/
  answered_eq : p.run.metrics.answered = (p.taken.countP Inbound.isRequest).toUInt64
  /-- There is an answer for every frame that was sent but the registration, and one more is owed at
  most: while it is being sent, after this has failed, and where the pump was stopped. -/
  balance : ∃ unsent : Bool,
    p.run.metrics.answered + 1 =
      p.run.metrics.frames.get Metrics.outbound + unsent.toNat.toUInt64 ∧
    p.taken.countP Inbound.isRequest + 1 = p.sent.length + unsent.toNat ∧
    p.run.pump.all (·.allows unsent) = true
  /-- Just the frames of the items that were taken, wait in the queue, were lost with it, or are
  held are counted, and of these the ones without an envelope. An item is held while it waits for
  room, and when receiving has been interrupted before there was any. -/
  received : ∃ held : Option Inbound.Item,
    p.run.metrics.frames.get Metrics.inbound =
      (p.taken ++ p.run.queue ++ p.lost ++ held.toList).length.toUInt64 ∧
    p.run.metrics.undecoded.get Inbound.undecodedLabel =
      ((p.taken ++ p.run.queue ++ p.lost ++ held.toList).countP Inbound.isUndecoded).toUInt64 ∧
    ∀ item, held = some item → ∃ i, p.run.session.inbound = some i ∧
      (i.stage = .delivering item ∨
        ∃ outcome, i.stage = .ended outcome ∧ i.IsInterrupted outcome)
  /-- Nothing is lost while the pump answers. -/
  lost_eq : p.run.pump.any Pump.isLive = true → p.lost = []
  /-- Nothing waits in the queue while it does not. -/
  queue_eq : p.run.pump.any Pump.isLive = false → p.run.queue = []

/-- The first envelopes were sent, and the sink has taken no more than some bytes of the next. -/
theorem ScriptSent.framed_take {script : List Envelope} {written : Bytes} {unsent : Bool}
    (h : ScriptSent script sent written unsent) :
    Framed (script.take sent.length) sent ∧
    (∃ rest, written = sent.flatten ++ rest ∧
      (rest = [] ∨ ∃ e frame, script[sent.length]? = some e ∧ e.toFrame = .ok frame ∧
        rest <+: frame)) ∧
    script.length = sent.length + unsent.toNat := by
  cases h with
  | all hframed hwritten =>
    refine ⟨?_, ⟨[], by rw [hwritten, List.append_nil], Or.inl rfl⟩, hframed.length_eq⟩
    rw [← hframed.length_eq, List.take_length]
    exact hframed
  | @allButLast earlier e rest hscript hframed hwritten hrest =>
    rw [hscript, ← hframed.length_eq]
    refine ⟨?_, ⟨rest, hwritten, hrest.imp id ?_⟩, by simp⟩
    · rw [List.take_left]
      exact hframed
    · rintro ⟨frame, hframe, hprefix⟩
      exact ⟨e, frame, by simp, hframe, hprefix⟩

/-- Where the counters agree with a history, all of them are balanced. -/
theorem Accounted.conserved (h : Accounted client bytes close p.sent p.taken p.lost p.run) :
    p.Conserved client := by
  obtain ⟨unsent, hunsent, hallows⟩ := h.scriptSent
  obtain ⟨hframed, hwritten, hlength⟩ := hunsent.framed_take
  obtain ⟨hlost, hleft⟩ := h.historyCounted.incoming.lost_or_left
  have hbalance : p.taken.countP Inbound.isRequest + 1 = p.sent.length + unsent.toNat := by
    rw [← hlength, Client.script, List.length_cons, Client.length_replies]
  have hframes := h.historyCounted.outgoing.frames
  have hanswered := h.historyCounted.outgoing.answered
  rw [h.isConsumed_eq] at hlost hleft
  refine ⟨hframed, ?_, hframes, h.historyCounted.outgoing.bytes, hwritten, hanswered,
    ⟨unsent, ?_, hbalance, hallows⟩, h.historyCounted.incoming.received, hlost, hleft⟩
  · intro hpump
    cases h.sendingProgress with
    | connecting switch hrun =>
      rw [hrun] at hpump
      exact absurd rfl hpump
    | registering hregistering => exact absurd hregistering.pump hpump
    | replying _ hsent => exact hsent
    | resting hsilent => exact hsilent.opened hpump
  · rw [hanswered, hframes]
    calc (p.taken.countP Inbound.isRequest).toUInt64 + 1
        = (p.taken.countP Inbound.isRequest + 1).toUInt64 := (UInt64.ofNat_add _ 1).symm
      _ = (p.sent.length + unsent.toNat).toUInt64 := by rw [hbalance]
      _ = p.sent.length.toUInt64 + unsent.toNat.toUInt64 := UInt64.ofNat_add _ _

/-- At first nothing is counted. -/
theorem accounted_start (client : Client) (switch : Switch) :
    Accounted client [] none [] [] [] (start client switch) :=
  ⟨.connecting switch rfl rfl, outgoingCounted_zero,
    .unopened rfl rfl rfl rfl rfl Inbound.counted_zero⟩

/-- After any actions the counters agree with the history. -/
theorem accounted_of_after?
    (h : after? History.step? (.start client switch) actions = some p) :
    Accounted client (received actions) (closed? actions) p.sent p.taken p.lost p.run := by
  refine after?_induction (motive := fun actions p =>
    Accounted client (received actions) (closed? actions) p.sent p.taken p.lost p.run) ?_ ?_ h
  · exact accounted_start client switch
  · intro actions p action q _ haccounted hstep
    obtain ⟨next, hnext, rfl⟩ := Option.map_eq_some_iff.1 hstep
    simpa [received, closed?, List.flatMap_append, List.findSome?_append]
      using haccounted.step hnext

/-- Every run has a history. -/
theorem exists_history (h : after? step? (start client switch) actions = some r) :
    ∃ p, after? History.step? (.start client switch) actions = some p ∧ p.run = r := by
  refine after?_induction (motive := fun actions r =>
    ∃ p, after? History.step? (.start client switch) actions = some p ∧ p.run = r)
    ⟨.start client switch, rfl, rfl⟩ ?_ h
  rintro actions _ action next _ ⟨p, hp, rfl⟩ hstep
  refine ⟨_, after?_snoc hp (Option.map_eq_some_iff.2 ⟨next, hstep, rfl⟩), rfl⟩

/-- The counters of every run are those of its history, at any moment.

However the steps of a run follow each other, and whatever becomes of it, the frames and bytes that
it counts as sent are those of the registration and of the first replies, the answers that it counts
are as many as the requests that its pump has taken, and the frames that it counts as received are
those of the items that the pump has taken, that wait for it, that were lost with the queue when it
came to its end, and of one more at most that receiving holds. -/
theorem counters_conserved {client : Client} {switch : Switch} {actions : List Action} {r : Run}
    (h : after? step? (start client switch) actions = some r) :
    ∃ p, after? History.step? (.start client switch) actions = some p ∧ p.run = r ∧
      p.Conserved client := by
  obtain ⟨p, hp, hrun⟩ := exists_history h
  exact ⟨p, hp, hrun, (accounted_of_after? hp).conserved⟩

/-- A run that is stopped while it has sent three bytes of the reply to the first of two requests
has counted two frames that came in, this reply as an answer, and none but the registration as a
frame that went out. -/
theorem counters_conserved_broken_off :
    ∃ (request : Bytes) (r : Run) (p : History),
      request = Frame.layout
        (Request.toEnvelope ⟨7, "GET", "/a", OrderedMap.empty, ""⟩ Subject.request).toBytes ∧
      after? step? (start (.echoing "client" ["/a"]) .off)
        [.connected none, .accept 250, .flush, .read (request ++ request), .pump, .accept 3, .drop,
          .noticeSwitch] = some r ∧
      r.metrics.frames.get Metrics.inbound = 2 ∧ r.metrics.answered = 1 ∧
      r.metrics.frames.get Metrics.outbound = 1 ∧ p.run = r ∧
      p.Conserved (.echoing "client" ["/a"]) := by
  obtain ⟨request, hrequest⟩ : ∃ request, request = Frame.layout
      (Request.toEnvelope ⟨7, "GET", "/a", OrderedMap.empty, ""⟩ Subject.request).toBytes :=
    ⟨_, rfl⟩
  have hrun : (after? step? (start (.echoing "client" ["/a"]) .off)
      [.connected none, .accept 250, .flush, .read (request ++ request), .pump, .accept 3, .drop,
        .noticeSwitch]).any (fun r => r.metrics.frames.get Metrics.inbound = 2 ∧
          r.metrics.answered = 1 ∧ r.metrics.frames.get Metrics.outbound = 1) = true := by
    subst hrequest
    decide +kernel
  obtain ⟨r, hr, hcounters⟩ := (Option.any_eq_true _ _).1 hrun
  obtain ⟨hin, hanswered, hout⟩ := of_decide_eq_true hcounters
  obtain ⟨p, -, hp, hconserved⟩ := counters_conserved hr
  exact ⟨request, r, p, hrequest, hr, hin, hanswered, hout, hp, hconserved⟩

end Run

end Courier
