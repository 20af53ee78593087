import Courier.Proofs.Client.Counted

/-!
# The history of a run

The history of a run says which frames were sent, which items the pump has taken, and which were
lost when it came to its end (`History`). The counters of a run are those of its history: of what
was sent and answered, and of what was received (`HistoryCounted`). Every envelope up to the last
one was sent; the last one was sent as well, or it is still to be sent (`ScriptSent`), and how far
the pump is says which of both it may be (`Pump.allows`).
-/

namespace Courier

namespace Run

/-! ## History -/

/-- A run with its history. -/
structure History where
  run : Run
  /-- The frames that were flushed, in order. -/
  sent : List Bytes
  /-- The items that the pump has taken, in order. -/
  taken : List Inbound.Item
  /-- The items that were in the queue when the pump came to its end. -/
  lost : List Inbound.Item

/-- Whether anybody takes items. -/
def isConsumed (r : Run) : Bool := r.session.inbound.any Inbound.consumed

/-- The frame that an action flushes, which is that of the send that holds the sink. -/
def framesSent (r : Run) : Action → List Bytes
  | .flush => ((r.session.outbound.bind Outbound.active).map (·.send.frame)).toList
  | _ => []

/-- The item that the pump takes by an action. -/
def itemsTaken (r : Run) (action : Action) : List Inbound.Item :=
  match action, r.pump with
  | .pump, some .waiting => r.queue.take 1
  | _, _ => []

/-- The items that an action loses: those behind the one that is taken, where nobody takes items any
more after it. -/
def itemsLost (r next : Run) (action : Action) : List Inbound.Item :=
  if r.isConsumed && !next.isConsumed then r.queue.drop (r.itemsTaken action).length else []

/-- The beginning of a run, without a history. -/
def History.start (client : Client) (switch : Switch) : History :=
  ⟨Run.start client switch, [], [], []⟩

/-- What an action leads to, if it can happen. -/
def History.step? (p : History) (action : Action) : Option History :=
  (p.run.step? action).map fun next =>
    ⟨next, p.sent ++ p.run.framesSent action, p.taken ++ p.run.itemsTaken action,
      p.lost ++ p.run.itemsLost next action⟩

variable {client : Client} {bytes : Bytes} {close : Option Inbound.Close}
  {taken lost : List Inbound.Item} {sent : List Bytes} {frame : Bytes} {unsent : Bool}
  {r next : Run} {pump : Pump} {action : Action}

/-- Only a flush sends a frame. -/
theorem framesSent_of_ne (h : action ≠ .flush) : r.framesSent action = [] := by
  cases action <;> first | rfl | exact absurd rfl h

/-- A flush sends the frame that the sink is busy with. -/
theorem framesSent_of_busy {o : Outbound} {before : Bytes} {number : Nat}
    (ho : r.session.outbound = some o) (h : o.Busy before frame number) :
    r.framesSent .flush = [frame] := by
  obtain ⟨subject, taken, hactive, -⟩ := h.holds
  simp [framesSent, ho, hactive]

/-- Only the pump takes items. -/
theorem itemsTaken_of_ne (h : action ≠ .pump) : r.itemsTaken action = [] := by
  unfold itemsTaken
  split
  · exact absurd rfl h
  · rfl

/-- A pump that does not wait takes no items. -/
theorem itemsTaken_of_pump (h : r.pump ≠ some .waiting) : r.itemsTaken action = [] := by
  unfold itemsTaken
  split
  · exact absurd ‹_› h
  · rfl

/-- Nothing is lost as long as items are taken. -/
theorem itemsLost_of_consumed (h : next.isConsumed = true) : r.itemsLost next action = [] := by
  rw [itemsLost, h, Bool.not_true, Bool.and_false]
  rfl

/-- Nothing is lost where nobody took items before. -/
theorem itemsLost_of_left (h : r.isConsumed = false) : r.itemsLost next action = [] := by
  rw [itemsLost, h, Bool.false_and]
  rfl

/-! ## Counters against the history -/

/-- The counters of a run are those of its history. -/
structure HistoryCounted (client : Client) (bytes : Bytes) (close : Option Inbound.Close)
    (sent : List Bytes) (taken lost : List Inbound.Item) (r : Run) : Prop where
  outgoing : OutgoingCounted r.metrics sent (taken.filterMap client.reply?)
  incoming : IncomingCounted r.session.inbound r.metrics bytes close taken lost

/-- What at most disturbs receiving is not counted. -/
theorem HistoryCounted.of_onlyDisturbs (h : HistoryCounted client bytes close sent taken lost r)
    (honly : OnlyDisturbs r next) : HistoryCounted client bytes close sent taken lost next :=
  ⟨honly.metrics ▸ h.outgoing, h.incoming.of_onlyDisturbs honly⟩

/-- Only what is received and the counters matter. -/
theorem HistoryCounted.of_same (h : HistoryCounted client bytes close sent taken lost r)
    (hinbound : next.session.inbound = r.session.inbound) (hmetrics : next.metrics = r.metrics) :
    HistoryCounted client bytes close sent taken lost next :=
  ⟨hmetrics ▸ h.outgoing, hinbound ▸ hmetrics ▸ h.incoming⟩

/-- A frame that is sent is counted. -/
theorem HistoryCounted.send (h : HistoryCounted client bytes close sent taken lost r)
    (hinbound : next.session.inbound = r.session.inbound)
    (hmetrics : next.metrics = r.metrics.countSent frame.length) :
    HistoryCounted client bytes close (sent ++ [frame]) taken lost next :=
  ⟨hmetrics ▸ h.outgoing.send frame, hinbound ▸ hmetrics ▸ h.incoming.send frame.length⟩

/-- What happens to the receiving side of a run is a step of it. -/
theorem exists_of_onSession?_inbound {a : Inbound.Action}
    (h : r.onSession? (.inbound a) = some next) :
    ∃ i after, r.session.inbound = some i ∧ next.session.inbound = some after ∧
      i.Step r.metrics a after next.metrics := by
  obtain ⟨session, metrics, hsession, rfl⟩ := exists_of_onSession? h
  have hreceiving := Session.receivingStep_of_step? hsession
  generalize hafter : session.inbound = after at hreceiving
  cases hreceiving with
  | received hi hstep => exact ⟨_, _, hi, rfl, hstep⟩
  | silent haction => cases haction

/-- What is received is counted. -/
theorem HistoryCounted.inbound (h : HistoryCounted client bytes close sent taken lost r)
    {a : Inbound.Action}
    (hitems : ∀ i : Inbound, i.itemsTaken a = []) (hleave : a ≠ .leave)
    (hstep : r.onSession? (.inbound a) = some next) :
    HistoryCounted client (bytes ++ a.bytes) (close.or a.close?) sent taken lost next := by
  obtain ⟨i, after, hi, hafter, hnext⟩ := exists_of_onSession?_inbound hstep
  have hincoming := h.incoming.step hi hnext
  have hlost : i.itemsLost a = [] := by cases a <;> first | rfl | exact absurd rfl hleave
  rw [hitems, hlost, List.append_nil, List.append_nil] at hincoming
  exact ⟨h.outgoing.of_sameOutgoing hnext.sameOutgoing, hafter ▸ hincoming⟩

/-- An item that is taken is counted as taken before it is answered. -/
theorem HistoryCounted.take (h : HistoryCounted client bytes close sent taken lost r)
    {item : Inbound.Item}
    {rest : List Inbound.Item} (hqueue : r.queue = item :: rest)
    (hstep : r.onSession? (.inbound .take) = some next) :
    OutgoingCounted next.metrics sent (taken.filterMap client.reply?) ∧
      IncomingCounted next.session.inbound next.metrics bytes close (taken ++ [item]) lost ∧
      next.queue = rest := by
  obtain ⟨i, after, hi, hafter, hnext⟩ := exists_of_onSession?_inbound hstep
  have hitems : i.queue = item :: rest := by rwa [queue, hi] at hqueue
  have hincoming := h.incoming.step hi hnext
  simp only [Inbound.Action.bytes, Inbound.Action.close?, Inbound.itemsTaken, Inbound.itemsLost,
    hitems, List.take_succ_cons, List.take_zero, List.append_nil, Option.or_none] at hincoming
  refine ⟨h.outgoing.of_sameOutgoing hnext.sameOutgoing, hafter ▸ hincoming, ?_⟩
  rw [queue, hafter]
  generalize next.metrics = later at hnext
  cases hnext with
  | close _ _ haction => cases haction
  | take other later hother =>
    obtain ⟨-, rfl⟩ := List.cons.inj (hitems.symm.trans hother)
    rfl

/-! ## The end of the pump -/

/-- The end of the pump counts nothing. -/
@[simp] theorem metrics_endPump (r : Run) (pump : Pump) :
    (r.endPump pump).metrics = r.metrics := by
  unfold endPump onSession onSession?
  cases hi : r.session.inbound <;> simp [Session.step?, Inbound.step?, hi]

/-- When the pump has come to its end the queue is empty, and nobody takes items any more. -/
@[simp] theorem inbound_endPump (r : Run) (pump : Pump) :
    (r.endPump pump).session.inbound =
      r.session.inbound.map fun i => { i with queue := [], consumed := false } := by
  unfold endPump onSession onSession?
  cases hi : r.session.inbound <;> simp [Session.step?, Inbound.step?, hi]

/-- When the pump has come to its end nobody takes items any more. -/
theorem isConsumed_endPump (r : Run) (pump : Pump) : (r.endPump pump).isConsumed = false := by
  rw [isConsumed, inbound_endPump]
  cases r.session.inbound <;> rfl

/-- When the pump comes to its end the items in the queue are lost. -/
theorem HistoryCounted.endPump (h : HistoryCounted client bytes close sent taken lost r)
    (pump : Pump) :
    HistoryCounted client bytes close sent taken (lost ++ r.queue) (r.endPump pump) := by
  refine ⟨(r.metrics_endPump pump).symm ▸ h.outgoing, ?_⟩
  rw [metrics_endPump, inbound_endPump]
  exact h.incoming.leave

/-! ## What is still to be sent -/

/-- Of some envelopes all were sent, or all but the last one. Of that one the sink may have taken
some bytes. -/
inductive ScriptSent (script : List Envelope) (sent : List Bytes) (written : Bytes) :
    Bool → Prop where
  | all (hframed : Framed script sent) (hwritten : written = sent.flatten) :
    ScriptSent script sent written false
  | allButLast {earlier : List Envelope} {e : Envelope} {rest : Bytes}
      (hscript : script = earlier ++ [e])
      (hframed : Framed earlier sent) (hwritten : written = sent.flatten ++ rest)
      (hrest : rest = [] ∨ ∃ frame, e.toFrame = .ok frame ∧ rest <+: frame) :
    ScriptSent script sent written true

/-- Whether an answer may be owed, or all be sent, when the pump is so far. An answer is owed while
it is being sent, after this has failed, and where the pump was stopped in the middle of it. -/
def Pump.allows : Pump → Bool → Bool
  | .waiting, unsent | .ended (.ok ()), unsent => !unsent
  | .sending _, unsent | .ended (.error _), unsent => unsent
  | .stopped, _ => true

/-- While the pump waits all answers were sent. -/
theorem Waiting.scriptSent (h : Waiting client bytes close taken sent r) :
    ScriptSent (client.script taken) sent r.session.written false := by
  obtain ⟨o, ho, hidle⟩ := h.idle
  exact .all h.framed ((Session.written_of_outbound ho).trans hidle.written_eq)

/-- While an answer is being sent, all before it were sent. -/
theorem Sending.scriptSent (h : Sending client bytes close taken sent frame r) :
    ScriptSent (client.script taken) sent r.session.written true := by
  obtain ⟨o, number, ho, -, -, hbusy⟩ := h.busy
  obtain ⟨subject, count, -, -, hwritten⟩ := hbusy.holds
  obtain ⟨earlier, e, hscript, hearlier, hframe⟩ := h.framed.exists_snoc
  exact .allButLast hscript hearlier ((Session.written_of_outbound ho).trans hwritten)
    (Or.inr ⟨frame, hframe, List.take_prefix _ _⟩)

/-- A pump that answers has sent all answers but the one that it may be sending. -/
theorem Replying.scriptSent (h : Replying client bytes close taken sent r) :
    ∃ unsent, ScriptSent (client.script taken) sent r.session.written unsent ∧
      r.pump.all (·.allows unsent) = true := by
  cases h with
  | waiting h => exact ⟨false, h.scriptSent, by rw [h.pump]; rfl⟩
  | sending h =>
    obtain ⟨_, number, _, hpump, -⟩ := h.busy
    exact ⟨true, h.scriptSent, by rw [hpump]; rfl⟩

/-- Where nothing was received and nothing was sent, the registration is still to be sent. -/
theorem scriptSent_registration {written : Bytes} (h : written <+: client.wire []) :
    ScriptSent (client.script []) [] written true := by
  have hscript : client.script [] = [] ++ [client.registration] := rfl
  have hnone : Framed [] [] := rfl
  rw [Client.wire, client.items_nil, hscript, List.nil_append, frames] at h
  cases hframe : client.registration.toFrame with
  | ok frame =>
    rw [hframe] at h
    exact .allButLast hscript hnone rfl (Or.inr ⟨frame, hframe, by simpa [frames] using h⟩)
  | error fault =>
    rw [hframe] at h
    exact .allButLast hscript hnone rfl (Or.inl (List.prefix_nil.1 h))

end Run

end Courier
