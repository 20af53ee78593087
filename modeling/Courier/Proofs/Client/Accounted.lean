import Courier.Proofs.Client.History

/-!
# Runs whose counters agree with their history

A run connects, registers, answers and comes to rest (`SendingProgress`). At first nothing is
received, while the pump answers it is known which answer is still to be sent, and at rest nobody
takes items any more. From each of these a step leads to one of the others, and the counters agree
with the history again behind it (`Accounted`).
-/

namespace Courier

namespace Run

variable {client : Client} {bytes : Bytes} {close : Option Inbound.Close}
  {taken lost left : List Inbound.Item} {sent : List Bytes} {frame written : Bytes} {unsent : Bool}
  {r next : Run} {pump : Pump} {action : Action}

/-! ## How far a run is -/

/-- Nobody answers any more, or the run was never opened, and nobody takes items. -/
structure NotAnswering (client : Client) (sent : List Bytes) (taken : List Inbound.Item) (r : Run) :
    Prop where
  resting : r.Resting client r.session.written
  left : r.isConsumed = false
  scriptSent : ∃ unsent, ScriptSent (client.script taken) sent r.session.written unsent ∧
    r.pump.all (·.allows unsent) = true
  unopened (h : r.pump = none) : r.session.inbound = none
  opened (h : r.pump ≠ none) : sent ≠ []

/-- How far a run is with what it has to send. -/
inductive SendingProgress (client : Client) (bytes : Bytes) (close : Option Inbound.Close)
    (sent : List Bytes) (taken : List Inbound.Item) (r : Run) : Prop where
  | connecting (switch : Switch) (hrun : r = start client switch) (hsent : sent = [])
  | registering {frame : Bytes} (h : Registering client frame r) (hsent : sent = [])
  | replying (h : Replying client bytes close taken sent r) (hsent : sent ≠ [])
  | resting (h : NotAnswering client sent taken r)

/-- A run whose counters agree with its history, however far it is. -/
structure Accounted (client : Client) (bytes : Bytes) (close : Option Inbound.Close)
    (sent : List Bytes) (taken lost : List Inbound.Item) (r : Run) : Prop where
  sendingProgress : SendingProgress client bytes close sent taken r
  historyCounted : HistoryCounted client bytes close sent taken lost r

/-- Where the pump answers, items are taken. -/
theorem Served.isConsumed (h : Served client bytes close taken r) : r.isConsumed = true := by
  obtain ⟨i, hi, hundisturbed⟩ := h.receiving
  simp [Run.isConsumed, hi, hundisturbed.consumed]

/-- What the runner does besides does not end the taking of items. -/
theorem OnlyDisturbs.isConsumed_eq (h : OnlyDisturbs r next) : next.isConsumed = r.isConsumed := by
  rcases h.inbound with hsame | hdisturbed
  · rw [isConsumed, isConsumed, hsame]
  · rw [isConsumed, isConsumed, hdisturbed]
    cases r.session.inbound <;> rfl

/-- What the runner does besides leaves the queue alone. -/
theorem OnlyDisturbs.queue_eq (h : OnlyDisturbs r next) : next.queue = r.queue := by
  rcases h.inbound with hsame | hdisturbed
  · rw [queue, queue, hsame]
  · rw [queue, queue, hdisturbed]
    cases r.session.inbound <;> rfl

/-! ## At rest -/

/-- What a run at rest comes to by going on leaves it at rest. -/
theorem NotAnswering.of_staysResting (h : NotAnswering client sent taken r)
    (hstays : StaysResting client r.session.written r next) :
    NotAnswering client sent taken next where
  resting := hstays.resting.written_eq.symm ▸ hstays.resting
  left := hstays.onlyDisturbs.isConsumed_eq.trans h.left
  scriptSent := by
    rw [hstays.resting.written_eq, hstays.onlyDisturbs.pump]
    exact h.scriptSent
  unopened hpump := by
    have hnone := h.unopened (hstays.onlyDisturbs.pump ▸ hpump)
    rcases hstays.onlyDisturbs.inbound with hsame | hdisturbed
    · exact hsame.trans hnone
    · rw [hdisturbed, hnone]
      rfl
  opened hpump := h.opened (hstays.onlyDisturbs.pump ▸ hpump)

/-- Receiving goes on beside a run at rest, but nobody takes what is received. -/
theorem NotAnswering.inbound (h : NotAnswering client sent taken r) {a : Inbound.Action}
    (hstep : r.onSession? (.inbound a) = some next) : NotAnswering client sent taken next := by
  obtain ⟨i, after, hi, hafter, hnext⟩ := exists_of_onSession?_inbound hstep
  obtain ⟨hresting, -⟩ := h.resting.onSession? rfl hstep
  have hpump : next.pump = r.pump := by
    obtain ⟨_, _, -, rfl⟩ := exists_of_onSession? hstep
    rfl
  have hleft : i.consumed = false := by simpa [isConsumed, hi] using h.left
  have hgone : after.consumed = false := hnext.left_iff.2 (Or.inl hleft)
  refine ⟨hresting.written_eq.symm ▸ hresting, by simp [isConsumed, hafter, hgone], ?_, ?_, ?_⟩
  · rw [hresting.written_eq, hpump]
    exact h.scriptSent
  · intro hnone
    cases (h.unopened (hpump ▸ hnone)).symm.trans hi
  · exact fun hsome => h.opened (hpump ▸ hsome)

/-- A run at rest may come to another stage. -/
theorem NotAnswering.withStage (h : NotAnswering client sent taken r) {stage : Stage}
    (hstage : stage.isOpening = false) : NotAnswering client sent taken { r with stage } :=
  ⟨h.resting.withStage hstage, h.left, h.scriptSent, h.unopened, h.opened⟩

/-- When the pump has come to its end the run is at rest. -/
theorem notAnswering_endPump (hclient : r.client = client) (hstage : r.stage.isOpening = false)
    (hquiet : r.session.Quiet) (hsent : sent ≠ [])
    (hscript : ScriptSent (client.script taken) sent r.session.written unsent)
    (hpump : pump.isLive = false) (hallows : pump.allows unsent = true) :
    NotAnswering client sent taken (r.endPump pump) := by
  obtain ⟨hresting, -⟩ := resting_endPump hclient hstage hquiet hpump
  refine ⟨hresting.written_eq.symm ▸ hresting, r.isConsumed_endPump pump, ⟨unsent, ?_, ?_⟩, ?_,
    fun _ => hsent⟩
  · rw [hresting.written_eq]
    exact hscript
  · rw [pump_endPump]
    exact hallows
  · intro hnone
    simp at hnone

/-! ## While the pump answers -/

/-- What can come of a run in which the pump answers: it goes on to do so, or nobody takes items any
more, and those that are left are lost. -/
inductive StaysOrLeaves (client : Client) (bytes : Bytes) (close : Option Inbound.Close)
    (sent : List Bytes) (taken lost left : List Inbound.Item) (next : Run) : Prop where
  | stays (h : Accounted client bytes close sent taken lost next)
      (hconsumed : next.isConsumed = true)
  | leaves (h : Accounted client bytes close sent taken (lost ++ left) next)
      (hleft : next.isConsumed = false)

/-- The pump goes on to answer. -/
theorem staysOrLeaves_replying (h : Replying client bytes close taken sent r) (hsent : sent ≠ [])
    (hcount : HistoryCounted client bytes close sent taken lost r) :
    StaysOrLeaves client bytes close sent taken lost left r :=
  .stays ⟨.replying h hsent, hcount⟩ h.served.isConsumed

/-- The pump comes to its end. -/
theorem staysOrLeaves_endPump (hcount : HistoryCounted client bytes close sent taken lost r)
    (h : NotAnswering client sent taken (r.endPump pump)) :
    StaysOrLeaves client bytes close sent taken lost r.queue (r.endPump pump) :=
  .leaves ⟨.resting h, hcount.endPump pump⟩ (r.isConsumed_endPump pump)

/-- The pump is stopped. -/
theorem staysOrLeaves_stop (h : Replying client bytes close taken sent r) (hsent : sent ≠ [])
    (hcount : HistoryCounted client bytes close sent taken lost r) (outcome : Except Failure Unit) :
    StaysOrLeaves client bytes close sent taken lost r.queue (r.stop outcome) := by
  obtain ⟨session, hstop, hquiet, hwritten, hinbound⟩ := h.stopPump
  obtain ⟨unsent, hscript, -⟩ := h.scriptSent
  have hsilent : NotAnswering client sent taken ({ r with session }.endPump .stopped) :=
    notAnswering_endPump h.served.client_eq h.served.isOpening_eq_false hquiet hsent
      (hwritten.symm ▸ hscript) rfl rfl
  have hbegun : HistoryCounted client bytes close sent taken lost { r with session } :=
    hcount.of_same hinbound rfl
  have hended := hbegun.endPump .stopped
  have hqueue : { r with session }.queue = r.queue := by simp only [queue, hinbound]
  rw [hqueue] at hended
  rw [stop, hstop]
  exact .leaves ⟨.resting (hsilent.withStage rfl), hended.of_same rfl rfl⟩ (isConsumed_endPump _ _)

/-- The registration was sent before the pump was started. -/
theorem Waiting.sent_ne_nil (h : Waiting client bytes close taken sent r) : sent ≠ [] := by
  rintro rfl
  cases h.framed

/-- An envelope is taken, and it is answered if it gets an answer. -/
theorem HistoryCounted.answer {e : Envelope} {after : Run} (hsent : sent ≠ [])
    (hstage : after.stage.isOpening = false)
    (houtgoing : OutgoingCounted after.metrics sent (taken.filterMap client.reply?))
    (hincoming : IncomingCounted after.session.inbound after.metrics bytes close
      (taken ++ [.ok e]) lost)
    (hframed : Framed (client.script taken) sent)
    (h : Answered client bytes close taken sent after e next) :
    StaysOrLeaves client bytes close sent (taken ++ [.ok e]) lost after.queue next := by
  have hreplies {reply : Envelope} (hreply : client.reply? (.ok e) = some reply) :
      List.filterMap client.reply? (taken ++ [.ok e]) =
        taken.filterMap client.reply? ++ [reply] := by
    rw [List.filterMap_append, List.filterMap_cons_some hreply, List.filterMap_nil]
  have hentered {reply : Envelope} (hreply : client.reply? (.ok e) = some reply) {begun : Run}
      (hinbound : begun.session.inbound = after.session.inbound)
      (hmetrics : begun.metrics = after.metrics.countReply (some reply)) :
      HistoryCounted client bytes close sent (taken ++ [.ok e]) lost begun := by
    refine ⟨?_, ?_⟩
    · rw [hmetrics, hreplies hreply]
      exact houtgoing.reply reply
    · rw [hmetrics, hinbound]
      exact hincoming.reply (some reply)
  cases h with
  | silent hreply hwaiting =>
    refine staysOrLeaves_replying (.waiting hwaiting) hsent ⟨?_, hincoming⟩
    rwa [List.filterMap_append, List.filterMap_cons_none hreply, List.filterMap_nil,
      List.append_nil]
  | sending hreply hsending hinbound hmetrics =>
    exact staysOrLeaves_replying (.sending hsending) hsent (hentered hreply hinbound hmetrics)
  | @unframed reply fault begun hreply hframe hclient hsame hquiet hwritten hinbound hmetrics =>
    have hqueue : begun.queue = after.queue := by rw [queue, queue, hinbound]
    rw [← hqueue]
    refine staysOrLeaves_endPump (hentered hreply hinbound hmetrics)
      (notAnswering_endPump hclient (hsame ▸ hstage) hquiet hsent ?_ rfl rfl)
    exact .allButLast (Client.script_snoc_of_some hreply taken) hframed
      (hwritten.trans (List.append_nil _).symm) (Or.inl rfl)

/-- The pump takes the next item, or there will be no more items. -/
theorem Pumped.staysOrLeaves (hpumped : Pumped client bytes close taken sent r next)
    (h : Waiting client bytes close taken sent r)
    (hcount : HistoryCounted client bytes close sent taken lost r) :
    StaysOrLeaves client bytes close sent (taken ++ r.itemsTaken .pump) lost
      (r.queue.drop (r.itemsTaken .pump).length) next := by
  have hitems : r.itemsTaken .pump = r.queue.take 1 := by simp only [itemsTaken, h.pump]
  have hqueue {i : Inbound} (hi : r.session.inbound = some i) : r.queue = i.queue := by
    rw [queue, hi]
    rfl
  rw [hitems]
  cases hpumped with
  | drained hi hempty =>
    obtain ⟨o, ho, hidle⟩ := h.idle
    have hnone := (hqueue hi).trans hempty
    have hsilent : NotAnswering client sent taken (r.endPump (.ended (.ok ()))) :=
      notAnswering_endPump h.served.client_eq h.served.isOpening_eq_false
        (Session.quiet_of_outbound h.served.call_any ho hidle.quiet) h.sent_ne_nil h.scriptSent
        rfl rfl
    have hended := staysOrLeaves_endPump hcount hsilent
    rw [hnone] at hended ⊢
    simpa using hended
  | undecoded hi hitem htake hwaiting =>
    have hfirst := (hqueue hi).trans hitem
    obtain ⟨houtgoing, hincoming, -⟩ := hcount.take hfirst htake
    rw [hfirst]
    refine staysOrLeaves_replying (.waiting hwaiting) h.sent_ne_nil ⟨?_, hincoming⟩
    rwa [List.filterMap_append, List.take_succ_cons, List.take_zero,
      List.filterMap_cons_none rfl, List.filterMap_nil, List.append_nil]
  | envelope hi hitem htake hserved hpump ho hidle =>
    have hfirst := (hqueue hi).trans hitem
    obtain ⟨houtgoing, hincoming, hrest⟩ := hcount.take hfirst htake
    rw [hfirst, List.take_succ_cons, List.take_zero, List.length_singleton, List.drop_succ_cons,
      List.drop_zero, ← hrest]
    exact HistoryCounted.answer h.sent_ne_nil hserved.isOpening_eq_false houtgoing hincoming
      h.framed
      (hserved.answered hpump ho hidle h.framed)

/-- An action that brings and takes nothing. -/
theorem StaysOrLeaves.of_internal
    (h : StaysOrLeaves client bytes close (sent ++ r.framesSent action) taken lost r.queue next)
    (haction : action.inbound? = none) (hpump : action ≠ .pump) :
    StaysOrLeaves client (bytes ++ action.bytes) (close.or action.close?)
      (sent ++ r.framesSent action)
      (taken ++ r.itemsTaken action) lost (r.queue.drop (r.itemsTaken action).length) next := by
  simpa [Action.bytes, Action.close?, haction, itemsTaken_of_ne hpump] using h

/-- An action that brings, sends and takes nothing. -/
theorem StaysOrLeaves.of_no_traffic
    (h : StaysOrLeaves client bytes close sent taken lost r.queue next)
    (haction : action.inbound? = none) (hflush : action ≠ .flush) (hpump : action ≠ .pump) :
    StaysOrLeaves client (bytes ++ action.bytes) (close.or action.close?)
      (sent ++ r.framesSent action)
      (taken ++ r.itemsTaken action) lost (r.queue.drop (r.itemsTaken action).length) next := by
  refine StaysOrLeaves.of_internal ?_ haction hpump
  rwa [framesSent_of_ne hflush, List.append_nil]

/-- An action of the runner brings, sends and takes nothing. -/
theorem StaysOrLeaves.of_runner (h : StaysOrLeaves client bytes close sent taken lost r.queue next)
    (haction : action.isOfRunner = true) :
    StaysOrLeaves client (bytes ++ action.bytes) (close.or action.close?)
      (sent ++ r.framesSent action)
      (taken ++ r.itemsTaken action) lost (r.queue.drop (r.itemsTaken action).length) next := by
  refine h.of_no_traffic (Action.inbound?_of_isOfRunner haction).1 ?_ ?_ <;>
    rintro rfl <;> cases haction

/-- What means something for receiving sends and takes nothing. -/
theorem nothing_of_inbound? {a : Inbound.Action} (haction : action.inbound? = some a) :
    r.framesSent action = [] ∧ r.itemsTaken action = [] := by
  constructor
  · apply framesSent_of_ne
    rintro rfl
    cases haction
  · apply itemsTaken_of_ne
    rintro rfl
    cases haction

/-- Whatever comes of a run in which the pump answers, its counters agree with its history. -/
theorem Replying.Next.staysOrLeaves (h : Replying.Next client bytes close taken sent r action next)
    (hsent : sent ≠ []) (hcount : HistoryCounted client bytes close sent taken lost r) :
    StaysOrLeaves client (bytes ++ action.bytes) (close.or action.close?)
      (sent ++ r.framesSent action)
      (taken ++ r.itemsTaken action) lost (r.queue.drop (r.itemsTaken action).length) next := by
  cases h with
  | receives haction hstep hnext =>
    obtain ⟨hitems, hleave, -⟩ := itemsTaken_of_inbound? haction
    obtain ⟨hframes, hnothing⟩ := nothing_of_inbound? (r := r) haction
    rw [Action.bytes, Action.close?, haction, hframes, hnothing, List.append_nil, List.append_nil]
    exact staysOrLeaves_replying hnext hsent (hcount.inbound hitems hleave hstep)
  | accepts hsending honly =>
    exact StaysOrLeaves.of_no_traffic
      (staysOrLeaves_replying (.sending hsending) hsent (hcount.of_onlyDisturbs honly))
      rfl Action.noConfusion Action.noConfusion
  | sent ho hbusy hwaiting hinbound hmetrics =>
    refine StaysOrLeaves.of_internal ?_ rfl Action.noConfusion
    rw [framesSent_of_busy ho hbusy]
    exact staysOrLeaves_replying (.waiting hwaiting) (List.concat_ne_nil _ _)
      (hcount.send hinbound hmetrics)
  | refused hsending hclient hstage hquiet hwritten honly =>
    refine StaysOrLeaves.of_no_traffic ?_ rfl Action.noConfusion Action.noConfusion
    rw [← honly.queue_eq]
    exact staysOrLeaves_endPump (hcount.of_onlyDisturbs honly) (notAnswering_endPump hclient
      (hstage ▸ hsending.served.isOpening_eq_false) hquiet hsent
      (hwritten.symm ▸ hsending.scriptSent)
      rfl rfl)
  | looks hpump hsending honly =>
    have hnothing : r.itemsTaken .pump = [] := itemsTaken_of_pump (by simp [hpump])
    rw [framesSent_of_ne Action.noConfusion, hnothing, List.append_nil, List.append_nil]
    simpa [Action.bytes, Action.close?, Action.inbound?] using
      staysOrLeaves_replying (.sending hsending) hsent (hcount.of_onlyDisturbs honly)
  | pumped hwaiting hpumped =>
    rw [framesSent_of_ne Action.noConfusion, List.append_nil]
    simpa [Action.bytes, Action.close?, Action.inbound?] using hpumped.staysOrLeaves hwaiting hcount
  | waits haction hreplying honly =>
    exact StaysOrLeaves.of_runner
      (staysOrLeaves_replying hreplying hsent (hcount.of_onlyDisturbs honly)) haction
  | stops haction hreplying hinbound hmetrics outcome =>
    refine StaysOrLeaves.of_runner ?_ haction
    have hqueue : r.queue = _ := congrArg (Option.elim · [] Inbound.queue) hinbound.symm
    rw [hqueue]
    exact staysOrLeaves_stop hreplying hsent (hcount.of_same hinbound hmetrics) outcome

/-! ## Opening -/

/-- Where nothing is received, nothing was read, taken or lost. -/
theorem IncomingCounted.of_none {inbound : Option Inbound} {metrics : Metrics}
    (h : IncomingCounted inbound metrics bytes close taken lost) (hinbound : inbound = none) :
    bytes = [] ∧ close = none ∧ taken = [] ∧ lost = [] ∧ Inbound.Counted metrics 0 [] := by
  cases h with
  | unopened _ hbytes hclose htaken hlost hcounted =>
    exact ⟨hbytes, hclose, htaken, hlost, hcounted⟩
  | opened i hsome => cases hinbound.symm.trans hsome

/-- A run that was given up is at rest, and has sent nothing. -/
theorem GivenUp.notAnswering {metrics : Metrics} (h : GivenUp client metrics r) :
    NotAnswering client [] [] r where
  resting := h.resting
  left := by rw [isConsumed, h.inbound]; rfl
  scriptSent := ⟨true, scriptSent_registration h.written_prefix, by rw [h.pump]; rfl⟩
  unopened _ := h.inbound
  opened hpump := absurd h.pump hpump

/-- When the registration was sent the pump is started, or receiving cannot be. -/
theorem Registered.accounted (h : Registered client frame r)
    (hcount : HistoryCounted client [] none [frame] [] [] r) :
    Accounted client [] none [frame] [] [] r.settle := by
  obtain ⟨o, ho, hidle⟩ := h.idle
  obtain ⟨⟨hnone, hsame, -, hstill⟩, hreturn⟩ := startReceiving_spec h.phase h.reader
  rcases h.settle_cases with ⟨hallow, hcrash⟩ | ⟨hallow, hserve, hwaiting⟩
  · have hinbound : r.session.startReceiving.inbound = r.session.inbound := by
      rcases hreturn with ⟨-, -, hinbound⟩ | ⟨hother, -⟩
      · exact hinbound
      · cases hallow.symm.trans hother
    have hoff : r.session.startReceiving.inbound = none := hinbound.trans h.inbound
    rw [hcrash]
    refine ⟨.resting ⟨⟨h.client_eq, rfl, by rw [h.pump]; rfl,
      Session.quiet_of_outbound (by rw [hnone]; rfl) (hsame.trans ho) hidle.quiet, rfl⟩, ?_, ?_,
      fun _ => hoff, fun _ => List.cons_ne_nil _ _⟩, hcount.of_same hinbound rfl⟩
    · simp only [isConsumed, hoff, Option.any_none]
    · refine ⟨false, .all (framed_registration h.framed) ?_, by rw [h.pump]; rfl⟩
      rw [List.flatten_singleton]
      exact (Session.written_of_outbound (hsame.trans ho)).trans hidle.written_eq
  · obtain ⟨-, -, -, -, hcounted⟩ := hcount.incoming.of_none h.inbound
    obtain ⟨limit, capacity, hinbound⟩ : ∃ limit capacity,
        r.session.startReceiving.inbound = some (.start limit capacity) := by
      rcases hreturn with ⟨hother, -⟩ | ⟨-, -, -, hinbound⟩
      · cases hallow.symm.trans hother
      · exact ⟨_, _, hinbound⟩
    have hstarted : HistoryCounted client [] none [frame] [] [] { r with
        session := r.session.startReceiving
        pump := some .waiting
        stage := .crashed } :=
      ⟨hcount.outgoing, .opened _ hinbound (Inbound.itemsAccounted_start limit capacity hcounted)⟩
    have hempty : { r with
        session := r.session.startReceiving
        pump := some .waiting
        stage := .crashed }.queue = [] := by
      simp only [queue, hinbound]
      rfl
    rw [hserve]
    rcases serve_cases (r := { r with session := r.session.startReceiving })
      (hstill.trans h.writer) with ⟨-, hnever⟩ | hlooks
    · rw [hnever]
      exact ⟨.replying (.waiting hwaiting) (List.cons_ne_nil _ _), hstarted⟩
    · rw [hlooks]
      have hlooked := (Replying.waiting hwaiting).lookAtSwitch
        (rfl : Action.heartbeat.isOfRunner = true)
      have hleaves := hlooked.staysOrLeaves (List.cons_ne_nil _ _) hstarted
      rw [hempty] at hleaves
      cases hleaves with
      | stays hnext => exact hnext
      | leaves hnext => exact hnext

/-! ## Any step -/

/-- What a run has sent of its answers. -/
theorem Accounted.scriptSent (h : Accounted client bytes close sent taken lost r) :
    ∃ unsent, ScriptSent (client.script taken) sent r.session.written unsent ∧
      r.pump.all (·.allows unsent) = true := by
  cases h.sendingProgress with
  | connecting switch hrun hsent =>
    subst hrun hsent
    obtain ⟨-, -, rfl, -⟩ := h.historyCounted.incoming.of_none rfl
    exact ⟨true, scriptSent_registration List.nil_prefix, rfl⟩
  | registering hregistering hsent =>
    subst hsent
    obtain ⟨-, -, rfl, -⟩ := h.historyCounted.incoming.of_none hregistering.inbound
    obtain ⟨o, ho, hbusy⟩ := hregistering.busy
    refine ⟨true, scriptSent_registration ?_, by rw [hregistering.pump]; rfl⟩
    rw [Session.written_of_outbound ho]
    exact hbusy.written_prefix.trans hregistering.frame_prefix
  | replying hreplying => exact hreplying.scriptSent
  | resting hsilent => exact hsilent.scriptSent

/-- Items are taken just as long as the pump answers. -/
theorem Accounted.isConsumed_eq (h : Accounted client bytes close sent taken lost r) :
    r.isConsumed = r.pump.any Pump.isLive := by
  cases h.sendingProgress with
  | connecting switch hrun =>
    rw [hrun]
    rfl
  | registering hregistering =>
    rw [isConsumed, hregistering.inbound, hregistering.pump]
    rfl
  | replying hreplying =>
    rw [hreplying.served.isConsumed]
    cases hreplying with
    | waiting h =>
      rw [h.pump]
      rfl
    | sending h =>
      obtain ⟨_, _, _, hpump, -⟩ := h.busy
      rw [hpump]
      rfl
  | resting hsilent => rw [hsilent.left, hsilent.resting.pump]

/-- What happens while the pump does not answer sends and takes nothing that is not there yet. -/
theorem Accounted.of_left (h : Accounted client (bytes ++ action.bytes) (close.or action.close?)
      (sent ++ r.framesSent action) taken lost next)
    (hleft : r.isConsumed = false) (hpump : r.pump ≠ some .waiting) :
    Accounted client (bytes ++ action.bytes) (close.or action.close?)
      (sent ++ r.framesSent action) (taken ++ r.itemsTaken action)
      (lost ++ r.itemsLost next action) next := by
  rwa [itemsTaken_of_pump hpump, itemsLost_of_left hleft, List.append_nil, List.append_nil]

/-- Whatever happens, the counters of a run agree with its history. -/
theorem Accounted.step (h : Accounted client bytes close sent taken lost r)
    (hstep : r.step? action = some next) :
    Accounted client (bytes ++ action.bytes) (close.or action.close?)
      (sent ++ r.framesSent action) (taken ++ r.itemsTaken action)
      (lost ++ r.itemsLost next action) next := by
  have hnothing (haction : action.inbound? = none) : action.bytes = [] ∧ action.close? = none := by
    rw [Action.bytes, Action.close?, haction]
    exact ⟨rfl, rfl⟩
  cases h.sendingProgress with
  | connecting switch hrun hsent =>
    subst hrun hsent
    obtain ⟨rfl, rfl, rfl, rfl, -⟩ := h.historyCounted.incoming.of_none rfl
    obtain ⟨haction, hflush, hnext⟩ := start_step hstep
    refine Accounted.of_left ?_ rfl (by rintro ⟨⟩)
    rw [(hnothing haction).1, (hnothing haction).2, framesSent_of_ne hflush]
    rcases hnext with ⟨switch, rfl⟩ | ⟨frame, hregistering, hmetrics⟩ | hgivenUp
    · exact ⟨.connecting switch rfl rfl, h.historyCounted.of_same rfl rfl⟩
    · exact ⟨.registering hregistering rfl, h.historyCounted.of_same hregistering.inbound hmetrics⟩
    · exact ⟨.resting hgivenUp.notAnswering,
        h.historyCounted.of_same hgivenUp.inbound hgivenUp.metrics_eq⟩
  | registering hregistering hsent =>
    subst hsent
    have hnone := hregistering.inbound
    obtain ⟨rfl, rfl, rfl, rfl, -⟩ := h.historyCounted.incoming.of_none hnone
    obtain ⟨haction, hnext⟩ := hregistering.step hstep
    refine Accounted.of_left ?_ (by rw [isConsumed, hnone]; rfl)
      (by rw [hregistering.pump]; rintro ⟨⟩)
    rw [(hnothing haction).1, (hnothing haction).2]
    cases hnext with
    | waits hwaits hmetrics hflush =>
      rw [framesSent_of_ne hflush]
      exact ⟨.registering hwaits rfl,
        h.historyCounted.of_same (hwaits.inbound.trans hnone.symm) hmetrics⟩
    | sent hsent hmetrics =>
      obtain ⟨o, ho, hbusy⟩ := hregistering.busy
      rw [framesSent_of_busy ho hbusy]
      exact hsent.accounted (h.historyCounted.send (hsent.inbound.trans hnone.symm) hmetrics)
    | givenUp hgivenUp hflush =>
      rw [framesSent_of_ne hflush]
      exact ⟨.resting hgivenUp.notAnswering,
        h.historyCounted.of_same (hgivenUp.inbound.trans hnone.symm) hgivenUp.metrics_eq⟩
  | replying hreplying hsent =>
    cases (hreplying.next_of_step? hstep).staysOrLeaves hsent h.historyCounted with
    | stays hnext hconsumed =>
      rw [itemsLost_of_consumed hconsumed, List.append_nil]
      exact hnext
    | leaves hnext hleft =>
      have hlost : r.itemsLost next action = r.queue.drop (r.itemsTaken action).length := by
        rw [itemsLost, hreplying.served.isConsumed, hleft]
        rfl
      rw [hlost]
      exact hnext
  | resting hsilent =>
    have hwaiting : r.pump ≠ some .waiting := by
      intro hpump
      have hdead := hsilent.resting.pump
      rw [hpump] at hdead
      cases hdead
    refine Accounted.of_left ?_ hsilent.left hwaiting
    cases haction : action.inbound? with
    | none =>
      have hstays := hsilent.resting.goesOn haction hstep
      rw [(hnothing haction).1, (hnothing haction).2,
        framesSent_of_ne (hsilent.resting.action_ne_flush hstep), List.append_nil, List.append_nil,
        Option.or_none]
      exact ⟨.resting (hsilent.of_staysResting hstays),
        h.historyCounted.of_onlyDisturbs hstays.onlyDisturbs⟩
    | some a =>
      obtain ⟨hitems, hleave, -⟩ := itemsTaken_of_inbound? haction
      have hnext := onSession?_of_inbound? haction hstep
      rw [(nothing_of_inbound? haction).1, List.append_nil, Action.bytes, Action.close?, haction]
      exact ⟨.resting (hsilent.inbound hnext), h.historyCounted.inbound hitems hleave hnext⟩

end Run

end Courier
