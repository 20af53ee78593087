import Courier.Proofs.Client.Opening
import Courier.Proofs.Steps

/-!
# The order of steps does not matter

Receiving, the pump, the runner and the connection may go on in any order, and what was read may
have come in any pieces. What a client has written is always the beginning of what it has to write
for the bytes that it has read, and all of it when it serves and can go on no further
(`written_eq_wire`).
-/

namespace Courier

namespace Run

/-- The bytes that some actions read. -/
def received (actions : List Action) : Bytes := actions.flatMap Action.bytes

/-- The end that some actions bring. -/
def closed? (actions : List Action) : Option Inbound.Close := actions.findSome? Action.close?

/-- How far a run has come: it connects, it registers, or it goes on from there. -/
inductive Mode (client : Client) (bytes : Bytes) (close : Option Inbound.Close) (faulty : Bool)
    (r : Run) : Prop where
  | connecting (switch : Switch) (hrun : r = start client switch) (hbytes : bytes = [])
      (hclose : close = none)
  | registering {frame : Bytes} (h : Registering client frame r) (hbytes : bytes = [])
      (hclose : close = none)
  | liveOrFinished (h : LiveOrFinished client bytes close faulty r)

variable {client : Client} {bytes : Bytes} {close : Option Inbound.Close}
  {taken : List Inbound.Item}
  {written : List Bytes} {frame : Bytes} {faulty : Bool} {switch : Switch} {actions : List Action}
  {r next : Run}

/-- Whatever happens, a run comes from one mode to the next. -/
theorem Mode.step (h : Mode client bytes close faulty r) (hclean : faulty = false → close = none)
    {action : Action} (hstep : r.step? action = some next) :
    Mode client (bytes ++ action.bytes) (close.or action.close?)
      (faulty || action.isFault) next := by
  have hnothing (haction : action.inbound? = none) : action.bytes = [] ∧ action.close? = none := by
    rw [Action.bytes, Action.close?, haction]
    exact ⟨rfl, rfl⟩
  cases h with
  | connecting switch hrun hbytes hclose =>
    subst hrun hbytes hclose
    obtain ⟨haction, -, hnext⟩ := start_step hstep
    rw [(hnothing haction).1, (hnothing haction).2]
    rcases hnext with ⟨switch, hrun⟩ | ⟨frame, hregistering, -⟩ | hgivenUp
    · exact .connecting switch hrun rfl rfl
    · exact .registering hregistering rfl rfl
    · exact .liveOrFinished (.finished hgivenUp.finished)
  | registering h hbytes hclose =>
    subst hbytes hclose
    obtain ⟨haction, hnext⟩ := h.step hstep
    rw [(hnothing haction).1, (hnothing haction).2]
    cases hnext with
    | waits hregistering => exact .registering hregistering rfl rfl
    | sent hsent => exact .liveOrFinished hsent.liveOrFinished
    | givenUp hgivenUp => exact .liveOrFinished (.finished hgivenUp.finished)
  | liveOrFinished h => exact .liveOrFinished (h.step hclean hstep)

/-- Without faults the stream does not come to its end. -/
theorem closed?_eq_none (h : actions.any Action.isFault = false) : closed? actions = none := by
  apply List.findSome?_eq_none_iff.2
  intro a ha
  have hfaultless : ¬a.isFault = true := List.any_eq_false.1 h a ha
  cases a with
  | readEnd => exact absurd rfl hfaultless
  | readFailure => exact absurd rfl hfaultless
  | _ => rfl

/-- Every run is in one of the modes. -/
theorem mode_of_after? (h : after? step? (start client switch) actions = some r) :
    Mode client (received actions) (closed? actions) (actions.any Action.isFault) r := by
  refine after?_induction (motive := fun actions r =>
    Mode client (received actions) (closed? actions) (actions.any Action.isFault) r)
    (.connecting switch rfl rfl rfl) ?_ h
  intro actions r action next _ hmode hstep
  have hnext := hmode.step closed?_eq_none hstep
  simpa [received, closed?, List.flatMap_append, List.findSome?_append, List.any_append] using hnext

/-! ## Where nothing can happen -/

/-- Where a run can do nothing with what is received, neither can receiving. -/
theorem step?_eq_none_of_onSession? {i : Inbound} (hi : r.session.inbound = some i)
    {action : Inbound.Action} (haction : action ≠ .disturb)
    (h : r.onSession? (.inbound action) = none) : i.step? r.metrics action = none := by
  cases action with
  | disturb => exact absurd rfl haction
  | _ => simpa [onSession?, Session.step?, hi] using h

/-- An answer that is being sent can be looked at again. -/
theorem Sending.pump?_ne_none (h : Sending client bytes close taken written frame r) :
    r.pump? ≠ none := by
  obtain ⟨o, number, ho, hpump, -, hbusy⟩ := h.busy
  simp [Run.pump?, hpump, onSession?, Session.step?, Session.isOwn, h.served.call,
    Session.outbound?, ho, hbusy.step?_poll]

/-- A pump that waits and cannot go on has answered all that was received, and more can be read. -/
theorem Waiting.written_eq (h : Waiting client bytes close taken written r)
    (hreceive : r.step? .receive = none) (hpump : r.step? .pump = none) :
    r.session.written = client.wire bytes ∧
      ∀ chunk, chunk ≠ [] → chunk.length ≤ Inbound.chunkLength → r.step? (.read chunk) ≠ none := by
  obtain ⟨o, ho, hidle⟩ := h.idle
  obtain ⟨i, hi, hreceipt⟩ := h.served.receiving
  have hidles : r.pump? = none := hpump
  simp only [Run.pump?, h.pump, hi] at hidles
  have hqueue : i.queue = [] := by
    cases hcase : i.queue with
    | nil => rfl
    | cons item rest =>
      rw [hcase] at hidles
      have htake : r.onSession? (.inbound .take) = none := by
        cases item with
        | ok e => exact Option.map_eq_none_iff.1 hidles
        | error fault => exact hidles
      have hnone := step?_eq_none_of_onSession? hi Inbound.Action.noConfusion htake
      rw [← hcase]
      exact hreceipt.queue_eq_nil hnone
  have hresume := step?_eq_none_of_onSession? hi Inbound.Action.noConfusion hreceive
  obtain ⟨htaken, hreading | ⟨outcome, houtcome⟩⟩ := hreceipt.of_step?_resume_eq_none hqueue hresume
  · have hitems : taken = client.items bytes := htaken.trans (hreceipt.of_isReading hreading).1
    constructor
    · rw [Session.written_of_outbound ho, hidle.written_eq]
      exact (Client.wire_of_framed (hitems ▸ h.framed)).symm
    · intro chunk hchunk hlength hread
      exact Inbound.step?_read_ne_none hreading hchunk hlength
        (step?_eq_none_of_onSession? hi Inbound.Action.noConfusion hread)
  · simp [hqueue, houtcome] at hidles

/-! ## Any order of steps -/

/-- However the steps of a run follow each other, and however the connection, the switch and the
runner behave, what a client has written is the beginning of what it has to write for the bytes that
it has read. If it serves, nothing went wrong, and neither receiving nor the pump can go on, it has
written all of it, and all that it would have to write for the bytes that can no longer be read. -/
theorem written_eq_wire {client : Client} {switch : Switch} {actions : List Action} {r : Run}
    (h : after? step? (start client switch) actions = some r) :
    r.session.written <+: client.wire (received actions) ∧
    (r.stage = .serving → actions.any Action.isFault = false → r.step? .receive = none →
      r.step? .pump = none → ∀ unread, (∀ chunk, chunk <+: unread → r.step? (.read chunk) = none) →
        r.session.written = client.wire (received actions ++ unread)) := by
  have hmode := mode_of_after? h
  constructor
  · cases hmode with
    | connecting switch hrun =>
      rw [hrun]
      exact List.nil_prefix
    | registering h hbytes =>
      obtain ⟨o, ho, hbusy⟩ := h.busy
      rw [hbytes, Session.written_of_outbound ho]
      exact hbusy.written_prefix.trans h.frame_prefix
    | liveOrFinished h => exact h.written_prefix
  · intro hserving hclean hreceive hpump unread hread
    cases hmode with
    | connecting switch hrun =>
      rw [hrun] at hserving
      cases hserving
    | registering h => cases h.stage.symm.trans hserving
    | liveOrFinished h =>
      cases h with
      | finished h => exact (h.written_eq hserving hclean unread).symm
      | live h =>
        cases h with
        | sending h => exact absurd hpump h.pump?_ne_none
        | waiting h =>
          obtain ⟨hwritten, hready⟩ := h.written_eq hreceive hpump
          cases unread with
          | nil => rw [List.append_nil, hwritten]
          | cons b rest =>
            have hfirst := hread [b] (List.cons_prefix_cons.2 ⟨rfl, List.nil_prefix⟩)
            exact absurd hfirst (hready [b] (List.cons_ne_nil b []) (by simp [Inbound.chunkLength]))

/-- A client that has read a frame without an envelope, in two pieces, a request and a byte of the
next frame has written its registration and the response to the request, and nothing else. -/
theorem written_eq_wire_answered :
    ∃ (request : Bytes) (r : Run), request = Frame.layout
        (Request.toEnvelope ⟨7, "GET", "/a", OrderedMap.empty, "QQ=="⟩ Subject.request).toBytes ∧
      after? step? (start (.echoing "client" ["/a"]) .off)
        [.connected none, .accept 100, .accept 150, .flush, .read [0, 0, 0, 1],
          .read (65 :: request ++ [0]), .pump, .pump, .accept 100, .accept 79, .flush] = some r ∧
      r.metrics.answers.get [("outcome", Subject.response)] = 1 ∧ r.session.written.length = 429 ∧
      r.session.written = Client.wire (.echoing "client" ["/a"])
        ([0, 0, 0, 1, 65] ++ request ++ [0]) := by
  obtain ⟨request, hrequest⟩ : ∃ request, request = Frame.layout
      (Request.toEnvelope ⟨7, "GET", "/a", OrderedMap.empty, "QQ=="⟩ Subject.request).toBytes :=
    ⟨_, rfl⟩
  have hstate : (after? step? (start (.echoing "client" ["/a"]) .off)
      [.connected none, .accept 100, .accept 150, .flush, .read [0, 0, 0, 1],
        .read (65 :: request ++ [0]), .pump, .pump, .accept 100, .accept 79, .flush]).any (fun r =>
          r.metrics.answers.get [("outcome", Subject.response)] = 1 ∧
          r.session.written.length = 429 ∧ (r.whileServing? (some r)).isSome ∧
          (r.step? .receive).isNone ∧ (r.step? .pump).isNone ∧ (r.step? (.read [])).isNone) =
        true := by
    subst hrequest
    decide +kernel
  obtain ⟨r, hr, hstays⟩ := (Option.any_eq_true _ _).1 hstate
  obtain ⟨hanswers, hlength, hserving, hreceive, hpump, hread⟩ := of_decide_eq_true hstays
  obtain ⟨_, hsome⟩ := Option.isSome_iff_exists.1 hserving
  have hwritten := (written_eq_wire hr).2 (whileServing?_eq_some hsome).1 rfl
    (Option.isNone_iff_eq_none.1 hreceive) (Option.isNone_iff_eq_none.1 hpump) []
    fun chunk hchunk => by
      rw [List.prefix_nil.1 hchunk]
      exact Option.isNone_iff_eq_none.1 hread
  refine ⟨request, r, hrequest, hr, hanswers, hlength, ?_⟩
  simpa [received, Action.bytes, Action.inbound?, Inbound.Action.bytes] using hwritten

end Run

end Courier
