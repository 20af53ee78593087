import Courier.Proofs.Client.Schedule
import Courier.Proofs.Inbound.ItemsAccounted

/-!
# What is counted in a run

A run counts three things: what its session receives, the frames that were flushed, and the answers
that the dispatcher gave. So two accounts cover all its counters, one of what was sent and answered
(`OutgoingCounted`) and one of what was received (`IncomingCounted`). What the runner does leaves
both alone, but for closing, which disturbs receiving (`OnlyDisturbs`), and for the end of the pump,
which loses what is left in the queue (`IncomingCounted.leave`).
-/

namespace Courier

namespace Run

variable {client : Client} {bytes : Bytes} {close : Option Inbound.Close}
  {taken lost : List Inbound.Item} {sent : List Bytes} {replies : List Envelope}
  {metrics later : Metrics} {inbound : Option Inbound} {written : Bytes} {r next : Run}

/-! ## What was sent and answered -/

/-- The counters of what went out tell the frames that were sent, and those of answers tell how many
there were of each subject. -/
structure OutgoingCounted (metrics : Metrics) (sent : List Bytes) (replies : List Envelope) :
    Prop where
  frames : metrics.frames.get Metrics.outbound = sent.length.toUInt64
  bytes : metrics.bytes.get Metrics.outbound = sent.flatten.length.toUInt64
  answers (subject : String) : metrics.answers.get [("outcome", subject)] =
    (replies.countP (·.subject = subject)).toUInt64

/-- Nothing is sent or answered at first. -/
theorem outgoingCounted_zero : OutgoingCounted .zero [] [] := ⟨rfl, rfl, fun _ => rfl⟩

/-- What was sent and answered does not hang on what is received. -/
theorem OutgoingCounted.of_sameOutgoing (h : OutgoingCounted metrics sent replies)
    (hsame : Inbound.SameOutgoing metrics later) : OutgoingCounted later sent replies :=
  ⟨hsame.frames.trans h.frames, hsame.bytes.trans h.bytes,
    fun subject => hsame.answers ▸ h.answers subject⟩

/-- A frame that was flushed is counted with its length. -/
theorem OutgoingCounted.send (h : OutgoingCounted metrics sent replies) (frame : Bytes) :
    OutgoingCounted (metrics.countSent frame.length) (sent ++ [frame]) replies where
  frames := by
    rw [Metrics.frames_countSent, Counters.get_add_self, h.frames, List.length_append]
    exact (UInt64.ofNat_add sent.length 1).symm
  bytes := by
    rw [Metrics.bytes_countSent, Counters.get_add_self, h.bytes, List.flatten_append,
      List.flatten_singleton, List.length_append]
    exact (UInt64.ofNat_add sent.flatten.length frame.length).symm
  answers subject := by simpa using h.answers subject

/-- An answer is counted under its subject. -/
theorem OutgoingCounted.reply (h : OutgoingCounted metrics sent replies) (reply : Envelope) :
    OutgoingCounted (metrics.countReply (some reply)) sent (replies ++ [reply]) where
  frames := h.frames
  bytes := h.bytes
  answers subject := by
    rw [Metrics.countReply, Metrics.answers_countAnswer, Counters.get_add_singleton, h.answers,
      List.countP_append, List.countP_singleton]
    by_cases hsubject : reply.subject = subject
    · rw [if_pos (by rw [hsubject]), if_pos (decide_eq_true hsubject)]
      exact (UInt64.ofNat_add _ 1).symm
    · rw [if_neg (by simpa using hsubject), if_neg (by simpa using hsubject), Nat.add_zero]

/-! ## What was received -/

/-- The counters of what came in tell who has it, once there is somebody to receive it. -/
inductive IncomingCounted (inbound : Option Inbound) (metrics : Metrics) (bytes : Bytes)
    (close : Option Inbound.Close) (taken lost : List Inbound.Item) : Prop where
  | unopened (hinbound : inbound = none) (hbytes : bytes = []) (hclose : close = none)
      (htaken : taken = []) (hlost : lost = []) (hcounted : Inbound.Counted metrics 0 [])
  | opened (i : Inbound) (hinbound : inbound = some i)
      (h : i.ItemsAccounted metrics bytes close taken lost)

/-- Frames that go out and answers are counted apart from what comes in. -/
theorem IncomingCounted.of_counted (h : IncomingCounted inbound metrics bytes close taken lost)
    (hsame : ∀ length seen, Inbound.Counted metrics length seen →
      Inbound.Counted later length seen) :
    IncomingCounted inbound later bytes close taken lost := by
  cases h with
  | unopened hinbound hbytes hclose htaken hlost hcounted =>
    exact .unopened hinbound hbytes hclose htaken hlost (hsame 0 [] hcounted)
  | opened i hinbound h => exact .opened i hinbound (h.of_counted (hsame _))

/-- A frame that was flushed is nothing that came in. -/
theorem IncomingCounted.send (h : IncomingCounted inbound metrics bytes close taken lost)
    (length : Nat) :
    IncomingCounted inbound (metrics.countSent length) bytes close taken lost :=
  h.of_counted fun _ _ hcounted =>
    ⟨by simpa using hcounted.bytes, by simpa using hcounted.frames,
      by simpa using hcounted.undecoded⟩

/-- An answer is nothing that came in. -/
theorem IncomingCounted.reply (h : IncomingCounted inbound metrics bytes close taken lost)
    (reply : Option Envelope) :
    IncomingCounted inbound (metrics.countReply reply) bytes close taken lost :=
  h.of_counted fun _ _ hcounted => by
    cases reply <;> exact ⟨hcounted.bytes, hcounted.frames, hcounted.undecoded⟩

/-- What happens to receiving passes items on. -/
theorem IncomingCounted.step (h : IncomingCounted inbound metrics bytes close taken lost)
    {i after : Inbound}
    {a : Inbound.Action} (hinbound : inbound = some i) (hstep : i.Step metrics a after later) :
    IncomingCounted (some after) later (bytes ++ a.bytes) (close.or a.close?)
      (taken ++ i.itemsTaken a)
      (lost ++ i.itemsLost a) := by
  cases h with
  | unopened hnone => cases hnone.symm.trans hinbound
  | opened j hj h =>
    obtain rfl : j = i := Option.some.inj (hj.symm.trans hinbound)
    exact .opened after rfl (h.step hstep)

/-- What disturbs receiving passes nothing on. -/
theorem IncomingCounted.disturb (h : IncomingCounted inbound metrics bytes close taken lost) :
    IncomingCounted (inbound.map fun i => { i with disturbed := true }) metrics bytes close
      taken lost := by
  cases h with
  | unopened hinbound hbytes hclose htaken hlost hcounted =>
    exact .unopened (by rw [hinbound]; rfl) hbytes hclose htaken hlost hcounted
  | opened i hinbound h =>
    have hnext := h.step Inbound.Step.disturb
    simp only [Inbound.Action.bytes, Inbound.Action.close?, Inbound.itemsTaken, Inbound.itemsLost,
      List.append_nil, Option.or_none] at hnext
    exact .opened _ (by rw [hinbound]; rfl) hnext

/-- The items that wait in the queue. -/
def queue (r : Run) : List Inbound.Item := r.session.inbound.elim [] Inbound.queue

/-- Where nobody takes items any more, those in the queue are lost. -/
theorem IncomingCounted.leave
    (h : IncomingCounted r.session.inbound metrics bytes close taken lost) :
    IncomingCounted (r.session.inbound.map fun i => { i with queue := [], consumed := false })
      metrics bytes
      close taken (lost ++ r.queue) := by
  cases h with
  | unopened hinbound hbytes hclose htaken hlost hcounted =>
    refine .unopened (by rw [hinbound]; rfl) hbytes hclose htaken ?_ hcounted
    rw [hlost, queue, hinbound]
    rfl
  | opened i hinbound h =>
    have hnext := h.step Inbound.Step.leave
    simp only [Inbound.Action.bytes, Inbound.Action.close?, Inbound.itemsTaken, Inbound.itemsLost,
      List.append_nil, Option.or_none] at hnext
    rw [queue, hinbound]
    exact .opened _ rfl hnext

/-- What at most disturbs receiving passes no items on. -/
theorem IncomingCounted.of_onlyDisturbs
    (h : IncomingCounted r.session.inbound r.metrics bytes close taken lost)
    (honly : OnlyDisturbs r next) :
    IncomingCounted next.session.inbound next.metrics bytes close taken lost := by
  rw [honly.metrics]
  rcases honly.inbound with hsame | hdisturbed
  · rw [hsame]
    exact h
  · rw [hdisturbed]
    exact h.disturb

end Run

end Courier
