import Courier.Proofs.Outbound.Step

/-!
# One sender at a time

Where sends follow each other, so that one begins only when the last is over, the sending side is
idle, or busy with one frame, or quiet for good. This says how it goes from one to the other.
-/

namespace Courier

namespace Outbound

/-- Nobody holds the sink, and nobody waits for it. -/
structure Quiet (o : Outbound) : Prop where
  active : o.active = none
  waiting : o.waiting = []

/-- Nothing is being sent, and the next send may go ahead. -/
structure Idle (o : Outbound) (written : Bytes) (count : Nat) : Prop where
  attached : o.attached = true
  not_cancelled : o.cancelled = false
  quiet : o.Quiet
  written_eq : o.written = written
  finished (number : Nat) (result : Except Failure Unit) (h : (number, result) ∈ o.finished) :
    number < count

/-- One frame is being sent. -/
structure Busy (o : Outbound) (before frame : Bytes) (number : Nat) : Prop where
  attached : o.attached = true
  not_cancelled : o.cancelled = false
  waiting : o.waiting = []
  holds : ∃ subject taken, o.active = some ⟨⟨number, subject, frame⟩, taken⟩ ∧
    taken ≤ frame.length ∧ o.written = before ++ frame.take taken
  finished (n : Nat) (result : Except Failure Unit) (h : (n, result) ∈ o.finished) : n < number

variable {o next : Outbound} {metrics counted : Metrics} {action : Action}

/-! ## Results -/

/-- What was not noted has no result. -/
theorem result?_eq_none {number : Nat} (h : ∀ n result, (n, result) ∈ o.finished → n < number) :
    o.result? number = none := by
  apply List.lookup_eq_none_iff.2
  intro entry hentry
  have hlt := h entry.1 entry.2 hentry
  simp only [bne_iff_ne, ne_eq]
  omega

/-- The first result that is noted stands. -/
theorem result?_finish_self {number : Nat} (h : o.result? number = none)
    (result : Except Failure Unit) :
    (o.finish number result).result? number = some result := by
  rw [result?_finish, h, Option.none_or, if_pos rfl]

/-- What is not known has no result. -/
theorem result?_of_isKnown_eq_false {number : Nat} (h : o.isKnown number = false) :
    o.result? number = none := by
  simp only [isKnown, Bool.or_eq_false_iff, Option.isSome_eq_false_iff,
    Option.isNone_iff_eq_none] at h
  exact h.2

/-- A send with a new number can begin. -/
theorem exists_step?_send {number : Nat} (h : o.isKnown number = false) (metrics : Metrics)
    (e : Envelope) : ∃ after, o.step? metrics (.send number e) = some (after, metrics) := by
  simp only [step?, h, Bool.false_eq_true, if_false]
  split
  · exact ⟨_, rfl⟩
  · exact ⟨_, rfl⟩

/-- A send is not done when it begins, unless it fails. -/
theorem Step.result?_of_send {number : Nat} {e : Envelope}
    (hstep : o.Step metrics (.send number e) next counted) :
    next.result? number = none ∨ ∃ failure, next.result? number = some (.error failure) := by
  cases hstep with
  | reject _ _ fault hnew =>
    exact Or.inr ⟨_, result?_finish_self (result?_of_isKnown_eq_false hnew) _⟩
  | begins w hnew hw hpoll =>
    have hnone : o.result? w.number = none := result?_of_isKnown_eq_false hnew
    simp only [Action.waiter?] at hw
    split at hw
    · cases hw
      cases hpoll with
      | wait => exact Or.inl hnone
      | close s =>
        exact Or.inr ⟨_, result?_finish_self (o := dismiss _ number) hnone _⟩
      | hold => exact Or.inl hnone
    · cases hw

/-! ## Quiet -/

/-- Whether an action is one of the sink itself. -/
def Action.isOfSink : Action → Bool
  | .accept _ | .flush | .refuse _ => true
  | _ => false

/-- The sink does nothing while nobody holds it. -/
theorem Quiet.not_step (h : o.Quiet) (haction : action.isOfSink = true) :
    ¬o.Step metrics action next counted := by
  have hfree {a : Active} (ha : o.active = some a) : False := by cases h.active.symm.trans ha
  intro hstep
  cases hstep with
  | accept a _ hactive => exact hfree hactive
  | flush a hactive => exact hfree hactive
  | refuse a _ hactive => exact hfree hactive
  | begins w _ hw =>
    cases action with
    | send => cases haction
    | shutdown => cases haction
    | _ => cases hw
  | _ => cases haction

/-- Nobody waits long for a sink that nobody holds. -/
theorem Quiet.poll {w : Waiter} (h : o.Quiet) (hsend : ∀ s, w ≠ .send s)
    (hpoll : { o with waiting := o.waiting ++ [w] }.Poll w next) :
    next.Quiet ∧ next.written = o.written := by
  cases hpoll with
  | wait _ hturn => simp [isTurn, h.active, h.waiting] at hturn
  | close s => exact absurd rfl (hsend s)
  | hold s => exact absurd rfl (hsend s)
  | shut number => exact ⟨⟨h.active, by simp [h.waiting]⟩, rfl⟩

/-- Without new sends a quiet sending side stays quiet, and nothing is written. -/
theorem Quiet.step (h : o.Quiet) (hstep : o.Step metrics action next counted)
    (haction : ∀ number e, action ≠ .send number e) : next.Quiet ∧ next.written = o.written := by
  have hfree {a : Active} (ha : o.active = some a) : False := by cases h.active.symm.trans ha
  have hnobody {w : Waiter} (hw : w ∈ o.waiting) : False := by
    rw [h.waiting] at hw
    cases hw
  cases hstep with
  | reject number e => exact absurd rfl (haction number e)
  | begins w _ hw hpoll =>
    refine h.poll ?_ hpoll
    intro s hs
    cases action with
    | send number e => exact haction number e rfl
    | shutdown number =>
      cases hw
      cases hs
    | _ => cases hw
  | look => exact ⟨h, rfl⟩
  | cancel a hactive => exact (hfree hactive).elim
  | poll w hw => exact (hnobody hw).elim
  | accept a _ hactive => exact (hfree hactive).elim
  | flush a hactive => exact (hfree hactive).elim
  | refuse a _ hactive => exact (hfree hactive).elim
  | abandonHolder a hactive => exact (hfree hactive).elim
  | abandonWaiter w hw => exact (hnobody hw).elim
  | turn => exact ⟨⟨h.active, h.waiting⟩, rfl⟩

/-! ## Idle -/

/-- A new number is not known. -/
theorem Idle.isKnown_eq_false {written : Bytes} {count : Nat} (h : o.Idle written count) :
    o.isKnown count = false := by
  rw [isKnown, h.quiet.active, h.quiet.waiting, result?_eq_none h.finished]
  rfl

/-- A send that can be framed gets hold of an idle sink at once. -/
theorem Idle.send {written frame : Bytes} {count : Nat} {e : Envelope} (h : o.Idle written count)
    (hframe : e.toFrame = .ok frame) (metrics : Metrics) :
    ∃ next, o.step? metrics (.send count e) = some (next, metrics) ∧
      next.Busy written frame count := by
  refine ⟨o.enqueue (.send ⟨count, e.subject, frame⟩), by simp [step?, h.isKnown_eq_false, hframe],
    ?_⟩
  have hpoll := poll_pollWaiter { o with waiting := o.waiting ++ [.send ⟨count, e.subject, frame⟩] }
    (.send ⟨count, e.subject, frame⟩)
  unfold enqueue
  generalize pollWaiter _ _ = next at hpoll ⊢
  cases hpoll with
  | wait _ hturn => simp [isTurn, h.quiet.active, h.quiet.waiting] at hturn
  | close _ hclosed => simp [h.not_cancelled, h.attached] at hclosed
  | hold =>
    exact ⟨h.attached, h.not_cancelled, by simp [h.quiet.waiting],
      ⟨e.subject, 0, rfl, Nat.zero_le _, by simp [h.written_eq]⟩, h.finished⟩

/-- A send that cannot be framed is over at once, and nothing is written. -/
theorem Idle.send_unframed {written : Bytes} {count : Nat} {e : Envelope} {fault : Frame.Fault}
    (h : o.Idle written count) (hframe : e.toFrame = .error fault) (metrics : Metrics) :
    ∃ next, o.step? metrics (.send count e) = some (next, metrics) ∧ next.Quiet ∧
      next.written = written ∧ next.result? count = some (.error fault.failure) := by
  refine ⟨o.finish count (.error fault.failure), by simp [step?, h.isKnown_eq_false, hframe],
    ⟨h.quiet.active, h.quiet.waiting⟩, h.written_eq, ?_⟩
  exact result?_finish_self (result?_eq_none h.finished) _

/-! ## Busy -/

/-- The sink has taken no more than the frames up to the one that is being sent. -/
theorem Busy.written_prefix {before frame : Bytes} {number : Nat} (h : o.Busy before frame number) :
    o.written <+: before ++ frame := by
  obtain ⟨_, taken, -, -, hwritten⟩ := h.holds
  rw [hwritten]
  exact List.prefix_append_right_inj _ |>.2 (List.take_prefix _ _)

/-- Bytes that the sink takes belong to the frame. -/
theorem Busy.accept {before frame : Bytes} {number count : Nat} (h : o.Busy before frame number)
    (hstep : o.Step metrics (.accept count) next counted) : next.Busy before frame number := by
  obtain ⟨subject, taken, hactive, -, hwritten⟩ := h.holds
  cases hstep with
  | accept a _ ha _ hcount =>
    obtain rfl := Option.some.inj (ha.symm.trans hactive)
    refine ⟨h.attached, h.not_cancelled, h.waiting, ⟨subject, taken + count, rfl, hcount, ?_⟩,
      h.finished⟩
    simp only [hwritten, List.take_add, List.append_assoc]
  | begins w _ hw => cases hw

/-- A frame that has been flushed was sent, and the next send may go ahead. -/
theorem Busy.flush {before frame : Bytes} {number : Nat} (h : o.Busy before frame number)
    (hstep : o.Step metrics .flush next counted) :
    next.Idle (before ++ frame) (number + 1) ∧ next.result? number = some (.ok ()) := by
  obtain ⟨subject, taken, hactive, -, hwritten⟩ := h.holds
  cases hstep with
  | flush a ha _ htaken =>
    obtain rfl := Option.some.inj (ha.symm.trans hactive)
    obtain rfl : taken = frame.length := htaken
    refine ⟨⟨h.attached, h.not_cancelled, ⟨rfl, h.waiting⟩, by simpa using hwritten, ?_⟩,
      result?_finish_self (o := { o with active := none }) (result?_eq_none h.finished) _⟩
    intro n r hr
    rcases List.mem_append.1 hr with hr | hr
    · have hlt := h.finished n r hr
      omega
    · obtain ⟨rfl, -⟩ := Prod.ext_iff.1 (List.mem_singleton.1 hr)
      exact Nat.lt_succ_self _
  | begins w _ hw => cases hw

/-- A frame that has been flushed is counted with its length. -/
theorem Busy.counted_of_flush {before frame : Bytes} {number : Nat}
    (h : o.Busy before frame number) (hstep : o.Step metrics .flush next counted) :
    counted = metrics.countSent frame.length := by
  obtain ⟨subject, taken, hactive, -⟩ := h.holds
  cases hstep with
  | flush a ha =>
    obtain rfl := Option.some.inj (ha.symm.trans hactive)
    rfl
  | begins w _ hw => cases hw

/-- A frame that the sink refuses is the last. -/
theorem Busy.refuse {before frame : Bytes} {number : Nat} {reason : String}
    (h : o.Busy before frame number) (hstep : o.Step metrics (.refuse reason) next counted) :
    next.Quiet ∧ next.written = o.written ∧
      ∃ failure, next.result? number = some (.error failure) := by
  obtain ⟨subject, taken, hactive, -⟩ := h.holds
  cases hstep with
  | refuse a _ ha =>
    obtain rfl := Option.some.inj (ha.symm.trans hactive)
    exact ⟨⟨rfl, h.waiting⟩, rfl, _,
      result?_finish_self (o := o.detach) (result?_eq_none h.finished) _⟩
  | begins w _ hw => cases hw

/-- Looking again changes nothing while the frame is being sent. -/
theorem Busy.poll {before frame : Bytes} {number n : Nat} (h : o.Busy before frame number)
    (hstep : o.Step metrics (.poll n) next counted) : next = o := by
  generalize haction : Action.poll n = action at hstep
  cases hstep with
  | look => rfl
  | cancel a _ hcancelled => cases h.not_cancelled.symm.trans hcancelled
  | poll w hw =>
    rw [h.waiting] at hw
    cases hw
  | begins w _ hw =>
    subst haction
    cases hw
  | _ => cases haction

/-- The send that holds the sink can look again. -/
theorem Busy.step?_poll {before frame : Bytes} {number : Nat} (h : o.Busy before frame number)
    (metrics : Metrics) : o.step? metrics (.poll number) = some (o, metrics) := by
  obtain ⟨subject, taken, hactive, -⟩ := h.holds
  simp [step?, poll?, hactive, h.not_cancelled, Option.filter]

/-- A frame can be flushed, at once or when the sink has taken the rest of it. -/
theorem Busy.exists_flush {before frame : Bytes} {number : Nat} (h : o.Busy before frame number)
    (metrics : Metrics) :
    (o.step? metrics .flush).isSome = true ∨
      ∃ count full, o.step? metrics (.accept count) = some (full, metrics) ∧
        full.Busy before frame number ∧ (full.step? metrics .flush).isSome = true := by
  obtain ⟨subject, taken, hactive, hle, hwritten⟩ := h.holds
  rcases Nat.eq_or_lt_of_le hle with htaken | hless
  · exact Or.inl (by simp [step?, running?, h.not_cancelled, hactive, htaken])
  · have haccept : o.step? metrics (.accept (frame.length - taken)) = some ({ o with
        written := o.written ++ (frame.drop taken).take (frame.length - taken)
        active := some ⟨⟨number, subject, frame⟩, taken + (frame.length - taken)⟩ }, metrics) := by
      have hpos : 0 < frame.length - taken := Nat.sub_pos_of_lt hless
      have hfits : taken + (frame.length - taken) ≤ frame.length :=
        Nat.le_of_eq (Nat.add_sub_cancel' hle)
      simp [step?, running?, h.not_cancelled, hactive, hpos, hfits]
    refine Or.inr ⟨_, _, haccept, h.accept (step_of_step? haccept), ?_⟩
    simp [step?, running?, h.not_cancelled, Nat.add_sub_cancel' hle]

/-- A send that is given up leaves a quiet sending side. -/
theorem Busy.abandon {before frame : Bytes} {number : Nat} (h : o.Busy before frame number)
    (metrics : Metrics) :
    o.step? metrics (.abandon number) = some ({ o with active := none }, metrics) ∧
      { o with active := none }.Quiet := by
  obtain ⟨subject, taken, hactive, -⟩ := h.holds
  exact ⟨by simp [step?, hactive], rfl, h.waiting⟩

end Outbound

end Courier
