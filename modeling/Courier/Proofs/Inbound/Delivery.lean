import Courier.Inbound
import Courier.Proofs.Frame.Reassembly

/-!
# Delivery of inbound items

Receiving is told by what it has read. While it waits for bytes it has put the items of all payloads
in them into its queue, and holds the rest; while it waits for room it has put there all but the one
that waits; and when it has ended it put there some of them from the first on, and all of them if
nobody interfered (`Tracks`). Every step keeps this.
-/

namespace Courier

open Courier.Frame

namespace Inbound

/-- The items that a stream holds. -/
def items (limit : Nat) (bytes : Bytes) : List Item :=
  (parse limit bytes).payloads.map Envelope.decode

/-- How a stream comes to its end. -/
inductive Close where
  | streamEnd
  | failure (reason : String)
deriving DecidableEq, Repr

/-- What the end of a stream means for receiving, of which some bytes are left. -/
def Close.outcome (rest : Bytes) : Close → Except Failure Unit
  | .streamEnd => if rest = [] then .ok () else .error (.incompleteFrame rest.length)
  | .failure reason => .error (.connection (.unreadable reason))

/-- The bytes that an action reads. -/
def Action.bytes : Action → Bytes
  | .read chunk => chunk
  | _ => []

/-- The end that an action brings. -/
def Action.close? : Action → Option Close
  | .readEnd => some .streamEnd
  | .readFailure reason => some (.failure reason)
  | _ => none

/-- Whether an action brings bytes, or the end of the stream. -/
def Action.isInput : Action → Bool
  | .read _ | .readEnd | .readFailure _ => true
  | _ => false

/-- Whether a rest explains how receiving has ended: a length is refused in front of it, or the
stream has come to its end. -/
def IsEnd (limit : Nat) (rest : Bytes) (outcome : Except Failure Unit) : Option Close → Prop
  | none => ∃ length, refused? limit rest = some length ∧
      outcome = .error (.frameTooLarge length limit)
  | some c => refused? limit rest = none ∧ outcome = c.outcome rest

/-- What receiving has done with the bytes that were read, after which the stream may have come to
an end. -/
def Tracks (r : Inbound) (bytes : Bytes) (close : Option Close) : Prop :=
  match r.stage with
  | .reading =>
    ∃ payloads, r.buffer.Cuts bytes payloads ∧ r.delivered = payloads.map Envelope.decode ∧
      IsStuck r.buffer.limit r.buffer.bytes ∧ refused? r.buffer.limit r.buffer.bytes = none ∧
        close = none
  | .delivering item =>
    ∃ payloads payload, r.buffer.Cuts bytes (payloads ++ [payload]) ∧
      r.delivered = payloads.map Envelope.decode ∧ item = Envelope.decode payload ∧ close = none
  | .ended outcome =>
    r.delivered <+: items r.buffer.limit bytes ∧
      (r.disturbed = false → r.consumed = true →
        ∃ payloads, r.buffer.Cuts bytes payloads ∧ r.delivered = payloads.map Envelope.decode ∧
          IsStuck r.buffer.limit r.buffer.bytes ∧
          IsEnd r.buffer.limit r.buffer.bytes outcome close)

variable {r next : Inbound} {metrics later : Metrics} {action : Action} {bytes : Bytes}
  {close : Option Close} {payloads : List Bytes}

/-- Payloads that were cut off give the first items of the stream. -/
theorem map_decode_prefix {buffer : FrameBuffer}
    (h : buffer.Cuts bytes payloads) :
    payloads.map Envelope.decode <+: items buffer.limit bytes := by
  rw [items, h.whole, parse_layouts_append _ _ h.fits, List.map_append]
  exact List.prefix_append _ _

/-- While bytes are waited for, all payloads in what was read were cut off. -/
theorem Tracks.reading (h : r.Tracks bytes close) (hreading : r.isReading = true) :
    ∃ payloads, r.buffer.Cuts bytes payloads ∧ r.delivered = payloads.map Envelope.decode ∧
      IsStuck r.buffer.limit r.buffer.bytes ∧ refused? r.buffer.limit r.buffer.bytes = none ∧
      close = none := by
  rwa [Tracks, (isReading_iff.1 hreading).1] at h

/-- Who takes part matters only as long as nobody interferes. -/
theorem Tracks.of_same (h : r.Tracks bytes close) (hstage : next.stage = r.stage)
    (hbuffer : next.buffer = r.buffer) (hdelivered : next.delivered = r.delivered)
    (hundisturbed : next.disturbed = false → r.disturbed = false)
    (hconsumed : next.consumed = true → r.consumed = true) : next.Tracks bytes close := by
  unfold Tracks at h ⊢
  rw [hstage, hbuffer, hdelivered]
  split at h
  · exact h
  · exact h
  · exact ⟨h.1, fun hn hc => h.2 (hundisturbed hn) (hconsumed hc)⟩

/-- Whatever happened, what was put into the queue are the first items of what was read. -/
theorem Tracks.delivered_prefix (h : r.Tracks bytes close) :
    r.delivered <+: items r.buffer.limit bytes := by
  unfold Tracks at h
  split at h
  · obtain ⟨payloads, hcuts, hdelivered, -⟩ := h
    exact hdelivered ▸ map_decode_prefix hcuts
  · obtain ⟨payloads, payload, hcuts, hdelivered, -⟩ := h
    have hpre := map_decode_prefix hcuts
    rw [List.map_append] at hpre
    exact hdelivered ▸ (List.prefix_append _ _).trans hpre
  · exact h.1

/-! ## Handing on -/

/-- Handing on frames touches neither the limits nor who takes part. -/
theorem deliver_frame (r : Inbound) (metrics : Metrics) :
    (r.deliver metrics).1.buffer.limit = r.buffer.limit ∧
      (r.deliver metrics).1.capacity = r.capacity ∧
      (r.deliver metrics).1.consumed = r.consumed ∧
      (r.deliver metrics).1.disturbed = r.disturbed := by
  fun_induction deliver r metrics with
  | case1 => exact ⟨rfl, rfl, rfl, rfl⟩
  | case2 => exact ⟨rfl, rfl, rfl, rfl⟩
  | case3 r metrics payload buffer hnext =>
    exact ⟨(FrameBuffer.layout_append_of_next hnext).2.2, rfl, rfl, rfl⟩
  | case4 r metrics payload buffer hnext item counted _ _ ih =>
    have hlimit := (FrameBuffer.layout_append_of_next hnext).2.2
    exact ⟨ih.1.trans hlimit, ih.2.1, ih.2.2.1, ih.2.2.2⟩
  | case5 r metrics payload buffer hnext =>
    exact ⟨(FrameBuffer.layout_append_of_next hnext).2.2, rfl, rfl, rfl⟩

/-- Handing on frames goes on where the payloads so far leave off. -/
theorem deliver_tracks (r : Inbound) (metrics : Metrics)
    (hcuts : r.buffer.Cuts bytes payloads)
    (hdelivered : r.delivered = payloads.map Envelope.decode) :
    (r.deliver metrics).1.Tracks bytes none := by
  fun_induction deliver r metrics generalizing payloads with
  | case1 r metrics fault hnext =>
    obtain ⟨length, hrefused, rfl⟩ := (FrameBuffer.next_eq_error_iff _ _).1 hnext
    refine ⟨hdelivered ▸ map_decode_prefix hcuts, ?_⟩
    intro _ _
    exact ⟨payloads, hcuts, hdelivered, isStuck_of_refused? hrefused, length, hrefused, rfl⟩
  | case2 r metrics hnext =>
    obtain ⟨hstuck, hrefused⟩ := (FrameBuffer.next_eq_none_iff _).1 hnext
    exact ⟨payloads, hcuts, hdelivered, hstuck, hrefused, rfl⟩
  | case3 r metrics payload buffer hnext =>
    rename_i hleft
    constructor
    · have hpre := map_decode_prefix (hcuts.next hnext)
      rw [List.map_append] at hpre
      exact hdelivered ▸ (List.prefix_append _ _).trans hpre
    · intro _ hconsumed
      have hpresent : r.consumed = true := hconsumed
      simp [hpresent] at hleft
  | case4 r metrics payload buffer hnext =>
    rename_i item _ _ _ ih
    exact ih (hcuts.next hnext) (by simp [hdelivered, item])
  | case5 r metrics payload buffer hnext =>
    exact ⟨payloads, payload, hcuts.next hnext, hdelivered, rfl, rfl⟩

/-! ## Steps -/

/-- What a step of receiving can be. -/
inductive Step (r : Inbound) (metrics : Metrics) : Action → Inbound → Metrics → Prop where
  | read (chunk : Bytes) (hreading : r.isReading = true) (hchunk : chunk ≠ [])
      (hlength : chunk.length ≤ chunkLength) :
    Step r metrics (.read chunk)
      ({ r with buffer := r.buffer.extend chunk }.deliver (metrics.countRead chunk.length)).1
      ({ r with buffer := r.buffer.extend chunk }.deliver (metrics.countRead chunk.length)).2
  | close {action : Action} (c : Close) (hreading : r.isReading = true)
      (haction : action.close? = some c) :
    Step r metrics action (r.finish (c.outcome r.buffer.bytes)) metrics
  | stop (hopen : r.outcome? = none) (hstopped : r.disturbed = true ∨ r.consumed = false) :
    Step r metrics .resume (r.finish (.ok ())) metrics
  | deliver (item : Item) (hstage : r.stage = .delivering item) (hundisturbed : r.disturbed = false)
      (hconsumed : r.consumed = true) (hroom : r.hasRoom = true) :
    Step r metrics .resume ((r.enqueue item).deliver metrics).1 ((r.enqueue item).deliver metrics).2
  | take (item : Item) (rest : List Item) (hqueue : r.queue = item :: rest)
      (hconsumed : r.consumed = true) : Step r metrics .take { r with queue := rest } metrics
  | leave : Step r metrics .leave { r with queue := [], consumed := false } metrics
  | disturb : Step r metrics .disturb { r with disturbed := true } metrics

/-- An action that brings the end reads no bytes. -/
theorem Action.bytes_of_close? {c : Close} (h : action.close? = some c) :
    action.bytes = [] := by
  cases action <;> first | rfl | cases h

/-- The end of a stream is judged by what is left in the buffer. -/
theorem mapError_finish (buffer : FrameBuffer) :
    buffer.finish.mapError Fault.failure = Close.streamEnd.outcome buffer.bytes := by
  simp only [FrameBuffer.finish, Close.outcome, FrameBuffer.buffered]
  cases buffer.bytes <;> rfl

/-- Nothing else can happen to receiving. -/
theorem step_of_step? (h : r.step? metrics action = some (next, later)) :
    r.Step metrics action next later := by
  cases action with
  | read chunk =>
    simp only [step?, Option.ite_none_right_eq_some, Bool.and_eq_true, Bool.not_eq_true',
      List.isEmpty_eq_false_iff, decide_eq_true_eq, Option.some.injEq] at h
    obtain ⟨⟨⟨hreading, hchunk⟩, hlength⟩, h⟩ := h
    obtain ⟨rfl, rfl⟩ := Prod.ext_iff.1 h
    exact .read chunk hreading hchunk hlength
  | readEnd =>
    simp only [step?, Option.ite_none_right_eq_some] at h
    obtain ⟨hreading, h⟩ := h
    rw [mapError_finish] at h
    cases h
    exact .close .streamEnd hreading rfl
  | readFailure reason =>
    simp only [step?, Option.ite_none_right_eq_some] at h
    obtain ⟨hreading, h⟩ := h
    cases h
    exact .close (.failure reason) hreading rfl
  | resume =>
    simp only [step?, resume?] at h
    split at h
    · rename_i hstage
      split at h <;> cases h
      exact .stop (by simp [outcome?, hstage]) (Or.inl ‹_›)
    · rename_i item hstage
      split at h
      · rename_i hstopped
        cases h
        exact .stop (by simp [outcome?, hstage]) (by simpa using hstopped)
      · rename_i hgoing
        simp only [Option.ite_none_right_eq_some, Option.some.injEq] at h
        obtain ⟨rfl, rfl⟩ := Prod.ext_iff.1 h.2
        simp only [Bool.or_eq_true, Bool.not_eq_true', not_or, Bool.not_eq_true,
          Bool.not_eq_false] at hgoing
        exact .deliver item hstage hgoing.1 hgoing.2 h.1
    · cases h
  | take =>
    simp only [step?] at h
    split at h
    · cases h
    · split at h <;> cases h
      exact .take _ _ ‹_› ‹_›
  | leave =>
    cases h
    exact .leave
  | disturb =>
    cases h
    exact .disturb

/-- Bytes and the end of a stream come only while bytes are waited for. -/
theorem Step.isReading (hstep : r.Step metrics action next later) (h : action.isInput = true) :
    r.isReading = true := by
  cases hstep with
  | read chunk hreading => exact hreading
  | close c hreading => exact hreading
  | _ => cases h

/-- Every step keeps to what was read, and to how the stream came to its end. -/
theorem Step.tracks (hstep : r.Step metrics action next later) (h : r.Tracks bytes close) :
    next.Tracks (bytes ++ action.bytes) (close.or action.close?) := by
  have hquiet {t : Inbound} (ht : t.Tracks bytes close) (hbytes : action.bytes = [])
      (hclose : action.close? = none) :
      t.Tracks (bytes ++ action.bytes) (close.or action.close?) := by
    rwa [hbytes, hclose, List.append_nil, Option.or_none]
  cases hstep with
  | read chunk hreading =>
    obtain ⟨payloads, hcuts, hdelivered, -, -, rfl⟩ := h.reading hreading
    exact deliver_tracks _ _ (hcuts.extend chunk) hdelivered
  | close c hreading haction =>
    obtain ⟨payloads, hcuts, hdelivered, hstuck, hrefused, rfl⟩ := h.reading hreading
    rw [Action.bytes_of_close? haction, haction, List.append_nil]
    refine ⟨hdelivered ▸ map_decode_prefix hcuts, ?_⟩
    intro _ _
    exact ⟨payloads, hcuts, hdelivered, hstuck, hrefused, rfl⟩
  | stop _ hstopped =>
    refine hquiet ⟨h.delivered_prefix, ?_⟩ rfl rfl
    intro hundisturbed hconsumed
    have hquiet : r.disturbed = false := hundisturbed
    have hpresent : r.consumed = true := hconsumed
    simp [hquiet, hpresent] at hstopped
  | deliver item hstage =>
    simp only [Tracks, hstage] at h
    obtain ⟨payloads, payload, hcuts, hdelivered, rfl, rfl⟩ := h
    exact hquiet (deliver_tracks _ _ hcuts (by simp [hdelivered])) rfl rfl
  | take item rest => exact hquiet (h.of_same rfl rfl rfl id id) rfl rfl
  | leave =>
    exact hquiet (h.of_same rfl rfl rfl id fun hconsumed => by cases hconsumed) rfl rfl
  | disturb =>
    exact hquiet (h.of_same rfl rfl rfl (fun hundisturbed => by cases hundisturbed) id) rfl rfl

/-- Steps leave the limits alone, and who takes part changes only by what says so. -/
theorem Step.frame (hstep : r.Step metrics action next later) :
    next.buffer.limit = r.buffer.limit ∧ next.capacity = r.capacity ∧
      (next.consumed = r.consumed ∨ action = .leave) ∧
      (next.disturbed = r.disturbed ∨ action = .disturb) := by
  cases hstep with
  | read chunk =>
    obtain ⟨hlimit, hcapacity, hconsumed, hdisturbed⟩ := deliver_frame
      { r with buffer := r.buffer.extend chunk } (metrics.countRead chunk.length)
    exact ⟨hlimit, hcapacity, Or.inl hconsumed, Or.inl hdisturbed⟩
  | deliver item =>
    obtain ⟨hlimit, hcapacity, hconsumed, hdisturbed⟩ := deliver_frame (r.enqueue item) metrics
    exact ⟨hlimit, hcapacity, Or.inl hconsumed, Or.inl hdisturbed⟩
  | close => exact ⟨rfl, rfl, Or.inl rfl, Or.inl rfl⟩
  | stop => exact ⟨rfl, rfl, Or.inl rfl, Or.inl rfl⟩
  | take => exact ⟨rfl, rfl, Or.inl rfl, Or.inl rfl⟩
  | leave => exact ⟨rfl, rfl, Or.inr rfl, Or.inl rfl⟩
  | disturb => exact ⟨rfl, rfl, Or.inl rfl, Or.inr rfl⟩

end Inbound

end Courier
