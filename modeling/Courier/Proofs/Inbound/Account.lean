import Courier.Proofs.Inbound.Delivery

/-!
# The accounts of receiving

What was put into the queue is what was taken out of it and what is still there. Every item is
counted when it is seen, one that waits for room included, so that the counters tell how many frames
arrived and how many of them held no envelope. Both accounts are kept as long as nobody interferes
(`Undisturbed`, `Counted`).
-/

namespace Courier

open Courier.Frame

namespace Inbound

variable {r next : Inbound} {metrics later : Metrics} {action : Action} {limit length : Nat}
  {bytes : Bytes} {close : Option Close} {taken : List Item}

/-! ## The queue -/

/-- Handing on frames puts items behind those that were there. -/
theorem delivered_prefix_deliver (r : Inbound) (metrics : Metrics) :
    r.delivered <+: (r.deliver metrics).1.delivered := by
  fun_induction deliver r metrics with
  | case4 r metrics payload buffer hnext =>
    rename_i ih
    exact (List.prefix_append _ _).trans ih
  | _ => exact List.prefix_refl _

/-- Steps put items behind those that were there, and take none back. -/
theorem Step.delivered_prefix (hstep : r.Step metrics action next later) :
    r.delivered <+: next.delivered := by
  cases hstep with
  | read chunk => exact delivered_prefix_deliver { r with buffer := r.buffer.extend chunk } _
  | deliver item =>
    exact (List.prefix_append _ _).trans (delivered_prefix_deliver (r.enqueue item) _)
  | _ => exact List.prefix_refl _

/-- An item that waited for room is put into the queue when receiving goes on undisturbed. -/
theorem Step.delivered_lt_of_resume (hstep : r.Step metrics .resume next later)
    (hundisturbed : r.disturbed = false) (hconsumed : r.consumed = true) :
    r.delivered.length < next.delivered.length := by
  cases hstep with
  | close _ _ haction => cases haction
  | stop _ hstopped => simp [hundisturbed, hconsumed] at hstopped
  | deliver item =>
    have hmore := (delivered_prefix_deliver (r.enqueue item) metrics).length_le
    rw [delivered_enqueue, List.length_append, List.length_singleton] at hmore
    exact hmore

/-- Handing on frames loses no item. -/
theorem deliver_queue (r : Inbound) (metrics : Metrics) (h : taken ++ r.queue = r.delivered) :
    taken ++ (r.deliver metrics).1.queue = (r.deliver metrics).1.delivered := by
  fun_induction deliver r metrics with
  | case4 r metrics payload buffer hnext =>
    rename_i ih
    exact ih (by simp [← h])
  | _ => exact h

/-- The items that an action takes out of the queue. -/
def itemsTaken (r : Inbound) : Action → List Item
  | .take => r.queue.take 1
  | _ => []

/-- Taking takes an item. -/
theorem Step.itemsTaken_of_take (hstep : r.Step metrics .take next later) :
    0 < (r.itemsTaken .take).length := by
  cases hstep with
  | close _ _ haction => cases haction
  | take item rest hqueue => simp [itemsTaken, hqueue]

/-- As long as items are taken, each item in the queue was taken or is still there. -/
theorem Step.queue (hstep : r.Step metrics action next later) (hconsumed : next.consumed = true)
    (h : taken ++ r.queue = r.delivered) :
    taken ++ r.itemsTaken action ++ next.queue = next.delivered := by
  cases hstep with
  | read chunk =>
    rw [itemsTaken, List.append_nil]
    · exact deliver_queue _ _ h
    · simp
  | close c _ haction =>
    have htaken : r.itemsTaken action = [] := by
      cases action <;> first | rfl | cases haction
    rw [htaken, List.append_nil]
    exact h
  | stop =>
    simp only [itemsTaken, List.append_nil]
    exact h
  | deliver item =>
    simp only [itemsTaken, List.append_nil]
    exact deliver_queue _ _ (by simp [← h])
  | take item rest hqueue =>
    rw [hqueue] at h
    simpa [itemsTaken, hqueue] using h
  | leave => cases hconsumed
  | disturb => simpa [itemsTaken] using h

/-! ## Undisturbed receiving -/

/-- What receiving keeps while items are taken and nobody interferes. -/
structure Undisturbed (limit : Nat) (bytes : Bytes) (close : Option Close) (taken : List Item)
    (r : Inbound) : Prop where
  limit_eq : r.buffer.limit = limit
  capacity : 1 ≤ r.capacity
  consumed : r.consumed = true
  not_disturbed : r.disturbed = false
  tracks : r.Tracks bytes close
  queue : taken ++ r.queue = r.delivered

/-- At first nothing was read, and the queue is empty. -/
theorem undisturbed_start (limit : Nat) {capacity : Nat} (hcapacity : 1 ≤ capacity) :
    Undisturbed limit [] none [] (start limit capacity) where
  limit_eq := rfl
  capacity := hcapacity
  consumed := rfl
  not_disturbed := rfl
  tracks := ⟨[], ⟨rfl, fun _ hp => absurd hp List.not_mem_nil⟩, rfl, isStuck_nil limit, rfl, rfl⟩
  queue := rfl

/-- Receiving goes on, and items are taken from the front. -/
theorem Undisturbed.step (h : Undisturbed limit bytes close taken r)
    (hstep : r.Step metrics action next later)
    (hleave : action ≠ .leave) (hdisturb : action ≠ .disturb) :
    Undisturbed limit (bytes ++ action.bytes) (close.or action.close?)
      (taken ++ r.itemsTaken action) next := by
  obtain ⟨hlimit, hcapacity, hconsumed, hundisturbed⟩ := hstep.frame
  have hpresent : next.consumed = true := (hconsumed.resolve_right hleave).trans h.consumed
  exact {
    limit_eq := hlimit.trans h.limit_eq
    capacity := hcapacity ▸ h.capacity
    consumed := hpresent
    not_disturbed := (hundisturbed.resolve_right hdisturb).trans h.not_disturbed
    tracks := hstep.tracks h.tracks
    queue := hstep.queue hpresent h.queue }

/-- What was put into the queue are the first items of what was read. -/
theorem Undisturbed.delivered_prefix (h : Undisturbed limit bytes close taken r) :
    r.delivered <+: items limit bytes :=
  h.limit_eq ▸ h.tracks.delivered_prefix

/-- What was taken are the first items of what was read. -/
theorem Undisturbed.taken_prefix (h : Undisturbed limit bytes close taken r) :
    taken <+: items limit bytes := by
  refine List.IsPrefix.trans ?_ h.delivered_prefix
  rw [← h.queue]
  exact List.prefix_append _ _

/-- While bytes are waited for, what was read is parsed, and the end has not come. -/
theorem Undisturbed.of_isReading (h : Undisturbed limit bytes close taken r)
    (hreading : r.isReading = true) :
    r.delivered = items limit bytes ∧ refused? limit (parse limit bytes).rest = none ∧
      close = none := by
  obtain ⟨payloads, hcuts, hdelivered, hstuck, hrefused, hclose⟩ := h.tracks.reading hreading
  have hparse := hcuts.parse_eq hstuck
  rw [h.limit_eq] at hparse hrefused
  rw [items, hparse]
  exact ⟨hdelivered, hrefused, hclose⟩

/-- When receiving has ended, what was read is parsed, and its rest explains the end. -/
theorem Undisturbed.of_outcome? (h : Undisturbed limit bytes close taken r)
    {outcome : Except Failure Unit}
    (houtcome : r.outcome? = some outcome) :
    r.delivered = items limit bytes ∧ IsEnd limit (parse limit bytes).rest outcome close := by
  have htracks := h.tracks
  simp only [Tracks, outcome?_eq_some_iff.1 houtcome] at htracks
  obtain ⟨payloads, hcuts, hdelivered, hstuck, hverdict⟩ := htracks.2 h.not_disturbed h.consumed
  have hparse := hcuts.parse_eq hstuck
  rw [h.limit_eq] at hparse hverdict
  rw [items, hparse]
  exact ⟨hdelivered, hverdict⟩

/-- Where nothing can be taken the queue is empty. -/
theorem Undisturbed.queue_eq_nil (h : Undisturbed limit bytes close taken r)
    (htake : r.step? metrics .take = none) :
    r.queue = [] := by
  cases hqueue : r.queue with
  | nil => rfl
  | cons item rest => simp [step?, hqueue, h.consumed] at htake

/-- Where receiving does not go on beside an empty queue, all that was put into it was taken, and
bytes are waited for or receiving has ended. -/
theorem Undisturbed.of_step?_resume_eq_none (h : Undisturbed limit bytes close taken r)
    (hqueue : r.queue = [])
    (hresume : r.step? metrics .resume = none) :
    taken = r.delivered ∧ (r.isReading = true ∨ ∃ outcome, r.outcome? = some outcome) := by
  constructor
  · rw [← h.queue, hqueue, List.append_nil]
  · cases hstage : r.stage with
    | reading => exact Or.inl (isReading_iff.2 ⟨hstage, h.not_disturbed⟩)
    | delivering item =>
      have hroom : r.hasRoom = true := by
        rw [hasRoom_iff, hqueue]
        exact h.capacity
      simp [step?, resume?, hstage, h.not_disturbed, h.consumed, hroom] at hresume
    | ended outcome => exact Or.inr ⟨outcome, outcome?_eq_some_iff.2 hstage⟩

/-- Where bytes are waited for, some can be read. -/
theorem step?_read_ne_none (hreading : r.isReading = true) {chunk : Bytes} (hchunk : chunk ≠ [])
    (hlength : chunk.length ≤ chunkLength) : r.step? metrics (.read chunk) ≠ none := by
  simp [step?, hreading, hchunk, hlength]

/-! ## The counters -/

/-- The items that were seen: those that were put into the queue, and the one that waits for
room. -/
def seen (r : Inbound) : List Item :=
  match r.stage with
  | .delivering item => r.delivered ++ [item]
  | _ => r.delivered

/-- Unless an item waits for room, every item that was seen was put into the queue. -/
theorem seen_eq_delivered (h : ∀ item, r.stage ≠ .delivering item) :
    r.seen = r.delivered := by
  unfold seen
  split
  · exact absurd ‹_› (h _)
  · rfl

/-- While bytes are waited for, no item waits for room. -/
theorem stage_ne_of_isReading (h : r.isReading = true) (item : Item) :
    r.stage ≠ .delivering item := by
  simp [(isReading_iff.1 h).1]

/-- Whether an item is a frame that held no envelope. -/
def isUndecoded : Item → Bool
  | .ok _ => false
  | .error _ => true

/-- The label of frames that held no envelope. -/
def undecodedLabel : Labels := [("kind", "MALFORMED_ENVELOPE")]

/-- The counters say how many bytes were read, how many items were seen, and how many of these held
no envelope. -/
structure Counted (metrics : Metrics) (length : Nat) (seen : List Item) : Prop where
  bytes : metrics.bytes.get Metrics.inbound = length.toUInt64
  frames : metrics.frames.get Metrics.inbound = seen.length.toUInt64
  undecoded : metrics.undecoded.get undecodedLabel = (seen.countP isUndecoded).toUInt64

/-- Nothing is counted at first. -/
theorem counted_zero : Counted .zero 0 [] := ⟨rfl, rfl, rfl⟩

/-- Reading counts the bytes. -/
theorem Counted.read {seen : List Item} (h : Counted metrics length seen) (more : Nat) :
    Counted (metrics.countRead more) (length + more) seen where
  bytes := by
    rw [Metrics.bytes_countRead, Counters.get_add_self, h.bytes]
    exact (UInt64.ofNat_add length more).symm
  frames := by simpa using h.frames
  undecoded := by simpa using h.undecoded

/-- Seeing an item counts it, and counts it as undecoded if it is. -/
theorem Counted.item {seen : List Item} (h : Counted metrics length seen) (item : Item) :
    Counted (countItem metrics item) length (seen ++ [item]) := by
  have hframes : (metrics.countReceived).frames.get Metrics.inbound =
      (seen ++ [item]).length.toUInt64 := by
    rw [Metrics.frames_countReceived, Counters.get_add_self, h.frames, List.length_append]
    exact (UInt64.ofNat_add seen.length 1).symm
  cases item with
  | ok e => exact ⟨by simpa [countItem] using h.bytes, by simpa [countItem] using hframes,
      by simpa [countItem, isUndecoded] using h.undecoded⟩
  | error fault =>
    refine ⟨by simpa [countItem] using h.bytes, by simpa [countItem] using hframes, ?_⟩
    have hlabel : undecodedLabel = [("kind", (Failure.malformedEnvelope fault).code)] := rfl
    rw [countItem, Metrics.undecoded_countUndecoded, Metrics.undecoded_countReceived, ← hlabel,
      Counters.get_add_self, h.undecoded, List.countP_append]
    exact (UInt64.ofNat_add _ 1).symm

/-- Handing on frames counts each of them. -/
theorem deliver_counted (r : Inbound) (metrics : Metrics) (hconsumed : r.consumed = true)
    (h : Counted metrics length r.delivered) :
    Counted (r.deliver metrics).2 length (r.deliver metrics).1.seen := by
  fun_induction deliver r metrics with
  | case1 => exact h
  | case2 => exact h
  | case3 r metrics payload buffer hnext =>
    rename_i hleft
    simp [hconsumed] at hleft
  | case4 r metrics payload buffer hnext =>
    rename_i ih
    exact ih hconsumed (h.item (Envelope.decode payload))
  | case5 r metrics payload buffer hnext => exact h.item (Envelope.decode payload)

/-- As long as nobody interferes, the counters tell what was read and seen. -/
theorem Step.counted (hstep : r.Step metrics action next later) (hundisturbed : r.disturbed = false)
    (hconsumed : r.consumed = true) (h : Counted metrics length r.seen) :
    Counted later (length + action.bytes.length) next.seen := by
  cases hstep with
  | read chunk hreading =>
    rw [seen_eq_delivered (stage_ne_of_isReading hreading)] at h
    exact deliver_counted _ _ hconsumed (h.read chunk.length)
  | close c hreading haction =>
    rw [seen_eq_delivered (stage_ne_of_isReading hreading)] at h
    rw [Action.bytes_of_close? haction]
    exact h
  | stop _ hstopped => simp [hundisturbed, hconsumed] at hstopped
  | deliver item hstage =>
    have hseen : r.seen = r.delivered ++ [item] := by simp [seen, hstage]
    rw [hseen] at h
    exact deliver_counted _ _ hconsumed h
  | take => exact h
  | leave => exact h
  | disturb => exact h

end Inbound

end Courier
