import Courier.Proofs.Inbound.Interference

/-!
# Who has what was received

Every item that was handed on was taken, waits in the queue, or was lost with the queue when nobody
took items any more; and one more may be held. All of them were counted, and nothing else that comes
in is (`ItemsAccounted`). Receiving touches no counter of what goes out (`SameOutgoing`).
-/

namespace Courier

namespace Inbound

variable {r next : Inbound} {metrics later : Metrics} {action : Action} {bytes : Bytes}
  {close : Option Close} {taken lost : List Item}

/-! ## What goes out -/

/-- The counters of what goes out are the same. -/
structure SameOutgoing (metrics later : Metrics) : Prop where
  frames : later.frames.get Metrics.outbound = metrics.frames.get Metrics.outbound
  bytes : later.bytes.get Metrics.outbound = metrics.bytes.get Metrics.outbound
  answers : later.answers = metrics.answers

/-- What counts nothing counts nothing that goes out. -/
theorem SameOutgoing.refl (metrics : Metrics) : SameOutgoing metrics metrics := ⟨rfl, rfl, rfl⟩

/-- What counts nothing that goes out may go on to do so. -/
theorem SameOutgoing.trans {last : Metrics} (h : SameOutgoing metrics later)
    (hlast : SameOutgoing later last) : SameOutgoing metrics last :=
  ⟨hlast.frames.trans h.frames, hlast.bytes.trans h.bytes, hlast.answers.trans h.answers⟩

/-- An item is nothing that goes out. -/
theorem sameOutgoing_countItem (metrics : Metrics) (item : Item) :
    SameOutgoing metrics (countItem metrics item) := by
  cases item <;> exact ⟨Metrics.get_outbound_add_inbound _ _, rfl, rfl⟩

/-- Handing on frames counts nothing that goes out. -/
theorem sameOutgoing_deliver (r : Inbound) (metrics : Metrics) :
    SameOutgoing metrics (r.deliver metrics).2 := by
  fun_induction deliver r metrics with
  | case1 => exact .refl _
  | case2 => exact .refl _
  | case3 r metrics payload => exact sameOutgoing_countItem metrics (Envelope.decode payload)
  | case4 r metrics payload =>
    rename_i ih
    exact (sameOutgoing_countItem metrics (Envelope.decode payload)).trans ih
  | case5 r metrics payload => exact sameOutgoing_countItem metrics (Envelope.decode payload)

/-- Receiving counts nothing that goes out. -/
theorem Step.sameOutgoing (hstep : r.Step metrics action next later) :
    SameOutgoing metrics later := by
  cases hstep with
  | read chunk =>
    have hread : SameOutgoing metrics (metrics.countRead chunk.length) :=
      ⟨rfl, Metrics.get_outbound_add_inbound _ _, rfl⟩
    exact hread.trans (sameOutgoing_deliver _ _)
  | deliver => exact sameOutgoing_deliver _ _
  | _ => exact .refl _

/-! ## Items that are lost -/

/-- The items that an action loses: those in the queue, when nobody takes items any more. -/
def itemsLost (r : Inbound) : Action → List Item
  | .leave => r.queue
  | _ => []

/-- Where nobody takes items the queue gets none. -/
theorem queue_deliver_of_left (r : Inbound) (metrics : Metrics) (h : r.consumed = false) :
    (r.deliver metrics).1.queue = r.queue := by
  fun_induction deliver r metrics with
  | case4 r metrics payload buffer hnext =>
    rename_i hconsumed _ _
    simp [h] at hconsumed
  | _ => rfl

/-- Where nobody takes items the queue stays empty. -/
theorem Step.queue_of_left (hstep : r.Step metrics action next later) (h : r.consumed = false)
    (hqueue : r.queue = []) : next.queue = [] := by
  cases hstep with
  | read chunk =>
    exact (queue_deliver_of_left { r with buffer := r.buffer.extend chunk } _ h).trans hqueue
  | deliver item _ _ hpresent => simp [h] at hpresent
  | take item rest hitem => cases hqueue.symm.trans hitem
  | leave => rfl
  | _ => exact hqueue

/-- The payloads are counted, and it is known who has the items: what was handed on was taken, waits
in the queue, or was lost. -/
structure ItemsAccounted (r : Inbound) (metrics : Metrics) (bytes : Bytes) (close : Option Close)
    (taken lost : List Item) : Prop where
  tracks : r.Tracks bytes close
  payloadsCounted : ∃ held, r.PayloadsCounted metrics bytes close held
  delivered_eq : taken ++ r.queue ++ lost = r.delivered
  lost_eq (h : r.consumed = true) : lost = []
  queue_eq (h : r.consumed = false) : r.queue = []

/-- At first nobody has anything. -/
theorem itemsAccounted_start (limit capacity : Nat) (h : Counted metrics 0 []) :
    (start limit capacity).ItemsAccounted metrics [] none [] [] where
  tracks := ⟨[], ⟨rfl, fun _ hp => absurd hp List.not_mem_nil⟩, rfl, Frame.isStuck_nil limit, rfl,
    rfl⟩
  payloadsCounted := ⟨none, ⟨[], ⟨rfl, fun _ hp => absurd hp List.not_mem_nil⟩, rfl⟩, h, rfl⟩
  delivered_eq := rfl
  lost_eq _ := rfl
  queue_eq _ := rfl

/-- Who has what does not hang on what else is counted. -/
theorem ItemsAccounted.of_counted (h : r.ItemsAccounted metrics bytes close taken lost)
    (hcounted : ∀ seen, Counted metrics bytes.length seen → Counted later bytes.length seen) :
    r.ItemsAccounted later bytes close taken lost := by
  obtain ⟨held, hpayloads⟩ := h.payloadsCounted
  exact { h with
    payloadsCounted :=
      ⟨held, hpayloads.cut, hcounted _ hpayloads.counted, hpayloads.heldExplained⟩ }

/-- Nothing is taken where nobody takes items. -/
theorem Step.itemsTaken_of_left (hstep : r.Step metrics action next later)
    (h : r.consumed = false) : r.itemsTaken action = [] := by
  cases hstep with
  | take _ _ _ hpresent => cases h.symm.trans hpresent
  | close _ _ haction => cases action <;> first | rfl | cases haction
  | _ => rfl

/-- Only who leaves loses items, and only if there are some. -/
theorem itemsLost_of_queue (h : r.queue = []) (action : Action) : r.itemsLost action = [] := by
  cases action <;> first | rfl | exact h

/-- Where items are taken, each that was handed on is taken, waits or is lost after a step. -/
theorem Step.delivered_eq (hstep : r.Step metrics action next later) (hconsumed : r.consumed = true)
    (h : taken ++ r.queue = r.delivered) :
    taken ++ r.itemsTaken action ++ next.queue ++ r.itemsLost action = next.delivered ∧
      (next.consumed = true → r.itemsLost action = []) ∧
      (next.consumed = false → next.queue = []) := by
  by_cases hleave : action = .leave
  · subst hleave
    cases hstep with
    | close _ _ haction => cases haction
    | leave => exact ⟨by simpa [itemsTaken, itemsLost] using h, by rintro ⟨⟩, fun _ => rfl⟩
  · have hlost : r.itemsLost action = [] := by
      cases action <;> first | rfl | exact absurd rfl hleave
    have hpresent : next.consumed = true := by
      rw [← Bool.not_eq_false, hstep.left_iff, hconsumed]
      simpa using hleave
    rw [hlost, List.append_nil]
    exact ⟨hstep.queue hpresent h, fun _ => rfl, fun hgone => by cases hpresent.symm.trans hgone⟩

/-- Every step passes items on. -/
theorem ItemsAccounted.step (h : r.ItemsAccounted metrics bytes close taken lost)
    (hstep : r.Step metrics action next later) :
    next.ItemsAccounted later (bytes ++ action.bytes) (close.or action.close?)
      (taken ++ r.itemsTaken action) (lost ++ r.itemsLost action) := by
  obtain ⟨held, hpayloads⟩ := h.payloadsCounted
  have htracks := hstep.tracks h.tracks
  have hnext := hstep.payloadsCounted h.tracks hpayloads
  cases hconsumed : r.consumed with
  | true =>
    obtain rfl := h.lost_eq hconsumed
    have hqueue : taken ++ r.queue = r.delivered := by simpa using h.delivered_eq
    obtain ⟨hdelivered, hlost, hempty⟩ := hstep.delivered_eq hconsumed hqueue
    exact ⟨htracks, hnext, hdelivered, hlost, hempty⟩
  | false =>
    have hqueue := h.queue_eq hconsumed
    have hempty := hstep.queue_of_left hconsumed hqueue
    have hgone : next.consumed = false := hstep.left_iff.2 (Or.inl hconsumed)
    rw [hstep.itemsTaken_of_left hconsumed, itemsLost_of_queue hqueue, List.append_nil,
      List.append_nil]
    refine ⟨htracks, hnext, ?_, ?_, fun _ => hempty⟩
    · rw [hstep.delivered_of_left hconsumed, ← h.delivered_eq, hempty, hqueue]
    · intro hpresent
      cases hgone.symm.trans hpresent

end Inbound

end Courier
