import Courier.Proofs.Inbound.Account
import Courier.Proofs.Steps

/-!
# Receiving that is interfered with

Somebody may touch the switch while receiving waits, or take no more items. What was handed on until
then stays handed on, in order, and nothing comes behind it. At most one item is lost by it, which
is the one that was about to be handed on, and it was counted all the same. So at any moment the
payloads that were cut off the stream are those whose items were handed on, and at most one more
(`PayloadsCounted`).
-/

namespace Courier

open Courier.Frame

namespace Inbound

variable {r next : Inbound} {metrics later : Metrics} {action : Action} {bytes : Bytes}
  {close : Option Close} {payloads : List Bytes} {held : Option Item}

/-! ## The item that is held -/

/-- Receiving that ends well since somebody interfered. -/
def IsInterrupted (r : Inbound) (outcome : Except Failure Unit) : Prop :=
  outcome = .ok () ∧ (r.disturbed = true ∨ r.consumed = false)

/-- Why an item is held, or is not: it waits for room, or receiving has ended. The stream explains
that only if no item is held, and otherwise somebody interfered. -/
def HeldExplained (r : Inbound) (bytes : Bytes) (close : Option Close) (held : Option Item) :
    Prop :=
  match r.stage with
  | .reading => held = none
  | .delivering item => held = some item
  | .ended outcome =>
    held = none ∧ r.delivered = items r.buffer.limit bytes ∧
        IsEnd r.buffer.limit (parse r.buffer.limit bytes).rest outcome close ∨
      r.IsInterrupted outcome

/-- The payloads that were cut off are those of the items that were handed on, and of the one that
is held, and just these were counted. -/
structure PayloadsCounted (r : Inbound) (metrics : Metrics) (bytes : Bytes) (close : Option Close)
    (held : Option Item) : Prop where
  cut : ∃ payloads, r.buffer.Cuts bytes payloads ∧
    payloads.map Envelope.decode = r.delivered ++ held.toList
  counted : Counted metrics bytes.length (r.delivered ++ held.toList)
  heldExplained : r.HeldExplained bytes close held

/-- At first nothing is held. -/
theorem payloadsCounted_start (limit capacity : Nat) :
    (start limit capacity).PayloadsCounted .zero [] none none where
  cut := ⟨[], ⟨rfl, fun _ hp => absurd hp List.not_mem_nil⟩, rfl⟩
  counted := counted_zero
  heldExplained := rfl

/-- Nothing is held where the items of all payloads were handed on. -/
theorem payloadsCounted_none (hcuts : r.buffer.Cuts bytes payloads)
    (hdelivered : r.delivered = payloads.map Envelope.decode)
    (hcounted : Counted metrics bytes.length r.delivered)
    (hholds : r.HeldExplained bytes close none) :
    r.PayloadsCounted metrics bytes close none where
  cut := ⟨payloads, hcuts, by rw [hdelivered, Option.toList_none, List.append_nil]⟩
  counted := by rwa [Option.toList_none, List.append_nil]
  heldExplained := hholds

/-- The item of the last payload is held where those of all others were handed on. -/
theorem payloadsCounted_some {payload : Bytes} (hcuts : r.buffer.Cuts bytes (payloads ++ [payload]))
    (hdelivered : r.delivered = payloads.map Envelope.decode)
    (hcounted : Counted metrics bytes.length r.delivered)
    (hholds : r.HeldExplained bytes close (some (Envelope.decode payload))) :
    r.PayloadsCounted (countItem metrics (Envelope.decode payload)) bytes close
      (some (Envelope.decode payload)) where
  cut := ⟨payloads ++ [payload], hcuts, by rw [List.map_append, hdelivered]; rfl⟩
  counted := hcounted.item _
  heldExplained := hholds

/-- What the end of a stream says is what is left in the buffer by then. -/
theorem heldExplained_ended (hcuts : r.buffer.Cuts bytes payloads)
    (hdelivered : r.delivered = payloads.map Envelope.decode)
    (hstuck : IsStuck r.buffer.limit r.buffer.bytes) {outcome : Except Failure Unit}
    (hend : IsEnd r.buffer.limit r.buffer.bytes outcome close) :
    (r.finish outcome).HeldExplained bytes close none := by
  have hparse := hcuts.parse_eq hstuck
  refine Or.inl ⟨rfl, ?_, ?_⟩
  · rw [delivered_finish, buffer_finish, items, hparse, hdelivered]
  · rwa [buffer_finish, hparse]

/-- Handing on frames counts their payloads. -/
theorem deliver_payloadsCounted (r : Inbound) (metrics : Metrics)
    (hcuts : r.buffer.Cuts bytes payloads)
    (hdelivered : r.delivered = payloads.map Envelope.decode)
    (hcounted : Counted metrics bytes.length r.delivered) :
    ∃ held, (r.deliver metrics).1.PayloadsCounted (r.deliver metrics).2 bytes none held := by
  -- A step of the recursion cuts one payload off, and decides what becomes of its item.
  fun_induction deliver r metrics generalizing payloads with
  | case1 r metrics fault hnext =>
    obtain ⟨length, hrefused, rfl⟩ := (FrameBuffer.next_eq_error_iff _ _).1 hnext
    exact ⟨none, payloadsCounted_none hcuts hdelivered hcounted
      (heldExplained_ended hcuts hdelivered (isStuck_of_refused? hrefused) ⟨length, hrefused, rfl⟩)⟩
  | case2 r metrics hnext => exact ⟨none, payloadsCounted_none hcuts hdelivered hcounted rfl⟩
  | case3 r metrics payload buffer hnext =>
    rename_i hleft
    have hgone : r.consumed = false := by simpa using hleft
    exact ⟨_, payloadsCounted_some (hcuts.next hnext) hdelivered hcounted
      (Or.inr ⟨rfl, Or.inr hgone⟩)⟩
  | case4 r metrics payload buffer hnext =>
    rename_i item _ _ _ ih
    exact ih (hcuts.next hnext) (by simp [hdelivered, item]) (hcounted.item _)
  | case5 r metrics payload buffer hnext =>
    exact ⟨_, payloadsCounted_some (hcuts.next hnext) hdelivered hcounted rfl⟩

/-- What was interrupted stays interrupted. -/
theorem HeldExplained.of_same (h : r.HeldExplained bytes close held) (hstage : next.stage = r.stage)
    (hbuffer : next.buffer = r.buffer) (hdelivered : next.delivered = r.delivered)
    (hdisturbed : r.disturbed = true → next.disturbed = true)
    (hconsumed : r.consumed = false → next.consumed = false) :
    next.HeldExplained bytes close held := by
  unfold HeldExplained at h ⊢
  rw [hstage, hbuffer, hdelivered]
  split at h
  · exact h
  · exact h
  · rcases h with hwhole | ⟨houtcome, hinterfered⟩
    · exact Or.inl hwhole
    · exact Or.inr ⟨houtcome, hinterfered.imp hdisturbed hconsumed⟩

/-- While bytes are waited for nothing is held, and all that was handed on was counted. -/
theorem PayloadsCounted.counted_of_isReading (h : r.PayloadsCounted metrics bytes close held)
    (hreading : r.isReading = true) : Counted metrics bytes.length r.delivered := by
  have hheld : held = none := by
    have hholds := h.heldExplained
    rwa [HeldExplained, (isReading_iff.1 hreading).1] at hholds
  have hcounted := h.counted
  rwa [hheld, Option.toList_none, List.append_nil] at hcounted

/-- Every step counts the payloads that it cuts off. -/
theorem Step.payloadsCounted (hstep : r.Step metrics action next later)
    (htracks : r.Tracks bytes close)
    (h : r.PayloadsCounted metrics bytes close held) :
    ∃ held, next.PayloadsCounted later (bytes ++ action.bytes) (close.or action.close?) held := by
  have hquiet {t : Inbound} {counted : Metrics}
      (ht : ∃ held, t.PayloadsCounted counted bytes close held) (hbytes : action.bytes = [])
      (hclose : action.close? = none) :
      ∃ held, t.PayloadsCounted counted (bytes ++ action.bytes) (close.or action.close?) held := by
    rwa [hbytes, hclose, List.append_nil, Option.or_none]
  cases hstep with
  | read chunk hreading =>
    obtain ⟨payloads, hcuts, hdelivered, -, -, rfl⟩ := htracks.reading hreading
    refine deliver_payloadsCounted { r with buffer := r.buffer.extend chunk } _ (hcuts.extend chunk)
      hdelivered ?_
    rw [List.length_append]
    exact (h.counted_of_isReading hreading).read chunk.length
  | close c hreading haction =>
    obtain ⟨payloads, hcuts, hdelivered, hstuck, hrefused, rfl⟩ := htracks.reading hreading
    rw [Action.bytes_of_close? haction, haction, List.append_nil]
    exact ⟨none, payloadsCounted_none hcuts hdelivered (h.counted_of_isReading hreading)
      (heldExplained_ended hcuts hdelivered hstuck ⟨hrefused, rfl⟩)⟩
  | stop _ hstopped => exact hquiet ⟨held, h.cut, h.counted, Or.inr ⟨rfl, hstopped⟩⟩ rfl rfl
  | deliver item hstage =>
    obtain ⟨⟨payloads, hcuts, hcut⟩, hcounted, hholds⟩ := h
    simp only [Tracks, hstage] at htracks
    obtain ⟨-, -, -, -, -, rfl⟩ := htracks
    simp only [HeldExplained, hstage] at hholds
    rw [hholds] at hcut hcounted
    exact hquiet (deliver_payloadsCounted _ _ hcuts hcut.symm hcounted) rfl rfl
  | take item rest =>
    exact hquiet ⟨held, h.cut, h.counted, h.heldExplained.of_same rfl rfl rfl id id⟩ rfl rfl
  | leave =>
    exact hquiet ⟨held, h.cut, h.counted, h.heldExplained.of_same rfl rfl rfl id fun _ => rfl⟩
      rfl rfl
  | disturb =>
    exact hquiet ⟨held, h.cut, h.counted, h.heldExplained.of_same rfl rfl rfl (fun _ => rfl) id⟩
      rfl rfl

/-! ## Receiving that hands on nothing more -/

/-- Whether receiving will hand on nothing more: it has ended, the switch was touched, or an item is
held that nobody will take. -/
def isStopped (r : Inbound) : Bool :=
  match r.stage with
  | .reading => r.disturbed
  | .delivering _ => r.disturbed || !r.consumed
  | .ended _ => true

/-- Once the switch was touched nothing more is handed on. -/
theorem isStopped_of_disturbed (h : r.disturbed = true) : r.isStopped = true := by
  cases hstage : r.stage <;> simp [isStopped, hstage, h]

/-- Once nobody takes items nothing more is handed on, unless bytes are waited for. -/
theorem isStopped_of_left (h : r.consumed = false) (hreading : r.isReading = false) :
    r.isStopped = true := by
  cases hstage : r.stage with
  | reading => simpa [isReading, isStopped, hstage] using hreading
  | delivering item => simp [isStopped, hstage, h]
  | ended outcome => simp [isStopped, hstage]

/-- Receiving that is stopped does not wait for bytes. -/
theorem isReading_of_isStopped (h : r.isStopped = true) : r.isReading = false := by
  cases hstage : r.stage with
  | reading => simpa [isReading, isStopped, hstage] using h
  | delivering item => simp [isReading, hstage]
  | ended outcome => simp [isReading, hstage]

/-- Receiving that is stopped can end, and ends well. -/
theorem resume?_of_isStopped (h : r.isStopped = true) (hopen : r.outcome? = none) :
    r.resume? metrics = some (r.finish (.ok ()), metrics) := by
  cases hstage : r.stage with
  | reading =>
    rw [isStopped, hstage] at h
    simp only [resume?, hstage, if_pos h]
  | delivering item =>
    rw [isStopped, hstage] at h
    simp only [resume?, hstage, if_pos h]
  | ended outcome => simp [outcome?, hstage] at hopen

/-- Nothing that happens makes receiving go on that is stopped: it hands on nothing, reads nothing,
and ends well if it had not ended. -/
theorem Step.of_isStopped (hstep : r.Step metrics action next later) (h : r.isStopped = true) :
    next.isStopped = true ∧ next.delivered = r.delivered ∧ action.bytes = [] ∧
      (next.outcome? = r.outcome? ∨ r.outcome? = none ∧ next.outcome? = some (.ok ())) := by
  have hwaits := isReading_of_isStopped h
  cases hstep with
  | read chunk hreading => simp [hwaits] at hreading
  | close c hreading => simp [hwaits] at hreading
  | stop hopen => exact ⟨rfl, rfl, rfl, Or.inr ⟨hopen, by simp⟩⟩
  | deliver item hstage hundisturbed hconsumed =>
    simp [isStopped, hstage, hundisturbed, hconsumed] at h
  | take item rest => exact ⟨h, rfl, rfl, Or.inl rfl⟩
  | leave =>
    refine ⟨isStopped_of_left rfl ?_, rfl, rfl, Or.inl rfl⟩
    exact hwaits
  | disturb => exact ⟨isStopped_of_disturbed rfl, rfl, rfl, Or.inl rfl⟩

/-- Where nobody takes items none is handed on. -/
theorem deliver_of_left (r : Inbound) (metrics : Metrics) (h : r.consumed = false) :
    (r.deliver metrics).1.delivered = r.delivered := by
  fun_induction deliver r metrics with
  | case4 r metrics payload buffer hnext =>
    rename_i hconsumed _ _
    simp [h] at hconsumed
  | _ => rfl

/-- Where nobody takes items none is handed on by any step. -/
theorem Step.delivered_of_left (hstep : r.Step metrics action next later)
    (h : r.consumed = false) : next.delivered = r.delivered := by
  cases hstep with
  | read chunk => exact deliver_of_left { r with buffer := r.buffer.extend chunk } _ h
  | deliver item _ _ hpresent => simp [h] at hpresent
  | _ => rfl

/-! ## Any actions -/

/-- The switch is touched by what says so, and stays touched. -/
theorem Step.disturbed_iff (hstep : r.Step metrics action next later) :
    next.disturbed = true ↔ r.disturbed = true ∨ action = .disturb := by
  obtain ⟨-, -, -, hdisturbed⟩ := hstep.frame
  cases hstep with
  | disturb => simp
  | close _ _ haction =>
    have hother : action ≠ .disturb := by
      rintro rfl
      cases haction
    rw [hdisturbed.resolve_right hother]
    simp [hother]
  | _ => rw [hdisturbed.resolve_right Action.noConfusion]; simp

/-- Nobody takes items once it was said so. -/
theorem Step.left_iff (hstep : r.Step metrics action next later) :
    next.consumed = false ↔ r.consumed = false ∨ action = .leave := by
  obtain ⟨-, -, hconsumed, -⟩ := hstep.frame
  cases hstep with
  | leave => simp
  | close _ _ haction =>
    have hother : action ≠ .leave := by
      rintro rfl
      cases haction
    rw [hconsumed.resolve_right hother]
    simp [hother]
  | _ => rw [hconsumed.resolve_right Action.noConfusion]; simp

/-- Where there is room one more item keeps to the capacity. -/
theorem enqueue_bounded (hroom : r.hasRoom = true) (item : Item) :
    (r.enqueue item).queue.length ≤ r.capacity := by
  rw [queue_enqueue, List.length_append, List.length_singleton]
  exact hasRoom_iff.1 hroom

/-- Handing on frames keeps to the capacity of the queue. -/
theorem deliver_bounded (r : Inbound) (metrics : Metrics) (h : r.queue.length ≤ r.capacity) :
    (r.deliver metrics).1.queue.length ≤ r.capacity := by
  fun_induction deliver r metrics with
  | case4 r metrics payload buffer hnext =>
    rename_i hroom ih
    exact ih (enqueue_bounded hroom _)
  | _ => exact h

/-- The queue never holds more than its capacity. -/
theorem Step.bounded (hstep : r.Step metrics action next later)
    (h : r.queue.length ≤ r.capacity) : next.queue.length ≤ r.capacity := by
  cases hstep with
  | read chunk => exact deliver_bounded { r with buffer := r.buffer.extend chunk } _ h
  | deliver item _ _ _ hroom =>
    exact deliver_bounded (r.enqueue item) _ (enqueue_bounded hroom item)
  | take item rest hqueue =>
    rw [hqueue] at h
    exact Nat.le_of_succ_le h
  | leave => exact Nat.zero_le _
  | _ => exact h

/-- What was taken is what was handed on first, also when nobody takes items any more. -/
theorem Step.taken_prefix (hstep : r.Step metrics action next later) {taken : List Item}
    (h : taken <+: r.delivered) (hqueue : r.consumed = true → taken ++ r.queue = r.delivered) :
    taken ++ r.itemsTaken action <+: next.delivered := by
  by_cases haction : action = .take
  · subst haction
    cases hstep with
    | close _ _ haction => cases haction
    | take item rest hitem hconsumed =>
      rw [← hqueue hconsumed, itemsTaken, List.prefix_append_right_inj]
      exact List.take_prefix 1 r.queue
  · have htaken : r.itemsTaken action = [] := by
      cases action <;> first | rfl | exact absurd rfl haction
    rw [htaken, List.append_nil]
    exact h.trans hstep.delivered_prefix

/-- The bytes that some actions read. -/
def received (actions : List Action) : Bytes := actions.flatMap Action.bytes

/-- The end that some actions bring. -/
def closed? (actions : List Action) : Option Close := actions.findSome? Action.close?

/-- Receiving and the items that were taken out of its queue. -/
structure Exchange where
  inbound : Inbound
  metrics : Metrics
  taken : List Item

namespace Exchange

/-- Receiving that has not begun, nothing of which was taken. -/
def start (limit capacity : Nat) : Exchange := ⟨.start limit capacity, .zero, []⟩

/-- What an action leads to, if it can happen. -/
def step? (e : Exchange) (action : Action) : Option Exchange :=
  (e.inbound.step? e.metrics action).map fun (inbound, metrics) =>
    ⟨inbound, metrics, e.taken ++ e.inbound.itemsTaken action⟩

/-- What holds of receiving whatever has happened to it. -/
structure Sound (limit capacity : Nat) (actions : List Action) (e : Exchange) : Prop where
  limit_eq : e.inbound.buffer.limit = limit
  capacity_eq : e.inbound.capacity = capacity
  tracks : e.inbound.Tracks (received actions) (closed? actions)
  payloadsCounted : ∃ held, e.inbound.PayloadsCounted e.metrics (received actions)
    (closed? actions) held
  bounded : e.inbound.queue.length ≤ capacity
  taken : e.taken <+: e.inbound.delivered
  queue : e.inbound.consumed = true → e.taken ++ e.inbound.queue = e.inbound.delivered
  disturbed : e.inbound.disturbed = true ↔ .disturb ∈ actions
  left : e.inbound.consumed = false ↔ .leave ∈ actions

variable {limit capacity : Nat} {actions : List Action} {e after : Exchange}

/-- At first nothing has happened. -/
theorem sound_start (limit capacity : Nat) : Sound limit capacity [] (start limit capacity) where
  limit_eq := rfl
  capacity_eq := rfl
  tracks := ⟨[], ⟨rfl, fun _ hp => absurd hp List.not_mem_nil⟩, rfl, isStuck_nil limit, rfl, rfl⟩
  payloadsCounted := ⟨none, payloadsCounted_start limit capacity⟩
  bounded := Nat.zero_le _
  taken := List.prefix_refl _
  queue := fun _ => rfl
  disturbed := ⟨Bool.noConfusion, fun h => absurd h List.not_mem_nil⟩
  left := ⟨Bool.noConfusion, fun h => absurd h List.not_mem_nil⟩

/-- An action is a step of receiving. -/
theorem step_of_step? (h : e.step? action = some after) :
    e.inbound.Step e.metrics action after.inbound after.metrics ∧
      after.taken = e.taken ++ e.inbound.itemsTaken action := by
  obtain ⟨⟨inbound, metrics⟩, hstep, rfl⟩ := Option.map_eq_some_iff.1 h
  exact ⟨Inbound.step_of_step? hstep, rfl⟩

/-- Whatever happens, all of that goes on to hold. -/
theorem Sound.step (h : Sound limit capacity actions e) (hafter : e.step? action = some after) :
    Sound limit capacity (actions ++ [action]) after := by
  obtain ⟨hstep, htaken⟩ := step_of_step? hafter
  obtain ⟨hlimit, hcapacity, -, -⟩ := hstep.frame
  obtain ⟨held, hpayloads⟩ := h.payloadsCounted
  have hreceived : received (actions ++ [action]) = received actions ++ action.bytes := by
    simp [received]
  have hclosed : closed? (actions ++ [action]) = (closed? actions).or action.close? := by
    simp [closed?]
  exact {
    limit_eq := hlimit.trans h.limit_eq
    capacity_eq := hcapacity.trans h.capacity_eq
    tracks := hreceived ▸ hclosed ▸ hstep.tracks h.tracks
    payloadsCounted := hreceived ▸ hclosed ▸ hstep.payloadsCounted h.tracks hpayloads
    bounded := h.capacity_eq ▸ hstep.bounded (h.capacity_eq ▸ h.bounded)
    taken := htaken ▸ hstep.taken_prefix h.taken h.queue
    queue := by
      intro hconsumed
      rw [htaken]
      refine hstep.queue hconsumed (h.queue ?_)
      cases hpresent : e.inbound.consumed with
      | true => rfl
      | false => simp [hstep.left_iff.2 (Or.inl hpresent)] at hconsumed
    disturbed := by simp [hstep.disturbed_iff, h.disturbed, eq_comm]
    left := by simp [hstep.left_iff, h.left, eq_comm] }

/-- What is known after any actions. -/
theorem sound_of_after? (h : after? step? (start limit capacity) actions = some e) :
    Sound limit capacity actions e :=
  after?_induction (motive := Sound limit capacity) (sound_start limit capacity)
    (fun _ _ _ _ _ hsound hstep => hsound.step hstep) h

/-- Receiving that is stopped does nothing more than to end well. -/
theorem of_isStopped (hstopped : e.inbound.isStopped = true)
    (h : after? step? e actions = some after) :
    after.inbound.isStopped = true ∧ after.inbound.delivered = e.inbound.delivered ∧
      received actions = [] ∧ (after.inbound.outcome? = e.inbound.outcome? ∨
        e.inbound.outcome? = none ∧ after.inbound.outcome? = some (.ok ())) := by
  refine after?_induction (motive := fun actions after => after.inbound.isStopped = true ∧
    after.inbound.delivered = e.inbound.delivered ∧ received actions = [] ∧
      (after.inbound.outcome? = e.inbound.outcome? ∨
        e.inbound.outcome? = none ∧ after.inbound.outcome? = some (.ok ())))
    ⟨hstopped, rfl, rfl, Or.inl rfl⟩ ?_ h
  intro actions s action t _ ⟨hs, hdelivered, hreceived, houtcome⟩ hstep
  obtain ⟨ht, hkept, hbytes, hended⟩ := (step_of_step? hstep).1.of_isStopped hs
  refine ⟨ht, hkept.trans hdelivered, ?_, ?_⟩
  · simpa [received, hbytes] using hreceived
  · rcases hended with hended | ⟨hopen, hended⟩
    · rwa [hended]
    · rcases houtcome with houtcome | ⟨hnone, houtcome⟩
      · exact Or.inr ⟨houtcome ▸ hopen, hended⟩
      · rw [houtcome] at hopen
        cases hopen

/-- Where nobody takes items none is handed on any more. -/
theorem delivered_of_left (hleft : e.inbound.consumed = false)
    (h : after? step? e actions = some after) : after.inbound.delivered = e.inbound.delivered := by
  refine (after?_induction (motive := fun _ after => after.inbound.consumed = false ∧
    after.inbound.delivered = e.inbound.delivered) ⟨hleft, rfl⟩ ?_ h).2
  intro actions s action t _ ⟨hs, hdelivered⟩ hstep
  have hstep := (step_of_step? hstep).1
  exact ⟨hstep.left_iff.2 (Or.inl hs), (hstep.delivered_of_left hs).trans hdelivered⟩

end Exchange

/-- Whatever happens to receiving, it hands on the beginning of what it reads, and keeps books.

What was handed on is a beginning of the items of what was read; of these the first ones were taken,
the others are in the queue as long as anybody takes items, and these are never more than it may
hold. The payloads cut off the stream are those whose items were handed on, and the one that is
held, and they are what the counters say. Nothing is held while bytes are waited for, what is held
while an item waits is this item, and when receiving has ended the stream says how, or else it
ended well since somebody interfered. Once the switch was touched, or an item meets nobody to take
it, nothing more is handed on or read, and receiving ends well unless it had ended before; and once
nobody takes items none is handed on. -/
theorem delivery_under_interference {limit capacity : Nat} {actions : List Action} {e : Exchange}
    (h : after? Exchange.step? (.start limit capacity) actions = some e) :
    e.inbound.delivered <+: items limit (received actions) ∧
    e.taken <+: e.inbound.delivered ∧
    (.leave ∉ actions → e.taken ++ e.inbound.queue = e.inbound.delivered) ∧
    e.inbound.queue.length ≤ capacity ∧
    (∃ payloads held, e.inbound.buffer.Cuts (received actions) payloads ∧
      payloads.map Envelope.decode = e.inbound.delivered ++ held.toList ∧
      Counted e.metrics (received actions).length (e.inbound.delivered ++ held.toList) ∧
      (∀ item, e.inbound.stage = .delivering item → held = some item) ∧
      (e.inbound.stage = .reading → held = none) ∧
      ∀ outcome, e.inbound.stage = .ended outcome →
        held = none ∧ e.inbound.delivered = items limit (received actions) ∧
            IsEnd limit (parse limit (received actions)).rest outcome (closed? actions) ∨
          outcome = .ok () ∧ (.disturb ∈ actions ∨ .leave ∈ actions)) ∧
    (.disturb ∈ actions ∨ .leave ∈ actions ∧ e.inbound.isReading = false →
      (∀ later after, after? Exchange.step? e later = some after →
        after.inbound.delivered = e.inbound.delivered ∧ received later = [] ∧
          (after.inbound.outcome? = e.inbound.outcome? ∨
            e.inbound.outcome? = none ∧ after.inbound.outcome? = some (.ok ()))) ∧
      (e.inbound.outcome? = none →
        ∃ after, e.step? .resume = some after ∧ after.inbound.outcome? = some (.ok ()))) ∧
    (.leave ∈ actions → ∀ later after, after? Exchange.step? e later = some after →
      after.inbound.delivered = e.inbound.delivered) := by
  have hsound := Exchange.sound_of_after? h
  obtain ⟨held, ⟨payloads, hcuts, hcut⟩, hcounted, hholds⟩ := hsound.payloadsCounted
  refine ⟨hsound.limit_eq ▸ hsound.tracks.delivered_prefix, hsound.taken, ?_, hsound.bounded,
    ⟨payloads, held, hcuts, hcut, hcounted, ?_, ?_, ?_⟩, ?_, ?_⟩
  · intro hstays
    refine hsound.queue ?_
    rw [← Bool.not_eq_false, hsound.left]
    exact hstays
  · intro item hstage
    rwa [HeldExplained, hstage] at hholds
  · intro hstage
    rwa [HeldExplained, hstage] at hholds
  · intro outcome hstage
    rw [HeldExplained, hstage, hsound.limit_eq] at hholds
    refine hholds.imp id ?_
    rintro ⟨houtcome, hinterfered⟩
    exact ⟨houtcome, hinterfered.imp hsound.disturbed.1 hsound.left.1⟩
  · intro hinterfered
    have hstopped : e.inbound.isStopped = true := by
      rcases hinterfered with hdisturb | ⟨hleave, hreading⟩
      · exact isStopped_of_disturbed (hsound.disturbed.2 hdisturb)
      · exact isStopped_of_left (hsound.left.2 hleave) hreading
    refine ⟨fun later after hlater => (Exchange.of_isStopped hstopped hlater).2, ?_⟩
    intro hopen
    have hresume : e.inbound.resume? e.metrics = some (e.inbound.finish (.ok ()), e.metrics) :=
      resume?_of_isStopped hstopped hopen
    exact ⟨⟨e.inbound.finish (.ok ()), e.metrics, e.taken ++ []⟩,
      by simp [Exchange.step?, Inbound.step?, hresume, itemsTaken], rfl⟩
  · intro hleave later after hlater
    exact Exchange.delivered_of_left (hsound.left.2 hleave) hlater

/-- An item that waits for room when the switch is touched was counted, and is never handed on. -/
theorem delivery_under_interference_full_queue :
    ∃ e, after? Exchange.step? (.start 16 1) [.read [0, 0, 0, 1, 65, 0, 0, 0, 1, 66], .disturb] =
        some e ∧
      e.inbound.delivered.length = 1 ∧ e.metrics.frames.get Metrics.inbound = 2 ∧
      ∀ later after, after? Exchange.step? e later = some after →
        after.inbound.delivered = e.inbound.delivered ∧ received later = [] ∧
          (after.inbound.outcome? = e.inbound.outcome? ∨
            e.inbound.outcome? = none ∧ after.inbound.outcome? = some (.ok ())) := by
  obtain ⟨e, he⟩ : ∃ e, after? Exchange.step? (.start 16 1)
      [.read [0, 0, 0, 1, 65, 0, 0, 0, 1, 66], .disturb] = some e :=
    Option.isSome_iff_exists.1 (by decide +kernel)
  have hone : (after? Exchange.step? (.start 16 1)
      [.read [0, 0, 0, 1, 65, 0, 0, 0, 1, 66], .disturb]).any (fun e =>
        e.inbound.delivered.length = 1 ∧ e.metrics.frames.get Metrics.inbound = 2) = true := by
    decide +kernel
  rw [he] at hone
  obtain ⟨hdelivered, hframes⟩ := of_decide_eq_true hone
  obtain ⟨-, -, -, -, -, hstopped, -⟩ := delivery_under_interference he
  exact ⟨e, he, hdelivered, hframes, (hstopped (Or.inl (by decide))).1⟩

end Inbound

end Courier
