import Courier.Proofs.Frame.Space
import Courier.Proofs.Inbound.Interference

/-!
# The space and the calls that receiving takes

Whatever a peer sends, receiving holds little more than one frame of it. While bytes are waited for
it is less than a frame of the longest payload that is accepted, and otherwise at most one read
more. For the bytes of a read the buffer is asked for payloads at most once for every four bytes in
it, and once more (`space_bounded`). To say so, receiving is watched: which buffers are asked is
noted read by read (`Watch`).
-/

namespace Courier

open Courier.Frame Courier.FrameBuffer

namespace Inbound

variable {r next : Inbound} {metrics later : Metrics} {action : Action} {limit capacity : Nat}

/-! ## Handing on, watched -/

/-- Hand on frames, and note each buffer that is asked for a payload. -/
def deliverNoting (r : Inbound) (metrics : Metrics) : (Inbound × Metrics) × List FrameBuffer :=
  match _taken : r.buffer.next with
  | .error fault => ((r.finish (.error fault.failure), metrics), [r.buffer])
  | .ok none => (({ r with stage := .reading }, metrics), [r.buffer])
  | .ok (some (payload, buffer)) =>
    let item := Envelope.decode payload
    let metrics := countItem metrics item
    if !r.consumed then (({ r with buffer }.finish (.ok ()), metrics), [r.buffer])
    else if r.hasRoom then
      let (result, asked) := deliverNoting ({ r with buffer }.enqueue item) metrics
      (result, r.buffer :: asked)
    else (({ r with buffer, stage := .delivering item }, metrics), [r.buffer])
termination_by r.buffer.buffered
decreasing_by exact FrameBuffer.buffered_lt_of_next _taken

/-- Handing on frames, said of what the buffer answers. -/
theorem deliver_eq (r : Inbound) (metrics : Metrics) :
    r.deliver metrics =
      match r.buffer.next with
      | .error fault => (r.finish (.error fault.failure), metrics)
      | .ok none => ({ r with stage := .reading }, metrics)
      | .ok (some (payload, buffer)) =>
        if !r.consumed then
          ({ r with buffer }.finish (.ok ()), countItem metrics (Envelope.decode payload))
        else if r.hasRoom then
          ({ r with buffer }.enqueue (Envelope.decode payload)).deliver
            (countItem metrics (Envelope.decode payload))
        else
          ({ r with buffer, stage := .delivering (Envelope.decode payload) },
            countItem metrics (Envelope.decode payload)) := by
  rw [deliver]
  split <;> rename_i htaken <;> rw [htaken]

/-- Noting what is asked changes nothing in what is done. -/
theorem fst_deliverNoting (r : Inbound) (metrics : Metrics) :
    (r.deliverNoting metrics).1 = r.deliver metrics := by
  fun_induction deliverNoting r metrics with
  | case1 r metrics fault hnext => rw [deliver_eq, hnext]
  | case2 r metrics hnext => rw [deliver_eq, hnext]
  | case3 r metrics payload buffer hnext item counted hleft =>
    rw [deliver_eq, hnext]
    exact (if_pos hleft).symm
  | case4 r metrics payload buffer hnext item counted hpresent hroom result asked hrest ih =>
    rw [deliver_eq, hnext]
    simp only [if_neg hpresent, if_pos hroom]
    exact (congrArg Prod.fst hrest).symm.trans ih
  | case5 r metrics payload buffer hnext item counted hpresent hfull =>
    rw [deliver_eq, hnext]
    simp only [if_neg hpresent, if_neg hfull]
    rfl

/-- What was asked for payloads: buffers that each hand out one, and then the one that is left. This
one is not asked where receiving has stopped before, and it asks for more where bytes are waited
for. -/
structure Asked (opened : FrameBuffer) (asked : List FrameBuffer) (r : Inbound) : Prop where
  handsOut : ∃ taking, HandsOut opened taking r.buffer ∧
    (asked = taking ++ [r.buffer] ∨ asked = taking ∧ r.stage ≠ .reading)
  reading (h : r.stage = .reading) : r.buffer.next = .ok none
  delivering (item : Item) (h : r.stage = .delivering item) : HandsOut opened asked r.buffer

/-- Handing on frames asks one buffer after the other. -/
theorem asked_deliver (r : Inbound) (metrics : Metrics) :
    Asked r.buffer (r.deliverNoting metrics).2 (r.deliver metrics).1 := by
  rw [← fst_deliverNoting]
  fun_induction deliverNoting r metrics with
  | case1 r metrics fault hnext =>
    exact ⟨⟨[], .none r.buffer, Or.inl rfl⟩, by rintro ⟨⟩, by rintro _ ⟨⟩⟩
  | case2 r metrics hnext =>
    exact ⟨⟨[], .none r.buffer, Or.inl rfl⟩, fun _ => hnext, by rintro _ ⟨⟩⟩
  | case3 r metrics payload buffer hnext =>
    exact ⟨⟨[r.buffer], .next hnext (.none buffer), Or.inr ⟨rfl, by rintro ⟨⟩⟩⟩, by rintro ⟨⟩,
      by rintro _ ⟨⟩⟩
  | case4 r metrics payload buffer hnext item counted hpresent hroom result asked hrest ih =>
    rw [hrest] at ih
    obtain ⟨⟨taking, htaking, hcalls⟩, hreading, hdelivering⟩ := ih
    refine ⟨⟨r.buffer :: taking, .next hnext htaking, ?_⟩, hreading,
      fun item h => .next hnext (hdelivering item h)⟩
    exact hcalls.imp (congrArg (r.buffer :: ·)) (And.imp_left (congrArg (r.buffer :: ·)))
  | case5 r metrics payload buffer hnext =>
    exact ⟨⟨[r.buffer], .next hnext (.none buffer), Or.inr ⟨rfl, by rintro ⟨⟩⟩⟩, by rintro ⟨⟩,
      fun item _ => .next hnext (.none buffer)⟩

/-- Asking goes on where it was interrupted by a full queue. -/
theorem Asked.trans {opened : FrameBuffer} {asked more : List FrameBuffer}
    (h : HandsOut opened asked r.buffer) (hmore : Asked r.buffer more next) :
    Asked opened (asked ++ more) next := by
  obtain ⟨⟨taking, htaking, hcalls⟩, hreading, hdelivering⟩ := hmore
  refine ⟨⟨asked ++ taking, h.trans htaking, ?_⟩, hreading,
    fun item hstage => h.trans (hdelivering item hstage)⟩
  rw [List.append_assoc]
  exact hcalls.imp (congrArg (asked ++ ·)) (And.imp_left (congrArg (asked ++ ·)))

/-- Nothing is asked where the buffer stays, also if receiving ends. -/
theorem Asked.of_same {opened : FrameBuffer} {asked : List FrameBuffer} (h : Asked opened asked r)
    (hbuffer : next.buffer = r.buffer)
    (hstage : next.stage = r.stage ∨ ∃ outcome, next.stage = .ended outcome) :
    Asked opened asked next := by
  obtain ⟨handsOut, reading, delivering⟩ := h
  rcases hstage with hstage | ⟨outcome, hended⟩
  · rw [← hbuffer, ← hstage] at handsOut reading
    refine ⟨handsOut, reading, ?_⟩
    rw [hstage, hbuffer]
    exact delivering
  · obtain ⟨taking, htaking, hasked⟩ := handsOut
    rw [← hbuffer] at htaking hasked
    refine ⟨⟨taking, htaking, hasked.imp_right fun htook => ⟨htook.1, ?_⟩⟩, ?_, ?_⟩
    · simp [hended]
    · simp [hended]
    · simp [hended]

/-! ## Reads, watched -/

/-- What becomes of the bytes of one read. -/
structure Drain where
  /-- The buffer with these bytes in it. -/
  opened : FrameBuffer
  /-- The buffers that were asked for a payload since. -/
  asked : List FrameBuffer

/-- Receiving, with what becomes of each read. -/
structure Watch where
  inbound : Inbound
  metrics : Metrics
  /-- The reads, the last one first. -/
  drains : List Drain

/-- Whether an action reads bytes. -/
def Action.isRead : Action → Bool
  | .read _ => true
  | _ => false

/-- The buffers that are asked for a payload where an action happens. -/
def asksFor (r : Inbound) (metrics : Metrics) : Action → List FrameBuffer
  | .read chunk =>
    ({ r with buffer := r.buffer.extend chunk }.deliverNoting (metrics.countRead chunk.length)).2
  | .resume =>
    match r.stage with
    | .delivering item =>
      if r.disturbed || !r.consumed then [] else ((r.enqueue item).deliverNoting metrics).2
    | _ => []
  | _ => []

namespace Watch

/-- Receiving that has not begun. -/
def start (limit capacity : Nat) : Watch := ⟨.start limit capacity, .zero, []⟩

/-- The reads after an action, of which the last one goes on until there is another one. -/
def drainsAfter (w : Watch) (action : Action) : List Drain :=
  match action, w.drains with
  | .read chunk, drains =>
    ⟨w.inbound.buffer.extend chunk, w.inbound.asksFor w.metrics action⟩ :: drains
  | _, [] => []
  | _, drain :: earlier =>
    { drain with asked := drain.asked ++ w.inbound.asksFor w.metrics action } :: earlier

/-- What an action leads to, if it can happen. -/
def step? (w : Watch) (action : Action) : Option Watch :=
  (w.inbound.step? w.metrics action).map fun (inbound, metrics) =>
    ⟨inbound, metrics, w.drainsAfter action⟩

/-- Whatever can happen to receiving can be watched. -/
theorem exists_watch {actions : List Action} {e after : Exchange}
    (h : after? Exchange.step? e actions = some after) (drains : List Drain) :
    ∃ noted, after? Watch.step? ⟨e.inbound, e.metrics, drains⟩ actions =
      some ⟨after.inbound, after.metrics, noted⟩ := by
  induction actions generalizing e drains with
  | nil =>
    cases h
    exact ⟨drains, rfl⟩
  | cons action rest ih =>
    obtain ⟨next, hfirst, hrest⟩ := Option.bind_eq_some_iff.1 h
    obtain ⟨⟨inbound, metrics⟩, hstep, rfl⟩ := Option.map_eq_some_iff.1 hfirst
    obtain ⟨noted, hnoted⟩ := ih hrest _
    exact ⟨noted, after?_cons (Option.map_eq_some_iff.2 ⟨_, hstep, rfl⟩) hnoted⟩

end Watch

/-- The most bytes that wait for more. -/
def mostWaiting (limit : Nat) : Nat := min limit largestLength + 3

/-- What is known of a read under a limit. -/
structure Drain.Sound (limit : Nat) (drain : Drain) : Prop where
  limit_eq : drain.opened.limit = limit
  held : drain.opened.buffered ≤ mostWaiting limit + chunkLength
  handsOut : ∃ taking left, HandsOut drain.opened taking left ∧
    (drain.asked = taking ++ [left] ∨ drain.asked = taking)

/-- A buffer is asked at most once for every four bytes in it, and once more. -/
theorem Drain.Sound.length_asked {drain : Drain} (h : drain.Sound limit) :
    drain.asked.length ≤ drain.opened.buffered / prefixLength + 1 := by
  obtain ⟨taking, left, htaking, hcalls⟩ := h.handsOut
  have htook : taking.length ≤ drain.opened.buffered / prefixLength := by
    rw [Nat.le_div_iff_mul_le (by decide), Nat.mul_comm]
    exact Nat.le_trans (Nat.le_add_right _ _) htaking.spent
  rcases hcalls with hasked | hasked
  · rw [hasked, List.length_append]
    exact Nat.add_le_add_right htook 1
  · rw [hasked]
    exact Nat.le_succ_of_le htook

/-- What is asked holds no more than was there at first. -/
theorem Drain.Sound.of_mem {drain : Drain} (h : drain.Sound limit) {buffer : FrameBuffer}
    (hbuffer : buffer ∈ drain.asked) :
    buffer.limit = limit ∧ buffer.buffered ≤ mostWaiting limit + chunkLength := by
  obtain ⟨taking, left, htaking, hcalls⟩ := h.handsOut
  have hmem : buffer ∈ taking ∨ buffer = left := by
    rcases hcalls with hasked | hasked
    · simpa [hasked] using hbuffer
    · exact Or.inl (hasked ▸ hbuffer)
  rw [← h.limit_eq]
  rcases hmem with hmem | rfl
  · exact (htaking.of_mem hmem).imp_right fun hle => Nat.le_trans hle (h.limit_eq ▸ h.held)
  · exact ⟨htaking.limit_eq, Nat.le_trans htaking.left_le (h.limit_eq ▸ h.held)⟩

namespace Watch

variable {actions : List Action} {w after : Watch}

/-- What holds of receiving whatever has happened to it. -/
structure Sound (limit : Nat) (actions : List Action) (w : Watch) : Prop where
  limit_eq : w.inbound.buffer.limit = limit
  held : w.inbound.buffer.buffered ≤ mostWaiting limit + chunkLength
  waiting (h : w.inbound.stage = .reading) : w.inbound.buffer.next = .ok none
  reads : w.drains.length = actions.countP Action.isRead
  drains : ∀ drain ∈ w.drains, drain.Sound limit
  last : ∀ drain ∈ w.drains.head?, Asked drain.opened drain.asked w.inbound
  /-- An item that waits for room is of some read. -/
  begun (item : Item) (h : w.inbound.stage = .delivering item) : w.drains ≠ []

/-- At first there is nothing. -/
theorem sound_start (limit capacity : Nat) : Sound limit [] (start limit capacity) where
  limit_eq := rfl
  held := Nat.zero_le _
  waiting := fun _ => rfl
  reads := rfl
  drains := fun _ h => absurd h List.not_mem_nil
  last := by rintro _ ⟨⟩
  begun := by rintro _ ⟨⟩

/-- Bytes that are waiting for more are bounded. -/
theorem Sound.buffered_le (h : Sound limit actions w) (hstage : w.inbound.stage = .reading) :
    w.inbound.buffer.buffered ≤ mostWaiting limit := by
  have hle := buffered_le_of_next_eq_none (h.waiting hstage)
  rwa [h.limit_eq] at hle

/-- What touches neither the buffer nor what was asked of it changes nothing, also if it ends
receiving. -/
theorem Sound.of_same (h : Sound limit actions w) (hread : action.isRead = false)
    (hbuffer : after.inbound.buffer = w.inbound.buffer)
    (hstage : after.inbound.stage = w.inbound.stage ∨
      ∃ outcome, after.inbound.stage = .ended outcome)
    (hdrains : after.drains = w.drains) : Sound limit (actions ++ [action]) after where
  limit_eq := hbuffer ▸ h.limit_eq
  held := hbuffer ▸ h.held
  waiting := by
    intro hreading
    rcases hstage with hstage | ⟨outcome, hended⟩
    · exact hbuffer ▸ h.waiting (hstage ▸ hreading)
    · rw [hended] at hreading
      cases hreading
  reads := by simp [hdrains, h.reads, hread]
  drains := hdrains ▸ h.drains
  last := by
    rw [hdrains]
    exact fun drain hdrain => (h.last drain hdrain).of_same hbuffer hstage
  begun := by
    intro item hdelivering
    rcases hstage with hstage | ⟨outcome, hended⟩
    · exact hdrains ▸ h.begun item (hstage ▸ hdelivering)
    · rw [hended] at hdelivering
      cases hdelivering

/-- Asking for the payloads of the last read keeps to the bounds. -/
theorem Sound.of_asked {opened : FrameBuffer} {asked : List FrameBuffer} {earlier : List Drain}
    (hasked : Asked opened asked after.inbound) (hlimit : opened.limit = limit)
    (hheld : opened.buffered ≤ mostWaiting limit + chunkLength)
    (hdrains : after.drains = ⟨opened, asked⟩ :: earlier) (hearlier : ∀ d ∈ earlier, d.Sound limit)
    (hreads : earlier.length + 1 = actions.countP Action.isRead) : Sound limit actions after := by
  obtain ⟨taking, htaking, hcalls⟩ := hasked.handsOut
  have hsound : Drain.Sound limit ⟨opened, asked⟩ :=
    ⟨hlimit, hheld, taking, _, htaking, hcalls.imp_right And.left⟩
  exact {
    limit_eq := htaking.limit_eq.trans hlimit
    held := Nat.le_trans htaking.left_le hheld
    waiting := hasked.reading
    reads := hdrains ▸ hreads
    drains := hdrains ▸ List.forall_mem_cons.2 ⟨hsound, hearlier⟩
    last := by
      rw [hdrains]
      rintro _ ⟨⟩
      exact hasked
    begun := fun _ _ => hdrains ▸ List.cons_ne_nil _ _ }

/-- Where nothing is asked the reads stay as they are. -/
theorem drainsAfter_of_asksFor_eq_nil (hread : action.isRead = false)
    (hasks : w.inbound.asksFor w.metrics action = []) : w.drainsAfter action = w.drains := by
  cases hdrains : w.drains with
  | nil =>
    cases action with
    | read chunk => simp [Action.isRead] at hread
    | _ => simp only [drainsAfter, hdrains]
  | cons drain earlier =>
    cases action with
    | read chunk => simp [Action.isRead] at hread
    | _ => simp only [drainsAfter, hdrains, hasks, List.append_nil]

/-- Nothing is asked at an end that the stream brings. -/
theorem asksFor_of_close? {c : Close} (r : Inbound) (metrics : Metrics)
    (h : action.close? = some c) : r.asksFor metrics action = [] := by
  cases action <;> first | rfl | cases h

/-- What is stopped asks for nothing. -/
theorem asksFor_resume_of_stopped (metrics : Metrics)
    (h : r.disturbed = true ∨ r.consumed = false) : r.asksFor metrics .resume = [] := by
  cases hstage : r.stage with
  | delivering item =>
    have hstopped : (r.disturbed || !r.consumed) = true := by simpa using h
    simp only [asksFor, hstage, if_pos hstopped]
  | _ => simp only [asksFor, hstage]

/-- An item that has found room goes first. -/
theorem asksFor_resume_of_delivering {item : Item} (metrics : Metrics)
    (hstage : r.stage = .delivering item) (hundisturbed : r.disturbed = false)
    (hconsumed : r.consumed = true) :
    r.asksFor metrics .resume = ((r.enqueue item).deliverNoting metrics).2 := by
  simp [asksFor, hstage, hundisturbed, hconsumed]

/-- Whatever happens, all of that goes on to hold. -/
theorem Sound.step (h : Sound limit actions w) (hafter : w.step? action = some after) :
    Sound limit (actions ++ [action]) after := by
  obtain ⟨⟨next, later⟩, hstep, rfl⟩ := Option.map_eq_some_iff.1 hafter
  cases step_of_step? hstep with
  | read chunk hreading hchunk hlength =>
    have hasked := asked_deliver { w.inbound with buffer := w.inbound.buffer.extend chunk }
      (w.metrics.countRead chunk.length)
    have hwaiting := h.buffered_le (isReading_iff.1 hreading).1
    refine Sound.of_asked hasked h.limit_eq ?_ rfl h.drains ?_
    · rw [buffered_extend]
      exact Nat.add_le_add hwaiting hlength
    · rw [h.reads, List.countP_append]
      rfl
  | close c hreading haction =>
    have hread : action.isRead = false := by cases action <;> first | rfl | cases haction
    exact h.of_same hread rfl (Or.inr ⟨_, rfl⟩)
      (drainsAfter_of_asksFor_eq_nil hread (asksFor_of_close? _ _ haction))
  | stop hopen hstopped =>
    exact h.of_same rfl rfl (Or.inr ⟨_, rfl⟩)
      (drainsAfter_of_asksFor_eq_nil rfl (asksFor_resume_of_stopped _ hstopped))
  | deliver item hstage hundisturbed hconsumed hroom =>
    obtain ⟨drain, earlier, hdrains⟩ := List.exists_cons_of_ne_nil (h.begun item hstage)
    have hsound := List.forall_mem_cons.1 (hdrains ▸ h.drains)
    have hhands := (h.last drain (hdrains ▸ rfl)).delivering item hstage
    have hasked : Asked drain.opened
        (drain.asked ++ w.inbound.asksFor w.metrics .resume)
        ((w.inbound.enqueue item).deliver w.metrics).1 := by
      rw [asksFor_resume_of_delivering w.metrics hstage hundisturbed hconsumed]
      exact Asked.trans hhands (asked_deliver (w.inbound.enqueue item) w.metrics)
    refine Sound.of_asked hasked hsound.1.limit_eq hsound.1.held ?_ hsound.2 ?_
    · simp only [drainsAfter, hdrains]
    · simpa [Action.isRead, hdrains] using h.reads
  | take item rest hqueue hconsumed =>
    exact h.of_same rfl rfl (Or.inl rfl) (drainsAfter_of_asksFor_eq_nil rfl rfl)
  | leave => exact h.of_same rfl rfl (Or.inl rfl) (drainsAfter_of_asksFor_eq_nil rfl rfl)
  | disturb => exact h.of_same rfl rfl (Or.inl rfl) (drainsAfter_of_asksFor_eq_nil rfl rfl)

/-- What is known after any actions. -/
theorem sound_of_after? (h : after? step? (start limit capacity) actions = some w) :
    Sound limit actions w :=
  after?_induction (motive := Sound limit) (sound_start limit capacity)
    (fun _ _ _ _ _ hsound hstep => hsound.step hstep) h

end Watch

/-- Whatever a peer sends, receiving holds little of it, and works through it in few calls.

The buffer holds less than a frame of the longest payload that is accepted while bytes are waited
for, and never more than a read on top of that. Each read is one in the watch: the buffers that are
asked for its payloads hand one out each, one behind the other, up to the one that is left, and of
the last read the one that is left is the buffer of the moment. There is at most one of them for
every four bytes, and one more; and none of the calls takes a number from a smaller one, or asks for
more space than the longest payload that is accepted takes. -/
theorem space_bounded {limit capacity : Nat} {actions : List Action} {w : Watch}
    (h : after? Watch.step? (.start limit capacity) actions = some w) :
    (w.inbound.stage = .reading → w.inbound.buffer.buffered ≤ min limit largestLength + 3) ∧
    w.inbound.buffer.buffered ≤ min limit largestLength + 3 + chunkLength ∧
    w.drains.length = actions.countP Action.isRead ∧
    (∀ drain ∈ w.drains.head?, ∃ taking, HandsOut drain.opened taking w.inbound.buffer ∧
      (drain.asked = taking ++ [w.inbound.buffer] ∨
        drain.asked = taking ∧ w.inbound.stage ≠ .reading)) ∧
    ∀ drain ∈ w.drains,
      drain.opened.buffered ≤ min limit largestLength + 3 + chunkLength ∧
      (∃ taking left, HandsOut drain.opened taking left ∧
        (drain.asked = taking ++ [left] ∨ drain.asked = taking)) ∧
      drain.asked.length ≤ drain.opened.buffered / prefixLength + 1 ∧
      ∀ buffer ∈ drain.asked,
        buffer.buffered ≤ min limit largestLength + 3 + chunkLength ∧
        ∃ attempt, buffer.attempt? = some attempt ∧ buffer.next = attempt.answer limit ∧
          attempt.space ≤ limit := by
  have hsound := Watch.sound_of_after? h
  refine ⟨hsound.buffered_le, hsound.held, hsound.reads,
    fun drain hdrain => (hsound.last drain hdrain).handsOut, fun drain hdrain => ?_⟩
  have hdrain := hsound.drains drain hdrain
  refine ⟨hdrain.held, hdrain.handsOut, hdrain.length_asked, fun buffer hbuffer => ?_⟩
  obtain ⟨rfl, hheld⟩ := hdrain.of_mem hbuffer
  obtain ⟨attempt, hattempt, hanswer, hspace⟩ := buffer.exists_attempt
  exact ⟨hheld, attempt, hattempt, hanswer, Nat.le_trans hspace (Nat.min_le_left _ _)⟩

/-- Frames without payloads take a call each, also where the queue is full in between, and all but
one byte of a longest frame can wait. -/
theorem space_bounded_empty_frames :
    ∃ w, after? Watch.step? (.start 2 1)
        [.read [0, 0, 0, 0, 0, 0, 0, 0, 0, 0, 0, 2, 65], .take, .resume] = some w ∧
      w.inbound.buffer.buffered = 5 ∧ w.inbound.buffer.buffered ≤ min 2 largestLength + 3 ∧
      ∃ drain ∈ w.drains, drain.asked.length = 3 ∧
        drain.asked.length ≤ drain.opened.buffered / prefixLength + 1 := by
  obtain ⟨w, hw⟩ : ∃ w, after? Watch.step? (.start 2 1)
      [.read [0, 0, 0, 0, 0, 0, 0, 0, 0, 0, 0, 2, 65], .take, .resume] = some w :=
    Option.isSome_iff_exists.1 (by decide +kernel)
  have hrun : (after? Watch.step? (.start 2 1)
      [.read [0, 0, 0, 0, 0, 0, 0, 0, 0, 0, 0, 2, 65], .take, .resume]).any (fun w =>
        w.inbound.buffer.buffered = 5 ∧ w.inbound.isReading = true ∧
          w.drains.map (·.asked.length) = [3]) = true := by
    decide +kernel
  rw [hw] at hrun
  obtain ⟨hheld, hreading, hasked⟩ := of_decide_eq_true hrun
  obtain ⟨hwaits, -, -, -, hdrains⟩ := space_bounded hw
  obtain ⟨drain, hdrain, hthree⟩ : ∃ drain ∈ w.drains, drain.asked.length = 3 :=
    List.mem_map.1 (hasked ▸ List.mem_singleton_self 3)
  exact ⟨w, hw, hheld, hwaits (isReading_iff.1 hreading).1, drain, hdrain, hthree,
    (hdrains drain hdrain).2.2.1⟩

end Inbound

end Courier
