import Courier.Proofs.Inbound.Account
import Courier.Proofs.Steps

/-!
# Taking in a whole stream

A stream arrives in pieces and then ends or breaks off, while somebody takes items out of the queue.
Reading, going on and taking may follow each other in any order. Whatever the order and the pieces,
receiving hands on what one look at the whole stream finds in it, and ends as that look says
(`intake_eq_parse`).
-/

namespace Courier

open Courier.Frame

namespace Inbound

/-- How receiving a whole stream should end. -/
def verdict (limit : Nat) (bytes : Bytes) (close : Close) : Except Failure Unit :=
  match refused? limit (parse limit bytes).rest with
  | some length => .error (.frameTooLarge length limit)
  | none => close.outcome (parse limit bytes).rest

/-- The action that brings an end. -/
def Close.action : Close → Action
  | .streamEnd => .readEnd
  | .failure reason => .readFailure reason

/-- Receiving, the stream that is still to come, and the items that were taken. -/
structure Intake where
  inbound : Inbound
  metrics : Metrics
  /-- The pieces that are still to be read, in order. -/
  unread : List Bytes
  /-- How the stream comes to its end behind them. -/
  close : Close
  taken : List Item

/-- Whatever ends receiving badly ends the session. -/
theorem isFatal_of_verdict {limit : Nat} {bytes : Bytes} {close : Close} {failure : Failure}
    (h : verdict limit bytes close = .error failure) : failure.isFatal = true := by
  simp only [verdict] at h
  split at h
  · cases h
    rfl
  · cases close with
    | streamEnd =>
      simp only [Close.outcome] at h
      split at h <;> cases h
      rfl
    | failure reason =>
      cases h
      rfl

/-- The only fault of an item is that a payload is no envelope. -/
theorem exists_json_of_error_mem_items {limit : Nat} {bytes : Bytes} {fault : Envelope.Fault}
    (h : .error fault ∈ items limit bytes) : ∃ json, fault = .notEnvelope json := by
  obtain ⟨payload, -, hdecode⟩ := List.mem_map.1 h
  simp only [Envelope.decode] at hdecode
  cases hread : Json.read (α := Envelope) payload with
  | ok e =>
    rw [hread] at hdecode
    cases hdecode
  | error json =>
    rw [hread] at hdecode
    cases hdecode
    exact ⟨json, rfl⟩

namespace Intake

/-- What can happen while a stream is taken in. -/
inductive Move where
  /-- The next piece is read, or the end behind the last one. -/
  | read
  /-- Receiving looks again at what it waits for. -/
  | resume
  /-- The oldest item is taken out of the queue. -/
  | take
deriving DecidableEq, Repr

/-- A stream of which nothing was read. -/
def start (limit capacity : Nat) (chunks : List Bytes) (close : Close) : Intake :=
  ⟨.start limit capacity, .zero, chunks, close, []⟩

/-- What a move means for receiving. -/
def action (i : Intake) : Move → Action
  | .read =>
    match i.unread with
    | [] => i.close.action
    | chunk :: _ => .read chunk
  | .resume => .resume
  | .take => .take

/-- What a move leads to, if it can happen. -/
def step? (i : Intake) (move : Move) : Option Intake :=
  (i.inbound.step? i.metrics (i.action move)).map fun (inbound, metrics) =>
    { i with
      inbound
      metrics
      unread := if move = .read then i.unread.tail else i.unread
      taken := i.taken ++ i.inbound.itemsTaken (i.action move) }

/-- What all moves keep: some pieces were read, after which the stream may have ended, and receiving
tells what was in them. -/
structure Sound (limit : Nat) (chunks : List Bytes) (close : Close) (used : List Bytes)
    (ended : Option Close) (i : Intake) : Prop where
  whole : chunks = used ++ i.unread
  close_eq : i.close = close
  ended_eq : ended = none ∨ ended = some close ∧ i.unread = []
  undisturbed : i.inbound.Undisturbed limit used.flatten ended i.taken
  counted : Counted i.metrics used.flatten.length i.inbound.seen
  accepted : refused? limit (parse limit used.dropLast.flatten).rest = none

/-- How far the taking in has come. -/
def progress (used : List Bytes) (ended : Option Close) (i : Intake) : Nat :=
  used.length + ended.toList.length + i.inbound.delivered.length + i.taken.length

variable {limit capacity : Nat} {chunks used : List Bytes} {close : Close} {ended : Option Close}
  {i next : Intake} {move : Move}

/-- At first nothing was read. -/
theorem sound_start (limit : Nat) (hcapacity : 1 ≤ capacity) (chunks : List Bytes) (close : Close) :
    Sound limit chunks close [] none (start limit capacity chunks close) where
  whole := rfl
  close_eq := rfl
  ended_eq := Or.inl rfl
  undisturbed := undisturbed_start limit hcapacity
  counted := counted_zero
  accepted := by
    rw [List.dropLast_nil, List.flatten_nil, parse_of_isStuck (isStuck_nil limit)]
    rfl

/-- A move is one of receiving. -/
theorem step_of_step? (h : i.step? move = some next) :
    i.inbound.Step i.metrics (i.action move) next.inbound next.metrics ∧ next.close = i.close ∧
      next.unread = (if move = .read then i.unread.tail else i.unread) ∧
      next.taken = i.taken ++ i.inbound.itemsTaken (i.action move) := by
  obtain ⟨⟨inbound, metrics⟩, hstep, rfl⟩ := Option.map_eq_some_iff.1 h
  exact ⟨Inbound.step_of_step? hstep, rfl, rfl, rfl⟩

/-- Moves neither leave nor disturb. -/
theorem action_ne (i : Intake) (move : Move) :
    i.action move ≠ .leave ∧ i.action move ≠ .disturb := by
  cases move with
  | read =>
    simp only [action]
    split
    · cases i.close <;> exact ⟨Action.noConfusion, Action.noConfusion⟩
    · exact ⟨Action.noConfusion, Action.noConfusion⟩
  | resume => exact ⟨Action.noConfusion, Action.noConfusion⟩
  | take => exact ⟨Action.noConfusion, Action.noConfusion⟩

/-- Reading brings bytes or the end. -/
theorem isInput_read (i : Intake) : (i.action .read).isInput = true := by
  simp only [action]
  split
  · cases i.close <;> rfl
  · rfl

/-- What every move keeps, whatever it reads. -/
theorem Sound.of_step (h : Sound limit chunks close used ended i) (hmove : i.step? move = some next)
    {read : List Bytes} {closing : Option Close}
    (hread : used.flatten ++ (i.action move).bytes = read.flatten)
    (hclosing : ended.or (i.action move).close? = closing) (hwhole : chunks = read ++ next.unread)
    (hended : closing = none ∨ closing = some close ∧ next.unread = [])
    (haccepted : refused? limit (parse limit read.dropLast.flatten).rest = none) :
    Sound limit chunks close read closing next := by
  obtain ⟨hstep, hclose, -, htaken⟩ := step_of_step? hmove
  obtain ⟨hleave, hdisturb⟩ := i.action_ne move
  have hlength : used.flatten.length + (i.action move).bytes.length = read.flatten.length := by
    rw [← hread, List.length_append]
  exact {
    whole := hwhole
    close_eq := hclose.trans h.close_eq
    ended_eq := hended
    undisturbed := hread ▸ hclosing ▸ htaken ▸ h.undisturbed.step hstep hleave hdisturb
    counted := hlength ▸ hstep.counted h.undisturbed.not_disturbed h.undisturbed.consumed h.counted
    accepted := haccepted }

/-- Every move keeps what is known, and brings the taking in further. -/
theorem Sound.step (h : Sound limit chunks close used ended i)
    (hmove : i.step? move = some next) :
    ∃ read closing, Sound limit chunks close read closing next ∧
      progress used ended i < progress read closing next := by
  obtain ⟨hstep, -, hunread, htaken⟩ := step_of_step? hmove
  have hmore := hstep.delivered_prefix.length_le
  have hkept : i.taken.length ≤ next.taken.length := by
    rw [htaken, List.length_append]
    omega
  cases move with
  | read =>
    obtain ⟨-, haccepted, rfl⟩ := h.undisturbed.of_isReading (hstep.isReading i.isInput_read)
    rw [if_pos rfl] at hunread
    cases hleft : i.unread with
    | nil =>
      have haction : i.action .read = i.close.action := by simp only [action, hleft]
      have hcloses : (i.action .read).close? = some close := by
        rw [haction, ← h.close_eq]
        cases i.close <;> rfl
      rw [hleft] at hunread
      refine ⟨used, some close, h.of_step hmove ?_ hcloses ?_ (Or.inr ⟨rfl, hunread⟩) h.accepted,
        ?_⟩
      · rw [Action.bytes_of_close? hcloses, List.append_nil]
      · rw [hunread, h.whole, hleft]
        rfl
      · simp only [progress, Option.toList, List.length_nil, List.length_singleton]
        omega
    | cons chunk rest =>
      have haction : i.action .read = .read chunk := by simp only [action, hleft]
      rw [hleft] at hunread
      refine ⟨used ++ [chunk], none, h.of_step hmove ?_ ?_ ?_ (Or.inl rfl) ?_, ?_⟩
      · rw [haction, List.flatten_append, List.flatten_singleton]
        rfl
      · rw [haction]
        rfl
      · rw [hunread, h.whole, hleft, List.append_assoc]
        rfl
      · rwa [List.dropLast_concat]
      · simp only [progress, List.length_append, List.length_singleton]
        omega
  | resume =>
    rw [if_neg (by decide)] at hunread
    have hlonger := hstep.delivered_lt_of_resume h.undisturbed.not_disturbed h.undisturbed.consumed
    refine ⟨used, ended, h.of_step hmove (List.append_nil _) (Option.or_none) (hunread ▸ h.whole)
      (hunread ▸ h.ended_eq) h.accepted, ?_⟩
    simp only [progress]
    omega
  | take =>
    rw [if_neg (by decide)] at hunread
    have hlonger : i.taken.length < next.taken.length := by
      rw [htaken, List.length_append]
      exact Nat.lt_add_of_pos_right hstep.itemsTaken_of_take
    refine ⟨used, ended, h.of_step hmove (List.append_nil _) (Option.or_none) (hunread ▸ h.whole)
      (hunread ▸ h.ended_eq) h.accepted, ?_⟩
    simp only [progress]
    omega

/-- What is known after any moves, of which there are no more than the taking in has come
further. -/
theorem sound_of_after? {moves : List Move} (hcapacity : 1 ≤ capacity)
    (h : after? step? (start limit capacity chunks close) moves = some i) :
    ∃ used ended, Sound limit chunks close used ended i ∧
      moves.length ≤ progress used ended i := by
  refine after?_induction (motive := fun moves i => ∃ used ended,
    Sound limit chunks close used ended i ∧ moves.length ≤ progress used ended i)
    ⟨[], none, sound_start limit hcapacity chunks close, Nat.zero_le _⟩ ?_ h
  intro moves i move next _ ⟨used, ended, hsound, hlength⟩ hmove
  obtain ⟨read, closing, hnext, hprogress⟩ := hsound.step hmove
  refine ⟨read, closing, hnext, ?_⟩
  rw [List.length_append, List.length_singleton]
  omega

/-- When receiving has ended, it has handed on what the whole stream holds, and has judged it. -/
theorem Sound.parsed (h : Sound limit chunks close used ended i)
    {outcome : Except Failure Unit} (houtcome : i.inbound.outcome? = some outcome) :
    i.inbound.delivered = items limit chunks.flatten ∧
      outcome = verdict limit chunks.flatten close ∧
      (refused? limit (parse limit used.flatten).rest = none → i.unread = []) := by
  obtain ⟨hdelivered, hend⟩ := h.undisturbed.of_outcome? houtcome
  rcases h.ended_eq with rfl | ⟨rfl, hunread⟩
  · obtain ⟨length, hrefused, rfl⟩ := hend
    have hall : parse limit chunks.flatten =
        ⟨(parse limit used.flatten).payloads,
          (parse limit used.flatten).rest ++ i.unread.flatten⟩ := by
      rw [h.whole, List.flatten_append, parse_append_of_refused? hrefused]
    rw [items, verdict, hall, refused?_append hrefused]
    refine ⟨hdelivered, rfl, ?_⟩
    intro haccepted
    rw [hrefused] at haccepted
    cases haccepted
  · obtain ⟨haccepted, rfl⟩ := hend
    obtain rfl : used = chunks := by rw [h.whole, hunread, List.append_nil]
    rw [verdict, haccepted]
    exact ⟨hdelivered, rfl, fun _ => hunread⟩

/-- What was handed on are the first items of the whole stream. -/
theorem Sound.delivered_prefix (h : Sound limit chunks close used ended i) :
    i.inbound.delivered <+: items limit chunks.flatten := by
  rw [h.whole, List.flatten_append]
  exact h.undisturbed.delivered_prefix.trans ((payloads_parse_append limit _ _).map Envelope.decode)

/-- Every piece is read once, and every item is handed on once and taken once. -/
theorem Sound.progress_le (h : Sound limit chunks close used ended i) :
    progress used ended i ≤ chunks.length + 1 + 2 * (items limit chunks.flatten).length := by
  have hdelivered := h.delivered_prefix.length_le
  have htaken := congrArg List.length h.undisturbed.queue
  have hused := congrArg List.length h.whole
  have hended : ended.toList.length ≤ 1 := by cases ended <;> simp
  rw [List.length_append] at htaken hused
  rw [progress]
  omega

/-- Only the end of receiving keeps everybody waiting. -/
theorem Sound.outcome_of_step?_eq_none (h : Sound limit chunks close used ended i)
    (hchunks : ∀ chunk ∈ chunks, chunk ≠ [] ∧ chunk.length ≤ chunkLength)
    (hwaiting : ∀ move, i.step? move = none) :
    ∃ outcome, i.inbound.outcome? = some outcome ∧ i.taken = i.inbound.delivered := by
  have hwaits (move : Move) : i.inbound.step? i.metrics (i.action move) = none :=
    Option.map_eq_none_iff.1 (hwaiting move)
  have hqueue := h.undisturbed.queue_eq_nil (hwaits .take)
  obtain ⟨htaken, hreading | ⟨outcome, houtcome⟩⟩ :=
    h.undisturbed.of_step?_resume_eq_none hqueue (hwaits .resume)
  · have hread := hwaits .read
    cases hunread : i.unread with
    | nil =>
      rw [action, hunread] at hread
      cases hclose : i.close <;> simp [hclose, Close.action, Inbound.step?, hreading] at hread
    | cons chunk rest =>
      obtain ⟨hchunk, hlength⟩ := hchunks chunk (by simp [h.whole, hunread])
      rw [action, hunread] at hread
      exact absurd hread (step?_read_ne_none hreading hchunk hlength)
  · exact ⟨outcome, houtcome, htaken⟩

end Intake

/-- However a stream arrives, receiving equals parsing it.

What is handed on are the payloads of the parse, decoded one by one, and an item is no more than a
fault where its payload is no envelope. When receiving ends all of them are in the queue or taken;
it ends with the length that is refused, or else as the end of the stream and the bytes left over
say, and fatally unless well. By then only the pieces up to a refused length were read, and the
counters say what was read, seen and not understood. As long as the queue has room for one item and
pieces can be read at once, the moves come to an end, and when none is left all items are taken. -/
theorem intake_eq_parse {limit capacity : Nat} {chunks : List Bytes} {close : Close}
    {moves : List Intake.Move} {i : Intake} (hcapacity : 1 ≤ capacity)
    (hchunks : ∀ chunk ∈ chunks, chunk ≠ [] ∧ chunk.length ≤ chunkLength)
    (h : after? Intake.step? (.start limit capacity chunks close) moves = some i) :
    i.inbound.delivered <+: items limit chunks.flatten ∧
    i.taken ++ i.inbound.queue = i.inbound.delivered ∧
    (∀ fault, .error fault ∈ items limit chunks.flatten →
      (∃ json, fault = .notEnvelope json) ∧ (Failure.malformedEnvelope fault).isFatal = false) ∧
    (∀ outcome, i.inbound.outcome? = some outcome →
      i.inbound.delivered = items limit chunks.flatten ∧
      outcome = verdict limit chunks.flatten close ∧
      (∀ failure, outcome = .error failure → failure.isFatal = true) ∧
      ∃ used, chunks = used ++ i.unread ∧
        refused? limit (parse limit used.dropLast.flatten).rest = none ∧
        (refused? limit (parse limit used.flatten).rest = none → i.unread = []) ∧
        Counted i.metrics used.flatten.length (items limit chunks.flatten)) ∧
    moves.length ≤ chunks.length + 1 + 2 * (items limit chunks.flatten).length ∧
    ((∀ move, i.step? move = none) →
      ∃ outcome, i.inbound.outcome? = some outcome ∧ i.taken = items limit chunks.flatten) := by
  obtain ⟨used, ended, hsound, hmoves⟩ := Intake.sound_of_after? hcapacity h
  refine ⟨hsound.delivered_prefix, hsound.undisturbed.queue,
    fun fault hfault => ⟨exists_json_of_error_mem_items hfault, rfl⟩, ?_,
    Nat.le_trans hmoves hsound.progress_le, ?_⟩
  · intro outcome houtcome
    obtain ⟨hdelivered, rfl, hunread⟩ := hsound.parsed houtcome
    have hwaits (item : Item) : i.inbound.stage ≠ .delivering item := by
      intro hstage
      simp [outcome?, hstage] at houtcome
    refine ⟨hdelivered, rfl, fun failure => isFatal_of_verdict, used, hsound.whole, hsound.accepted,
      hunread, ?_⟩
    rw [← hdelivered, ← seen_eq_delivered hwaits]
    exact hsound.counted
  · intro hwaiting
    obtain ⟨outcome, houtcome, htaken⟩ := hsound.outcome_of_step?_eq_none hchunks hwaiting
    exact ⟨outcome, houtcome, htaken.trans (hsound.parsed houtcome).1⟩

/-- A frame that holds no envelope is handed on as such, the refused length behind it ends
receiving, and what comes after that is not read. -/
theorem intake_eq_parse_refused_length :
    ∃ i, after? Intake.step?
        (.start 16 1 [[0, 0, 0, 1, 65, 0], [0, 1, 0], [66]] .streamEnd)
        [.read, .take, .read] = some i ∧
      i.inbound.outcome? = some (.error (.frameTooLarge 256 16)) ∧
      i.inbound.delivered = items 16 [0, 0, 0, 1, 65, 0, 0, 1, 0, 66] := by
  obtain ⟨i, hi⟩ : ∃ i, after? Intake.step?
      (.start 16 1 [[0, 0, 0, 1, 65, 0], [0, 1, 0], [66]] .streamEnd)
      [.read, .take, .read] = some i :=
    Option.isSome_iff_exists.1 (by decide +kernel)
  have hended : (after? Intake.step?
      (.start 16 1 [[0, 0, 0, 1, 65, 0], [0, 1, 0], [66]] .streamEnd) [.read, .take, .read]).any
        (fun i => i.inbound.outcome?.isSome) = true := by decide +kernel
  have hrefused : refused? 16 (parse 16 [0, 0, 0, 1, 65, 0, 0, 1, 0, 66]).rest = some 256 := by
    decide +kernel
  rw [hi] at hended
  obtain ⟨outcome, houtcome⟩ := Option.isSome_iff_exists.1 hended
  obtain ⟨-, -, -, hend, -, -⟩ := intake_eq_parse (by decide) (by decide) hi
  obtain ⟨hdelivered, hverdict, -, -⟩ := hend outcome houtcome
  refine ⟨i, hi, ?_, hdelivered⟩
  rw [houtcome, hverdict]
  change some (verdict 16 [0, 0, 0, 1, 65, 0, 0, 1, 0, 66] .streamEnd) = _
  simp only [verdict, hrefused]

end Inbound

end Courier
