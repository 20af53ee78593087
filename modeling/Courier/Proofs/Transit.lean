import Courier.Proofs.Envelope.RoundTrip
import Courier.Proofs.Inbound.Intake
import Courier.Proofs.Outbound.Turns

/-!
# From one end to the other

What one session sends, another receives. The bytes that the sink of the one has taken are cut in
any way and read by the other, and its queue gets the envelopes of the sends that ended well, in the
order of their start, and at most one more, of which the sink has taken all bytes although its send
has not ended well. A frame that breaks off shows in how receiving ends (`delivered_eq_sent`).
-/

namespace Courier

open Courier.Frame

/-! ## Frames that break off -/

/-- From a part of a layout nothing can be taken, and no length is refused in it. -/
theorem Frame.part_of_layout {limit : Nat} {payload part : Bytes} (hfits : Fits limit payload)
    (hpart : part <+: layout payload) (hless : part ≠ layout payload) :
    IsStuck limit part ∧ refused? limit part = none := by
  obtain ⟨more, hmore⟩ := hpart
  cases hannounced : announced? part with
  | none =>
    exact ⟨Or.inl ((announced?_eq_none_iff part).1 hannounced), by simp [refused?, hannounced]⟩
  | some length =>
    have hlength : length = payload.length := by
      have hwhole := announced?_layout_append hfits.2 []
      rw [List.append_nil, ← hmore, announced?_append hannounced] at hwhole
      exact Option.some.inj hwhole
    have hshort : part.length < prefixLength + length := by
      rw [hlength, ← length_layout, ← hmore, List.length_append]
      have hrest : more ≠ [] := by
        rintro rfl
        exact hless (by rw [← hmore, List.append_nil])
      have hpos := List.length_pos_iff.2 hrest
      omega
    refine ⟨Or.inr ⟨length, hannounced, Or.inr hshort⟩, Option.eq_none_iff_forall_ne_some.2 ?_⟩
    intro refused hrefused
    obtain ⟨hsame, habove⟩ := (refused?_eq_some_iff limit refused part).1 hrefused
    cases hsame.symm.trans hannounced
    exact absurd hfits.1 (Nat.not_le.2 (hlength ▸ habove))

namespace Outbound

variable {actions : List Action} {c : History}

/-! ## What is on the wire -/

/-- A send has not ended well: it holds the sink still, or has failed. -/
def IsUnfinished (o : Outbound) (number : Nat) : Prop :=
  (∃ a, o.active = some a ∧ a.send.number = number) ∨
    ∃ failure, o.result? number = some (.error failure)

/-- Whether some bytes are a part of the frame of a send that has not ended well. -/
def IsTorn (actions : List Action) (o : Outbound) (torn : Bytes) : Prop :=
  ∃ number e frame, .send number e ∈ actions ∧ o.IsUnfinished number ∧ e.toFrame = .ok frame ∧
    torn <+: frame ∧ torn ≠ frame

/-- The sink has taken the frames of the sends that ended well, in the order of their start. Behind
them is at most one whole frame more, or a part of a frame, of a send that has not ended well. -/
theorem History.exists_wire (h : after? History.step? .start actions = some c)
    (hkept : ∀ a ∈ actions, a.isAbandon = false) :
    ∃ (more : Option (Nat × Envelope)) (torn : Bytes),
      c.outbound.written = framesOf (sent actions c.outbound ++ more.toList) ++ torn ∧
      (∀ s ∈ sent actions c.outbound ++ more.toList,
        .send s.1 s.2 ∈ actions ∧ ∃ frame, s.2.toFrame = .ok frame) ∧
      (∀ s ∈ more, c.outbound.IsUnfinished s.1 ∧ torn = []) ∧
      (torn = [] ∨ IsTorn actions c.outbound torn) := by
  obtain ⟨done, hsound⟩ := History.sound_of_after? h hkept
  obtain ⟨last, part, hturns, hwritten, hrest⟩ := hsound.written_eq
  have horder : (done.map Waiter.send).Sublist (actions.filterMap Action.waiter?) := by
    have hturn := History.inTurn_of_after? h hkept
    rw [InTurn, hturns, List.map_append, List.append_assoc] at hturn
    exact (List.sublist_append_left _ _).trans hturn
  have hframes := hsound.framesOf_sent horder
  have hsent : ∀ s ∈ sent actions c.outbound,
      .send s.1 s.2 ∈ actions ∧ ∃ frame, s.2.toFrame = .ok frame := fun s hs =>
    ⟨(mem_sends_iff actions s.1 s.2).1 (List.mem_filter.1 hs).1,
      hsound.exists_frame_of_mem_sent (hturns ▸ List.prefix_append _ _) hs⟩
  cases last with
  | none =>
    obtain rfl : part = [] := hrest
    exact ⟨none, [], by simpa [hframes] using hwritten, by simpa using hsent, by simp, Or.inl rfl⟩
  | some s =>
    obtain ⟨hpart, hholds⟩ := hrest
    have hs : s ∈ c.turns := hturns ▸ List.mem_append_right _ List.mem_cons_self
    obtain ⟨e, he, hframe⟩ := hsound.exists_send_of_mem_turns hs
    have hunfinished : c.outbound.IsUnfinished s.number :=
      hholds.imp (fun hactive => ⟨_, hactive, rfl⟩) And.right
    by_cases hwhole : part = s.frame
    · have hlayout : s.frame = layout e.toBytes := ((encode_eq_ok_iff _ _).1 hframe).2
      refine ⟨some (s.number, e), [], ?_, ?_, ?_, Or.inl rfl⟩
      · rw [hwritten, hwhole, hlayout, ← hframes]
        simp [framesOf]
      · intro t ht
        rcases List.mem_append.1 ht with ht | ht
        · exact hsent t ht
        · obtain rfl := List.mem_singleton.1 ht
          exact ⟨he, _, hframe⟩
      · intro t ht
        cases ht
        exact ⟨hunfinished, rfl⟩
    · refine ⟨none, part, by simpa [hframes] using hwritten, by simpa using hsent, by simp,
        Or.inr ⟨s.number, e, s.frame, he, hunfinished, hframe, hpart, hwhole⟩⟩

end Outbound

open Outbound Inbound

variable {actions : List Outbound.Action} {c : History} {limit : Nat}

/-- An envelope that has a frame can stand in a stream whose limit it respects. -/
theorem fits_of_toFrame {e : Envelope} {frame : Bytes} (hframe : e.toFrame = .ok frame)
    (hlimit : e.toBytes.length ≤ limit) : Fits limit e.toBytes ∧ frame = layout e.toBytes := by
  obtain ⟨hlength, hlayout⟩ := (encode_eq_ok_iff _ _).1 hframe
  exact ⟨⟨hlimit, hlength⟩, hlayout⟩

/-- What is on the wire is parsed into the payloads of its envelopes, and into what was torn off. -/
theorem parse_wire {wired : List (Nat × Envelope)} {torn : Bytes}
    (hlimit : ∀ number e, .send number e ∈ actions → e.toBytes.length ≤ limit)
    (hwired : ∀ s ∈ wired, .send s.1 s.2 ∈ actions ∧ ∃ frame, s.2.toFrame = .ok frame)
    (htorn : torn = [] ∨ IsTorn actions c.outbound torn) :
    parse limit (framesOf wired ++ torn) = ⟨wired.map fun s => s.2.toBytes, torn⟩ ∧
      refused? limit torn = none := by
  have hstuck : IsStuck limit torn ∧ refused? limit torn = none := by
    rcases htorn with rfl | ⟨number, e, frame, he, -, hframe, hpart, hless⟩
    · exact ⟨isStuck_nil limit, rfl⟩
    · obtain ⟨hfits, rfl⟩ := fits_of_toFrame hframe (hlimit number e he)
      exact part_of_layout hfits hpart hless
  refine ⟨(parse_eq_iff _ _ _ _).2 ⟨?_, ?_, hstuck.1⟩, hstuck.2⟩
  · rw [framesOf, List.flatMap_map]
  · intro payload hpayload
    obtain ⟨s, hs, rfl⟩ := List.mem_map.1 hpayload
    obtain ⟨he, frame, hframe⟩ := hwired s hs
    exact (fits_of_toFrame hframe (hlimit s.1 s.2 he)).1

/-- What one session sends is what another receives, as long as no send is given up from outside.

However the sink takes bytes, fails, or is taken away, and however the switch is turned, it has
taken the frames of the sends that ended well, in the order of their start. Behind them is at most
one whole frame more, or a part of one, of a send that has not ended well. However these bytes are
cut and followed by the end of the stream, the receiving side hands on just the envelopes of the
whole frames, in this order, and none of its items is a fault. It ends well if no frame was torn,
and otherwise with the number of bytes of the torn one. The moves come to an end, and when none is
left receiving has ended and everything was taken. -/
theorem delivered_eq_sent {capacity : Nat} {chunks : List Bytes} {moves : List Intake.Move}
    {i : Intake} (h : after? History.step? .start actions = some c)
    (hkept : ∀ a ∈ actions, a.isAbandon = false)
    (hlimit : ∀ number e, .send number e ∈ actions → e.toBytes.length ≤ limit)
    (hcapacity : 1 ≤ capacity)
    (hchunks : ∀ chunk ∈ chunks, chunk ≠ [] ∧ chunk.length ≤ chunkLength)
    (hcut : chunks.flatten = c.outbound.written)
    (hmoves : after? Intake.step? (.start limit capacity chunks .streamEnd) moves = some i) :
    ∃ (more : Option (Nat × Envelope)) (torn : Bytes) (expected : List Item),
      c.outbound.written = framesOf (sent actions c.outbound ++ more.toList) ++ torn ∧
      (∀ s ∈ more, .send s.1 s.2 ∈ actions ∧ c.outbound.IsUnfinished s.1 ∧ torn = []) ∧
      (torn = [] ∨ IsTorn actions c.outbound torn) ∧
      expected = (sent actions c.outbound ++ more.toList).map (fun s => .ok s.2) ∧
      i.inbound.delivered <+: expected ∧ i.taken ++ i.inbound.queue = i.inbound.delivered ∧
      (∀ outcome, i.inbound.outcome? = some outcome → i.inbound.delivered = expected ∧
        outcome = if torn = [] then .ok () else .error (.incompleteFrame torn.length)) ∧
      moves.length ≤ chunks.length + 1 + 2 * expected.length ∧
      ((∀ move, i.step? move = none) →
        ∃ outcome, i.inbound.outcome? = some outcome ∧ i.taken = expected) := by
  obtain ⟨more, torn, hwritten, hwired, hmore, htorn⟩ := History.exists_wire h hkept
  obtain ⟨used, ended, hsound, hprogress⟩ := Intake.sound_of_after? hcapacity hmoves
  obtain ⟨hparse, hrefused⟩ := parse_wire hlimit hwired htorn
  rw [← hwritten, ← hcut] at hparse
  have hitems : items limit chunks.flatten =
      (sent actions c.outbound ++ more.toList).map (fun s => .ok s.2) := by
    rw [items, hparse, List.map_map]
    exact List.map_congr_left fun s _ => Envelope.decode_toBytes s.2
  have hverdict : verdict limit chunks.flatten .streamEnd =
      if torn = [] then .ok () else .error (.incompleteFrame torn.length) := by
    simp only [verdict, hparse, hrefused, Close.outcome]
  refine ⟨more, torn, _, hwritten, ?_, htorn, rfl, hitems ▸ hsound.delivered_prefix,
    hsound.undisturbed.queue, ?_, hitems ▸ Nat.le_trans hprogress hsound.progress_le, ?_⟩
  · exact fun s hs =>
      ⟨(hwired s (List.mem_append_right _ (by simpa using hs))).1, hmore s hs⟩
  · intro outcome houtcome
    obtain ⟨hdelivered, rfl, -⟩ := hsound.parsed houtcome
    exact ⟨hdelivered.trans hitems, hverdict⟩
  · intro hwaiting
    obtain ⟨outcome, houtcome, htaken⟩ := hsound.outcome_of_step?_eq_none hchunks hwaiting
    exact ⟨outcome, houtcome, (htaken.trans (hsound.parsed houtcome).1).trans hitems⟩

/-- The frame of the second send breaks off after ten bytes, and all that was written is read in two
pieces. The envelope of the first send arrives, and the ten bytes show in how receiving ends. -/
theorem delivered_eq_sent_torn :
    ∃ c i, after? History.step? .start [.send 0 ⟨"TASK", "", 1⟩, .send 1 ⟨"TASK", "", 2⟩,
      .accept 39,
        .flush, .poll 1, .accept 10, .refuse "broken pipe"] = some c ∧
      after? Intake.step? (.start 4096 1 [c.outbound.written.take 7, c.outbound.written.drop 7]
        .streamEnd) [.read, .read, .read] = some i ∧
      i.inbound.delivered = [.ok ⟨"TASK", "", 1⟩] ∧
      i.inbound.outcome? = some (.error (.incompleteFrame 10)) := by
  obtain ⟨c, hc⟩ : ∃ c, after? History.step? .start [.send 0 ⟨"TASK", "", 1⟩,
      .send 1 ⟨"TASK", "", 2⟩, .accept 39, .flush, .poll 1, .accept 10,
      .refuse "broken pipe"] = some c := Option.isSome_iff_exists.1 (by decide +kernel)
  have hstate : (after? History.step? .start [.send 0 ⟨"TASK", "", 1⟩, .send 1 ⟨"TASK", "", 2⟩,
      .accept 39, .flush, .poll 1, .accept 10, .refuse "broken pipe"]).map (fun c =>
        (c.outbound.isOver 0, c.outbound.isOver 1, c.outbound.written)) =
      some (true, false, layout (Envelope.toBytes ⟨"TASK", "", 1⟩) ++
        (layout (Envelope.toBytes ⟨"TASK", "", 2⟩)).take 10) := by decide +kernel
  rw [hc] at hstate
  simp only [Option.map_some, Option.some.injEq, Prod.mk.injEq] at hstate
  obtain ⟨hfirst, hsecond, hwritten⟩ := hstate
  obtain ⟨i, hi⟩ : ∃ i, after? Intake.step? (.start 4096 1
      [c.outbound.written.take 7, c.outbound.written.drop 7] .streamEnd)
        [.read, .read, .read] = some i := by
    rw [hwritten]
    exact Option.isSome_iff_exists.1 (by decide +kernel)
  have hended : (after? Intake.step? (.start 4096 1
      [c.outbound.written.take 7, c.outbound.written.drop 7] .streamEnd)
        [.read, .read, .read]).map (fun i =>
          (i.inbound.outcome?.isSome, i.inbound.delivered.length)) = some (true, 1) := by
    rw [hwritten]
    decide +kernel
  rw [hi] at hended
  simp only [Option.map_some, Option.some.injEq, Prod.mk.injEq] at hended
  obtain ⟨outcome, houtcome⟩ := Option.isSome_iff_exists.1 hended.1
  have hsent : sent [.send 0 ⟨"TASK", "", 1⟩, .send 1 ⟨"TASK", "", 2⟩, .accept 39, .flush, .poll 1,
      .accept 10, .refuse "broken pipe"] c.outbound = [(0, ⟨"TASK", "", 1⟩)] := by
    simp [sent, sends, Outbound.Action.send?, hfirst, hsecond]
  have hlimit : ∀ number e, Outbound.Action.send number e ∈ [Outbound.Action.send 0 ⟨"TASK", "", 1⟩,
      .send 1 ⟨"TASK", "", 2⟩, .accept 39, .flush, .poll 1, .accept 10, .refuse "broken pipe"] →
        e.toBytes.length ≤ 4096 := by
    intro number e he
    have hcase : e = ⟨"TASK", "", 1⟩ ∨ e = ⟨"TASK", "", 2⟩ := by
      simp only [List.mem_cons, Outbound.Action.send.injEq, reduceCtorEq, List.not_mem_nil,
        or_false] at he
      exact he.imp And.right And.right
    rcases hcase with rfl | rfl <;> decide +kernel
  have hchunks : ∀ chunk ∈ [c.outbound.written.take 7, c.outbound.written.drop 7],
      chunk ≠ [] ∧ chunk.length ≤ chunkLength := by
    rw [hwritten]
    decide +kernel
  obtain ⟨more, torn, expected, hwire, -, -, rfl, -, -, hend, -⟩ :=
    delivered_eq_sent hc (by decide) hlimit (by decide) hchunks (by simp) hi
  obtain ⟨hdelivered, rfl⟩ := hend outcome houtcome
  have hnone : more = none := by
    have hlength := congrArg List.length hdelivered
    rw [hended.2, hsent] at hlength
    cases more with
    | none => rfl
    | some s => simp at hlength
  have htorn : torn = (layout (Envelope.toBytes ⟨"TASK", "", 2⟩)).take 10 := by
    rw [hwritten, hsent, hnone] at hwire
    simpa [framesOf] using hwire.symm
  refine ⟨c, i, hc, hi, ?_, ?_⟩
  · rw [hdelivered, hsent, hnone]
    rfl
  · rw [houtcome, htorn]
    have hlength : ((layout (Envelope.toBytes ⟨"TASK", "", 2⟩)).take 10).length = 10 := by
      decide +kernel
    rw [if_neg (List.ne_nil_of_length_pos (by rw [hlength]; decide)), hlength]

end Courier
