import Courier.Proofs.Frame.Parse

/-!
# Reassembly of frames

A frame buffer under any calls in any order, calls after errors included. What was given to it is
always the frames of the payloads that it handed out and then what it holds (`reassembly`). Since
feeding leaves nothing in the buffer that could still be taken, the payloads depend on the stream
alone, and not on how it was cut.
-/

namespace Courier

open Courier.Frame

namespace FrameBuffer

/-! ## One payload -/

/-- Taking a payload, said of all bytes in the buffer. -/
theorem next_eq_of_announced? (limit : Nat) (bytes : Bytes) :
    (FrameBuffer.mk limit bytes).next =
      match announced? bytes with
      | none => .ok none
      | some length =>
        if limit < length then .error (.tooLarge length limit)
        else if bytes.length < prefixLength + length then .ok none
        else .ok (some ((bytes.drop prefixLength).take length,
          ⟨limit, bytes.drop (prefixLength + length)⟩)) := by
  match bytes with
  | [] | [_] | [_, _] | [_, _, _] => rfl
  | a :: b :: c :: d :: rest =>
    have hshort : (a :: b :: c :: d :: rest).length < prefixLength + lengthOf a b c d ↔
        rest.length < lengthOf a b c d := by
      simp only [List.length_cons, prefixLength]
      omega
    have hdrop : (a :: b :: c :: d :: rest).drop (prefixLength + lengthOf a b c d) =
        rest.drop (lengthOf a b c d) := by
      rw [← List.drop_drop]
      rfl
    simp only [announced?, hshort, hdrop]
    rfl

/-- A whole payload in front is taken. -/
theorem next_layout_append {limit : Nat} {payload : Bytes} (h : Fits limit payload) (more : Bytes) :
    (FrameBuffer.mk limit (layout payload ++ more)).next = .ok (some (payload, ⟨limit, more⟩)) := by
  have hlength := length_layout payload
  have hwhole : ¬(layout payload ++ more).length < prefixLength + payload.length := by
    rw [List.length_append]
    omega
  have hfront : (layout payload ++ more).drop prefixLength = payload ++ more := rfl
  rw [next_eq_of_announced?, announced?_layout_append h.2]
  simp only [if_neg (Nat.not_lt.2 h.1), if_neg hwhole, hfront, List.take_left]
  rw [← hlength, List.drop_left]

/-- Nothing is taken off a stuck buffer, and it says so if a length is refused. -/
theorem next_of_isStuck {limit : Nat} {bytes : Bytes} (h : IsStuck limit bytes) :
    (FrameBuffer.mk limit bytes).next =
      match refused? limit bytes with
      | some length => .error (.tooLarge length limit)
      | none => .ok none := by
  rw [next_eq_of_announced?, refused?]
  rcases h with hshort | ⟨length, hannounced, hstuck⟩
  · rw [(announced?_eq_none_iff bytes).2 hshort]
    rfl
  · rw [hannounced]
    by_cases hlimit : limit < length
    · simp [Option.filter, hlimit]
    · simp [Option.filter, hlimit, hstuck.resolve_left hlimit]

/-- A call for a payload fails exactly where a length is refused in front. -/
theorem next_eq_error_iff (buffer : FrameBuffer) (fault : Fault) :
    buffer.next = .error fault ↔
      ∃ length, refused? buffer.limit buffer.bytes = some length ∧
        fault = .tooLarge length buffer.limit := by
  obtain ⟨limit, bytes⟩ := buffer
  by_cases hstuck : IsStuck limit bytes
  · rw [next_of_isStuck hstuck]
    cases refused? limit bytes with
    | none => simp
    | some length => simp [eq_comm]
  · obtain ⟨payload, more, hfits, rfl⟩ := exists_layout_of_not_isStuck hstuck
    rw [next_layout_append hfits]
    have hlimit := hfits.1
    simp only [reduceCtorEq, refused?_eq_some_iff, announced?_layout_append hfits.2,
      Option.some.injEq, false_iff, not_exists, not_and, and_imp]
    rintro length rfl habove
    omega

/-- More bytes are asked for exactly where nothing can be taken and nothing is refused. -/
theorem next_eq_none_iff (buffer : FrameBuffer) :
    buffer.next = .ok none ↔
      IsStuck buffer.limit buffer.bytes ∧ refused? buffer.limit buffer.bytes = none := by
  obtain ⟨limit, bytes⟩ := buffer
  by_cases hstuck : IsStuck limit bytes
  · rw [next_of_isStuck hstuck]
    cases refused? limit bytes <;> simp [hstuck]
  · obtain ⟨payload, more, hfits, rfl⟩ := exists_layout_of_not_isStuck hstuck
    simp [next_layout_append hfits, hstuck]

/-- A length is reported as too large exactly where its bytes stand in front and it is above the
limit. -/
theorem next_eq_tooLarge_iff (buffer : FrameBuffer) (length highest : Nat) :
    buffer.next = .error (.tooLarge length highest) ↔
      buffer.limit < length ∧ highest = buffer.limit ∧ length ≤ largestLength ∧
        lengthBytes length <+: buffer.bytes := by
  simp only [next_eq_error_iff, Fault.tooLarge.injEq, refused?_eq_some_iff, announced?_eq_some_iff]
  constructor
  · rintro ⟨_, ⟨⟨hlargest, hfront⟩, habove⟩, rfl, rfl⟩
    exact ⟨habove, rfl, hlargest, hfront⟩
  · rintro ⟨habove, rfl, hlargest, hfront⟩
    exact ⟨length, ⟨⟨hlargest, hfront⟩, habove⟩, rfl, rfl⟩

/-- What is taken stood in front, and the rest stays. -/
theorem layout_append_of_next {buffer after : FrameBuffer} {payload : Bytes}
    (h : buffer.next = .ok (some (payload, after))) :
    buffer.bytes = layout payload ++ after.bytes ∧ Fits buffer.limit payload ∧
      after.limit = buffer.limit := by
  obtain ⟨limit, bytes⟩ := buffer
  by_cases hstuck : IsStuck limit bytes
  · rw [next_of_isStuck hstuck] at h
    split at h <;> cases h
  · obtain ⟨p, more, hfits, rfl⟩ := exists_layout_of_not_isStuck hstuck
    rw [next_layout_append hfits] at h
    cases h
    exact ⟨rfl, hfits, rfl⟩

/-- Some payloads that were cut off a stream, and a buffer with all that followed them. -/
structure Cuts (buffer : FrameBuffer) (bytes : Bytes) (payloads : List Bytes) : Prop where
  whole : bytes = payloads.flatMap layout ++ buffer.bytes
  fits : ∀ p ∈ payloads, Fits buffer.limit p

/-- Where nothing more can be cut off, the stream is read. -/
theorem Cuts.parse_eq {buffer : FrameBuffer} {bytes : Bytes} {payloads : List Bytes}
    (h : buffer.Cuts bytes payloads) (hstuck : IsStuck buffer.limit buffer.bytes) :
    parse buffer.limit bytes = ⟨payloads, buffer.bytes⟩ :=
  (parse_eq_iff _ _ _ _).2 ⟨h.whole, h.fits, hstuck⟩

/-- Bytes that arrive stand behind all others. -/
theorem Cuts.extend {buffer : FrameBuffer} {bytes : Bytes} {payloads : List Bytes}
    (h : buffer.Cuts bytes payloads) (chunk : Bytes) :
    (buffer.extend chunk).Cuts (bytes ++ chunk) payloads where
  whole := by
    change bytes ++ chunk = payloads.flatMap layout ++ (buffer.bytes ++ chunk)
    rw [← List.append_assoc, ← h.whole]
  fits := h.fits

/-- Taking a payload cuts it off. -/
theorem Cuts.next {buffer after : FrameBuffer} {bytes payload : Bytes} {payloads : List Bytes}
    (h : buffer.Cuts bytes payloads) (hnext : buffer.next = .ok (some (payload, after))) :
    after.Cuts bytes (payloads ++ [payload]) := by
  obtain ⟨hbytes, hfits, hlimit⟩ := layout_append_of_next hnext
  constructor
  · rw [List.flatMap_append, List.flatMap_singleton, List.append_assoc, ← hbytes]
    exact h.whole
  · intro p hp
    rw [hlimit]
    rcases List.mem_append.1 hp with hp | hp
    · exact h.fits p hp
    · rwa [List.mem_singleton.1 hp]

/-! ## All payloads -/

/-- Draining reads what the buffer holds. -/
theorem drain_eq_parse (limit : Nat) (bytes : Bytes) :
    (FrameBuffer.mk limit bytes).drain =
      ((parse limit bytes).payloads,
        (refused? limit (parse limit bytes).rest).map fun length => .tooLarge length limit,
        ⟨limit, (parse limit bytes).rest⟩) := by
  induction bytes using stream_induction limit with
  | stuck bytes hstuck =>
    have hnext := next_of_isStuck hstuck
    rw [parse_of_isStuck hstuck, drain]
    cases hrefused : refused? limit bytes with
    | none =>
      rw [hrefused] at hnext
      split <;> rename_i htaken <;> rw [hnext] at htaken <;> cases htaken
      rfl
    | some length =>
      rw [hrefused] at hnext
      split <;> rename_i htaken <;> rw [hnext] at htaken <;> cases htaken
      rfl
  | front payload more hfits ih =>
    rw [parse_layout_append hfits, drain]
    split <;> rename_i htaken <;> rw [next_layout_append hfits] at htaken <;> cases htaken
    rw [ih]

/-- Feeding reads what the buffer holds together with the chunk. A refused length is reported where
no payload stands in front of it. -/
theorem feed_eq_parse (buffer : FrameBuffer) (chunk : Bytes) :
    buffer.feed chunk =
      (match (parse buffer.limit (buffer.bytes ++ chunk)).payloads,
          refused? buffer.limit (parse buffer.limit (buffer.bytes ++ chunk)).rest with
        | [], some length => .error (.tooLarge length buffer.limit)
        | payloads, _ => .ok payloads,
      ⟨buffer.limit, (parse buffer.limit (buffer.bytes ++ chunk)).rest⟩) := by
  rw [feed, drain_eq_parse, limit_extend, bytes_extend]
  cases (parse buffer.limit (buffer.bytes ++ chunk)).payloads <;>
    cases refused? buffer.limit (parse buffer.limit (buffer.bytes ++ chunk)).rest <;> rfl

/-! ## Calls -/

/-- A call on a frame buffer. -/
inductive Call where
  | extend (chunk : Bytes)
  | next
  | feed (chunk : Bytes)
deriving DecidableEq, Repr

/-- The bytes that a call gives. -/
def Call.given : Call → Bytes
  | .extend chunk | .feed chunk => chunk
  | .next => []

/-- What a call returns: the payloads that it hands out, if it does not fail. -/
abbrev Answer := Except Fault (List Bytes)

/-- The payloads that an answer hands out. -/
def handedOut : Answer → List Bytes
  | .ok payloads => payloads
  | .error _ => []

/-- Make a call. -/
def call (buffer : FrameBuffer) : Call → Answer × FrameBuffer
  | .extend chunk => (.ok [], buffer.extend chunk)
  | .next =>
    match buffer.next with
    | .error fault => (.error fault, buffer)
    | .ok none => (.ok [], buffer)
    | .ok (some (payload, after)) => (.ok [payload], after)
  | .feed chunk => buffer.feed chunk

/-- Make calls one after the other, whatever they return. -/
def calls (buffer : FrameBuffer) : List Call → List Answer × FrameBuffer
  | [] => ([], buffer)
  | c :: rest =>
    let (answer, after) := buffer.call c
    let (answers, last) := after.calls rest
    (answer :: answers, last)

/-- The payloads that calls hand out, in order. -/
def payloads (buffer : FrameBuffer) (history : List Call) : List Bytes :=
  (buffer.calls history).1.flatMap handedOut

/-- The buffer after calls. -/
def afterwards (buffer : FrameBuffer) (history : List Call) : FrameBuffer :=
  (buffer.calls history).2

/-- Feeding hands out what is read. -/
theorem handedOut_feed (buffer : FrameBuffer) (chunk : Bytes) :
    handedOut (buffer.feed chunk).1 = (parse buffer.limit (buffer.bytes ++ chunk)).payloads := by
  rw [feed_eq_parse]
  dsimp only
  split
  · rename_i hnil hrefused
    rw [hnil]
    rfl
  · rfl

/-- A call moves payloads from the buffer to its answer, and loses nothing. -/
theorem call_spec (buffer : FrameBuffer) (c : Call) :
    buffer.bytes ++ c.given =
        (handedOut (buffer.call c).1).flatMap layout ++ (buffer.call c).2.bytes ∧
      (∀ p ∈ handedOut (buffer.call c).1, Fits buffer.limit p) ∧
      (buffer.call c).2.limit = buffer.limit := by
  cases c with
  | extend chunk => exact ⟨rfl, by simp [call, handedOut], rfl⟩
  | next =>
    simp only [call, Call.given, List.append_nil]
    split
    · exact ⟨rfl, by simp [handedOut], rfl⟩
    · exact ⟨rfl, by simp [handedOut], rfl⟩
    · rename_i payload after hnext
      obtain ⟨hbytes, hfits, hlimit⟩ := layout_append_of_next hnext
      refine ⟨?_, ?_, hlimit⟩
      · simpa [handedOut] using hbytes
      · simpa [handedOut] using hfits
  | feed chunk =>
    simp only [call, Call.given, handedOut_feed]
    obtain ⟨hbytes, hfits, -⟩ := parse_spec buffer.limit (buffer.bytes ++ chunk)
    rw [feed_eq_parse]
    exact ⟨hbytes, hfits, rfl⟩

/-- A call for one payload that hands out none leaves the buffer as it is. -/
theorem call_next_of_handedOut_eq_nil {buffer : FrameBuffer}
    (h : handedOut (buffer.call .next).1 = []) : (buffer.call .next).2 = buffer := by
  simp only [call] at h ⊢
  cases hnext : buffer.next with
  | error fault => rfl
  | ok taken =>
    cases taken with
    | none => rfl
    | some taken =>
      rw [hnext] at h
      cases h

/-- Calls lose nothing of what the buffer held and of what they give. -/
theorem calls_spec (buffer : FrameBuffer) (history : List Call) :
    buffer.bytes ++ history.flatMap Call.given =
        (buffer.payloads history).flatMap layout ++ (buffer.afterwards history).bytes ∧
      (∀ p ∈ buffer.payloads history, Fits buffer.limit p) ∧
      (buffer.afterwards history).limit = buffer.limit := by
  induction history generalizing buffer with
  | nil => exact ⟨by simp [payloads, afterwards, calls], by simp [payloads, calls], rfl⟩
  | cons c rest ih =>
    obtain ⟨hbytes, hfits, hlimit⟩ := call_spec buffer c
    obtain ⟨hrest, hfit, hlast⟩ := ih (buffer.call c).2
    refine ⟨?_, ?_, hlast.trans hlimit⟩
    · rw [List.flatMap_cons, ← List.append_assoc, hbytes, List.append_assoc, hrest]
      simp [payloads, afterwards, calls]
    · rw [hlimit] at hfit
      simp only [payloads, calls, List.flatMap_cons, List.mem_append] at hfit ⊢
      rintro p (hp | hp)
      · exact hfits p hp
      · exact hfit p hp

/-- Calls keep the limit. -/
theorem afterwards_empty (limit : Nat) (history : List Call) :
    (empty limit).afterwards history = ⟨limit, ((empty limit).afterwards history).bytes⟩ := by
  have hlimit := (calls_spec (empty limit) history).2.2
  generalize (empty limit).afterwards history = last at hlimit
  cases last
  cases hlimit
  rfl

/-! ## Behind a refused length -/

/-- What a call returns behind a refused length. -/
def refusal (limit length : Nat) : Call → Answer
  | .extend _ => .ok []
  | .next | .feed _ => .error (.tooLarge length limit)

/-- Behind a refused length a call only adds to what is held. -/
theorem call_of_refused? {buffer : FrameBuffer} {length : Nat}
    (h : refused? buffer.limit buffer.bytes = some length) (c : Call) :
    buffer.call c = (refusal buffer.limit length c, buffer.extend c.given) := by
  cases c with
  | extend chunk => rfl
  | next =>
    have hnext := (next_eq_error_iff buffer _).2 ⟨length, h, rfl⟩
    simp [call, hnext, refusal, Call.given]
  | feed chunk =>
    have hmore := refused?_append h chunk
    simp only [call, feed_eq_parse, parse_of_isStuck (isStuck_of_refused? hmore), hmore]
    rfl

/-- A refused length stays in front for good, and every call for payloads reports it. -/
theorem calls_of_refused? {buffer : FrameBuffer} {length : Nat}
    (h : refused? buffer.limit buffer.bytes = some length) (later : List Call) :
    buffer.calls later =
      (later.map (refusal buffer.limit length), buffer.extend (later.flatMap Call.given)) := by
  induction later generalizing buffer with
  | nil => simp [calls]
  | cons c rest ih =>
    have hafter :
        refused? (buffer.extend c.given).limit (buffer.extend c.given).bytes = some length :=
      refused?_append h c.given
    rw [calls, call_of_refused? h]
    dsimp only
    rw [ih hafter]
    simp

/-! ## Feeding alone -/

/-- Feeding keeps the limit. -/
theorem limit_feed (buffer : FrameBuffer) (chunk : Bytes) :
    (buffer.feed chunk).2.limit = buffer.limit := by
  rw [feed_eq_parse]

/-- Feeding leaves nothing that can be taken. -/
theorem isStuck_feed (buffer : FrameBuffer) (chunk : Bytes) :
    IsStuck buffer.limit (buffer.feed chunk).2.bytes := by
  rw [feed_eq_parse]
  exact (parse_spec _ _).2.2

/-- A feed that fails leaves a refused length in front. -/
theorem refused?_of_feed {buffer : FrameBuffer} {chunk : Bytes} {fault : Fault}
    (h : (buffer.feed chunk).1 = .error fault) :
    ∃ length, refused? buffer.limit (buffer.feed chunk).2.bytes = some length := by
  rw [feed_eq_parse] at h ⊢
  dsimp only at h ⊢
  split at h
  · rename_i length _ hrefused
    exact ⟨length, hrefused⟩
  · cases h

/-- However many feeds leave nothing that can be taken, if nothing could be at first. -/
theorem isStuck_feeds {buffer : FrameBuffer} (h : IsStuck buffer.limit buffer.bytes)
    (chunks : List Bytes) : IsStuck buffer.limit (buffer.afterwards (chunks.map .feed)).bytes := by
  induction chunks generalizing buffer with
  | nil => exact h
  | cons chunk rest ih =>
    have hlimit := limit_feed buffer chunk
    have hfirst : IsStuck (buffer.feed chunk).2.limit (buffer.feed chunk).2.bytes := by
      rw [hlimit]
      exact isStuck_feed buffer chunk
    have hrest := ih hfirst
    rwa [hlimit] at hrest

/-- Feeds hand out what the stream holds, and keep its rest. -/
theorem parse_feeds (limit : Nat) (chunks : List Bytes) :
    parse limit chunks.flatten =
      ⟨(empty limit).payloads (chunks.map .feed),
        ((empty limit).afterwards (chunks.map .feed)).bytes⟩ := by
  obtain ⟨hbytes, hfits, -⟩ := calls_spec (empty limit) (chunks.map .feed)
  have hgiven : (chunks.map Call.feed).flatMap Call.given = chunks.flatten := by
    rw [List.flatMap_map]
    exact List.flatMap_id
  rw [hgiven] at hbytes
  have hstuck : IsStuck (empty limit).limit (empty limit).bytes := isStuck_nil limit
  exact (parse_eq_iff _ _ _ _).2 ⟨hbytes, hfits, isStuck_feeds hstuck chunks⟩

/-- Feeds of one stream hand out the same and leave the same, however the stream is cut. -/
theorem feeds_eq_of_flatten_eq (limit : Nat) {chunks others : List Bytes}
    (h : chunks.flatten = others.flatten) :
    (empty limit).payloads (chunks.map .feed) = (empty limit).payloads (others.map .feed) ∧
      (empty limit).afterwards (chunks.map .feed) =
        (empty limit).afterwards (others.map .feed) := by
  have hparse := (parse_feeds limit chunks).symm.trans (h ▸ parse_feeds limit others)
  injection hparse with hpayloads hbytes
  exact ⟨hpayloads, by rw [afterwards_empty, hbytes, ← afterwards_empty]⟩

/-- If a feed fails, a length is still refused when all is fed. -/
theorem refused?_of_error_mem_feeds {fault : Fault} (buffer : FrameBuffer) (chunks : List Bytes)
    (h : .error fault ∈ (buffer.calls (chunks.map .feed)).1) :
    ∃ length, refused? buffer.limit (buffer.afterwards (chunks.map .feed)).bytes = some length := by
  induction chunks generalizing buffer with
  | nil => cases h
  | cons chunk rest ih =>
    have hlimit := limit_feed buffer chunk
    rcases List.mem_cons.1 h with hfirst | hlater
    · obtain ⟨length, hrefused⟩ := refused?_of_feed hfirst.symm
      have hcalls := calls_of_refused? (hlimit.symm ▸ hrefused) (rest.map .feed)
      refine ⟨length, ?_⟩
      change refused? buffer.limit ((buffer.feed chunk).2.calls (rest.map .feed)).2.bytes =
        some length
      rw [hcalls]
      exact refused?_append hrefused _
    · have hrest := ih (buffer.feed chunk).2 hlater
      rwa [hlimit] at hrest

/-- Whole payloads come out of their frames, however these are cut, and nothing is left. -/
theorem calls_feed_frames {limit : Nat} (contents : List Bytes) (chunks : List Bytes)
    (hfits : ∀ p ∈ contents, Fits limit p) (hchunks : chunks.flatten = contents.flatMap layout) :
    (∀ answer ∈ ((empty limit).calls (chunks.map .feed)).1, ∃ handed, answer = .ok handed) ∧
      (empty limit).payloads (chunks.map .feed) = contents ∧
      (empty limit).afterwards (chunks.map .feed) = empty limit := by
  have hparse := parse_feeds limit chunks
  rw [hchunks, ← List.append_nil (contents.flatMap layout),
    (parse_eq_iff limit _ contents []).2 ⟨rfl, hfits, isStuck_nil limit⟩] at hparse
  injection hparse with hpayloads hbytes
  have hempty : (empty limit).afterwards (chunks.map .feed) = empty limit := by
    rw [afterwards_empty, ← hbytes, empty]
  refine ⟨?_, hpayloads.symm, hempty⟩
  intro answer hanswer
  cases answer with
  | ok handed => exact ⟨handed, rfl⟩
  | error fault =>
    obtain ⟨length, hrefused⟩ := refused?_of_error_mem_feeds (empty limit) chunks hanswer
    rw [hempty] at hrefused
    cases hrefused

/-! ## Any calls -/

/-- Whatever calls are made on a new buffer, what was given is the frames of what was handed out,
and then what is held.

No payload above the limit comes out. Feeding leaves fewer bytes than a length takes, an incomplete
frame or a refused length, so under feeds alone payloads and rest depend on the stream only, and the
frames of any payloads give these payloads back. A length is reported as too large exactly where it
stands in front and is above the limit, and from then on by every call for payloads; a call that
takes no payload leaves the buffer as it is. -/
theorem reassembly (limit : Nat) (history : List Call) :
    (∃ frames, ((empty limit).payloads history).mapM encode = .ok frames ∧
      history.flatMap Call.given = frames.flatten ++ ((empty limit).afterwards history).bytes) ∧
    (∀ p ∈ (empty limit).payloads history, p.length ≤ limit) ∧
    (∀ chunk, IsStuck limit (((empty limit).afterwards history).feed chunk).2.bytes) ∧
    (∀ length highest, ((empty limit).afterwards history).next = .error (.tooLarge length highest) ↔
      limit < length ∧ highest = limit ∧ length ≤ largestLength ∧
        lengthBytes length <+: ((empty limit).afterwards history).bytes) ∧
    (handedOut (((empty limit).afterwards history).call .next).1 = [] →
      (((empty limit).afterwards history).call .next).2 = (empty limit).afterwards history) ∧
    (∀ length, refused? limit ((empty limit).afterwards history).bytes = some length →
      ∀ later, (((empty limit).afterwards history).calls later).1 =
        later.map (refusal limit length)) ∧
    (∀ chunks others : List Bytes, chunks.flatten = others.flatten →
      (empty limit).payloads (chunks.map .feed) = (empty limit).payloads (others.map .feed) ∧
        (empty limit).afterwards (chunks.map .feed) = (empty limit).afterwards (others.map .feed)) ∧
    (∀ (contents frames chunks : List Bytes), (∀ p ∈ contents, p.length ≤ limit) →
      contents.mapM encode = .ok frames → chunks.flatten = frames.flatten →
      (∀ answer ∈ ((empty limit).calls (chunks.map .feed)).1, ∃ handed, answer = .ok handed) ∧
        (empty limit).payloads (chunks.map .feed) = contents ∧
        ((empty limit).afterwards (chunks.map .feed)).finish = .ok ()) := by
  obtain ⟨hbytes, hfits, hlimit⟩ := calls_spec (empty limit) history
  change ((empty limit).afterwards history).limit = limit at hlimit
  generalize (empty limit).afterwards history = buffer at hbytes hlimit ⊢
  subst hlimit
  refine ⟨⟨_, (mapM_encode_eq_ok_iff _ _).2 ⟨fun p hp => (hfits p hp).2, rfl⟩, hbytes⟩,
    fun p hp => (hfits p hp).1, isStuck_feed buffer, next_eq_tooLarge_iff buffer,
    call_next_of_handedOut_eq_nil, ?_,
    fun chunks others => feeds_eq_of_flatten_eq buffer.limit, ?_⟩
  · intro length hrefused later
    rw [calls_of_refused? hrefused]
  · intro contents frames chunks hshort hframes hchunks
    obtain ⟨hlargest, rfl⟩ := (mapM_encode_eq_ok_iff contents frames).1 hframes
    obtain ⟨hok, hpayloads, hempty⟩ := calls_feed_frames contents chunks
      (fun p hp => ⟨hshort p hp, hlargest p hp⟩) (by rw [hchunks, List.flatMap_def])
    refine ⟨hok, hpayloads, ?_⟩
    rw [hempty]
    rfl

/-- Under a limit of sixteen bytes, a frame of one byte comes out although the length behind it is
refused, and from then on every call for payloads reports that length. -/
theorem reassembly_refused_length :
    refused? 16 ((empty 16).afterwards [.feed [0, 0, 0, 1, 65, 0], .feed [0, 1, 0], .next]).bytes =
        some 256 ∧
      (empty 16).payloads [.feed [0, 0, 0, 1, 65, 0], .feed [0, 1, 0], .next] = [[65]] ∧
      ∀ later, (((empty 16).afterwards
        [.feed [0, 0, 0, 1, 65, 0], .feed [0, 1, 0], .next]).calls later).1 =
          later.map (refusal 16 256) := by
  have hrefused : refused? 16
      ((empty 16).afterwards [.feed [0, 0, 0, 1, 65, 0], .feed [0, 1, 0], .next]).bytes =
        some 256 := by decide +kernel
  obtain ⟨-, -, -, -, -, hlater, -, -⟩ :=
    reassembly 16 [.feed [0, 0, 0, 1, 65, 0], .feed [0, 1, 0], .next]
  exact ⟨hrefused, by decide +kernel, hlater 256 hrefused⟩

end FrameBuffer

end Courier
