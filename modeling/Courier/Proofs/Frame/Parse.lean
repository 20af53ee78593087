import Courier.Frame

/-!
# Streams of frames

What a stream holds, said of its bytes as a whole: payloads laid out one behind the other, and
then a rest from which no payload can be taken. Both are determined by the bytes, so `parse`, which
reads them from front to back, is the only reading there is (`parse_eq_iff`). What arrives later is
read from the rest on, and changes nothing in front of it.
-/

namespace Courier

namespace Frame

/-! ## Lengths in front -/

/-- A payload as it stands in a stream. -/
def layout (payload : Bytes) : Bytes := lengthBytes payload.length ++ payload

/-- The length that the first four bytes state. -/
def announced? : Bytes → Option Nat
  | a :: b :: c :: d :: _ => some (lengthOf a b c d)
  | _ => none

/-- The length that is stated in front and is above the limit. -/
def refused? (limit : Nat) (bytes : Bytes) : Option Nat :=
  (announced? bytes).filter fun length => limit < length

/-- A layout begins with the four bytes of its length. -/
@[simp] theorem length_layout (payload : Bytes) :
    (layout payload).length = prefixLength + payload.length := by
  rw [layout, List.length_append]
  rfl

/-- Only bytes that are fewer than a length takes state none. -/
theorem announced?_eq_none_iff (bytes : Bytes) :
    announced? bytes = none ↔ bytes.length < prefixLength := by
  match bytes with
  | [] | [_] | [_, _] | [_, _, _] => simp [announced?, prefixLength]
  | _ :: _ :: _ :: _ :: rest =>
    simp only [announced?, prefixLength, List.length_cons, reduceCtorEq, false_iff]
    omega

/-- A stated length stays when more bytes arrive. -/
theorem announced?_append {bytes : Bytes} {length : Nat} (h : announced? bytes = some length)
    (more : Bytes) : announced? (bytes ++ more) = some length := by
  match bytes with
  | [] | [_] | [_, _] | [_, _, _] => simp [announced?] at h
  | _ :: _ :: _ :: _ :: _ => exact h

/-- Four bytes are the bytes of the length that they state. -/
theorem lengthBytes_lengthOf (a b c d : UInt8) : lengthBytes (lengthOf a b c d) = [a, b, c, d] := by
  have ha := a.toNat_lt
  have hb := b.toNat_lt
  have hc := c.toNat_lt
  have hd := d.toNat_lt
  simp only [lengthBytes, lengthOf, List.cons.injEq, and_true, ← UInt8.toNat_inj, Nat.toUInt8_eq,
    UInt8.toNat_ofNat']
  omega

/-- Stating a length is beginning with its bytes. -/
theorem announced?_eq_some_iff (bytes : Bytes) (length : Nat) :
    announced? bytes = some length ↔ length ≤ largestLength ∧ lengthBytes length <+: bytes := by
  constructor
  · intro h
    match bytes with
    | [] | [_] | [_, _] | [_, _, _] => simp [announced?] at h
    | a :: b :: c :: d :: rest =>
      obtain rfl : lengthOf a b c d = length := by simpa [announced?] using h
      rw [lengthBytes_lengthOf]
      exact ⟨lengthOf_le a b c d, rest, rfl⟩
  · rintro ⟨hle, rest, rfl⟩
    exact congrArg some (lengthOf_lengthBytes hle)

/-- The layout of a payload states its length, whatever follows. -/
theorem announced?_layout_append {payload : Bytes} (h : payload.length ≤ largestLength)
    (more : Bytes) : announced? (layout payload ++ more) = some payload.length := by
  rw [announced?_eq_some_iff]
  exact ⟨h, payload ++ more, by simp [layout]⟩

/-- A length is refused exactly if it is stated and above the limit. -/
theorem refused?_eq_some_iff (limit length : Nat) (bytes : Bytes) :
    refused? limit bytes = some length ↔ announced? bytes = some length ∧ limit < length := by
  simp [refused?, Option.filter_eq_some_iff]

/-- A refused length is refused whatever arrives behind it. -/
theorem refused?_append {limit length : Nat} {bytes : Bytes}
    (h : refused? limit bytes = some length)
    (more : Bytes) : refused? limit (bytes ++ more) = some length := by
  rw [refused?_eq_some_iff] at h ⊢
  exact ⟨announced?_append h.1 more, h.2⟩

/-! ## Payloads in a stream -/

/-- Whether a payload can stand in a stream that is read under a limit. -/
def Fits (limit : Nat) (payload : Bytes) : Prop :=
  payload.length ≤ limit ∧ payload.length ≤ largestLength

/-- No payload can be taken off the front: no length is stated, or it is above the limit, or not all
bytes of the payload are there. -/
def IsStuck (limit : Nat) (bytes : Bytes) : Prop :=
  bytes.length < prefixLength ∨ ∃ length, announced? bytes = some length ∧
    (limit < length ∨ bytes.length < prefixLength + length)

/-- Nothing can be taken where nothing is. -/
theorem isStuck_nil (limit : Nat) : IsStuck limit [] := Or.inl (by decide)

/-- Where a length is refused nothing can be taken. -/
theorem isStuck_of_refused? {limit length : Nat} {bytes : Bytes}
    (h : refused? limit bytes = some length) : IsStuck limit bytes := by
  rw [refused?_eq_some_iff] at h
  exact Or.inr ⟨length, h.1, Or.inl h.2⟩

/-- A stream that is not stuck begins with a payload that fits. -/
theorem exists_layout_of_not_isStuck {limit : Nat} {bytes : Bytes} (h : ¬IsStuck limit bytes) :
    ∃ payload more, Fits limit payload ∧ bytes = layout payload ++ more := by
  simp only [IsStuck, not_or, not_exists, not_and, Nat.not_lt] at h
  obtain ⟨hlong, hwhole⟩ := h
  match hannounced : announced? bytes with
  | none => rw [announced?_eq_none_iff] at hannounced; omega
  | some length =>
    obtain ⟨hlimit, hlength⟩ := hwhole length hannounced
    obtain ⟨hlargest, rest, rfl⟩ := (announced?_eq_some_iff bytes length).1 hannounced
    have hrest : length ≤ rest.length := by
      simp only [List.length_append, lengthBytes, List.length_cons, List.length_nil,
        prefixLength] at hlength
      omega
    have htake : (rest.take length).length = length := by simp [hrest]
    refine ⟨rest.take length, rest.drop length, ⟨by omega, by omega⟩, ?_⟩
    rw [layout, htake, List.append_assoc, List.take_append_drop]

/-- What holds of a stuck stream, and of one with a payload in front if it holds of all that
follows, holds of every stream. -/
@[elab_as_elim]
theorem stream_induction (limit : Nat) {motive : Bytes → Prop}
    (stuck : ∀ bytes, IsStuck limit bytes → motive bytes)
    (front : ∀ payload more, Fits limit payload → motive more → motive (layout payload ++ more))
    (bytes : Bytes) : motive bytes := by
  induction hn : bytes.length using Nat.strongRecOn generalizing bytes with
  | ind n ih =>
    by_cases hstuck : IsStuck limit bytes
    · exact stuck bytes hstuck
    · obtain ⟨payload, more, hfits, rfl⟩ := exists_layout_of_not_isStuck hstuck
      have hshorter : more.length < n := by
        rw [← hn, List.length_append, length_layout, prefixLength]
        omega
      exact front payload more hfits (ih more.length hshorter more rfl)

/-! ## Reading a stream -/

/-- What a stream holds. -/
structure Parse where
  /-- The payloads, in stream order. -/
  payloads : List Bytes
  /-- What is left behind the last payload. -/
  rest : Bytes
deriving DecidableEq, Repr

/-- Read a stream from front to back, until no payload can be taken. -/
def parse (limit : Nat) (bytes : Bytes) : Parse :=
  match announced? bytes with
  | none => ⟨[], bytes⟩
  | some length =>
    if _stuck : limit < length ∨ bytes.length < prefixLength + length then ⟨[], bytes⟩
    else
      let later := parse limit (bytes.drop (prefixLength + length))
      ⟨(bytes.drop prefixLength).take length :: later.payloads, later.rest⟩
termination_by bytes.length
decreasing_by
  rw [List.length_drop]
  simp only [prefixLength] at *
  omega

/-- A stuck stream is all rest. -/
theorem parse_of_isStuck {limit : Nat} {bytes : Bytes} (h : IsStuck limit bytes) :
    parse limit bytes = ⟨[], bytes⟩ := by
  rw [parse]
  rcases h with hshort | ⟨length, hannounced, hstuck⟩
  · rw [(announced?_eq_none_iff bytes).2 hshort]
  · rw [hannounced]
    exact dif_pos hstuck

/-- A payload in front is read first. -/
theorem parse_layout_append {limit : Nat} {payload : Bytes} (h : Fits limit payload)
    (more : Bytes) :
    parse limit (layout payload ++ more) =
      ⟨payload :: (parse limit more).payloads, (parse limit more).rest⟩ := by
  have hlen := length_layout payload
  have hfront : (layout payload ++ more).drop prefixLength = payload ++ more := rfl
  rw [parse, announced?_layout_append h.2]
  have hwhole : ¬(limit < payload.length ∨
      (layout payload ++ more).length < prefixLength + payload.length) := by
    rw [List.length_append]
    have := h.1
    omega
  simp only [dif_neg hwhole, hfront, List.take_left]
  rw [← hlen, List.drop_left]

/-- Payloads that fit are read in order, before all that follows. -/
theorem parse_layouts_append {limit : Nat} (payloads : List Bytes) (more : Bytes)
    (h : ∀ p ∈ payloads, Fits limit p) :
    parse limit (payloads.flatMap layout ++ more) =
      ⟨payloads ++ (parse limit more).payloads, (parse limit more).rest⟩ := by
  induction payloads with
  | nil => rfl
  | cons p rest ih =>
    rw [List.flatMap_cons, List.append_assoc, parse_layout_append (h p List.mem_cons_self),
      ih fun q hq => h q (List.mem_cons_of_mem _ hq)]
    rfl

/-- A stream consists of the payloads that are read from it and a rest that is stuck. -/
theorem parse_spec (limit : Nat) (bytes : Bytes) :
    bytes = (parse limit bytes).payloads.flatMap layout ++ (parse limit bytes).rest ∧
      (∀ p ∈ (parse limit bytes).payloads, Fits limit p) ∧
      IsStuck limit (parse limit bytes).rest := by
  induction bytes using stream_induction limit with
  | stuck bytes hstuck =>
    rw [parse_of_isStuck hstuck]
    exact ⟨rfl, by simp, hstuck⟩
  | front payload more hfits ih =>
    obtain ⟨hmore, hfit, hrest⟩ := ih
    rw [parse_layout_append hfits]
    refine ⟨?_, ?_, hrest⟩
    · rw [List.flatMap_cons, List.append_assoc, ← hmore]
    · exact List.forall_mem_cons.2 ⟨hfits, hfit⟩

/-- The reading of a stream is the only way to take it apart into payloads and a stuck rest. -/
theorem parse_eq_iff (limit : Nat) (bytes : Bytes) (payloads : List Bytes) (rest : Bytes) :
    parse limit bytes = ⟨payloads, rest⟩ ↔
      bytes = payloads.flatMap layout ++ rest ∧ (∀ p ∈ payloads, Fits limit p) ∧
        IsStuck limit rest := by
  constructor
  · intro h
    simpa only [h] using parse_spec limit bytes
  · rintro ⟨hbytes, hfit, hstuck⟩
    rw [hbytes, parse_layouts_append payloads rest hfit, parse_of_isStuck hstuck, List.append_nil]

/-- What arrives later is read from the rest on. -/
theorem parse_append (limit : Nat) (bytes more : Bytes) :
    parse limit (bytes ++ more) =
      ⟨(parse limit bytes).payloads ++ (parse limit ((parse limit bytes).rest ++ more)).payloads,
        (parse limit ((parse limit bytes).rest ++ more)).rest⟩ := by
  obtain ⟨hbytes, hfit, -⟩ := parse_spec limit bytes
  rw [← parse_layouts_append _ _ hfit, ← List.append_assoc, ← hbytes]

/-- Payloads stay where they are when more bytes arrive. -/
theorem payloads_parse_append (limit : Nat) (bytes more : Bytes) :
    (parse limit bytes).payloads <+: (parse limit (bytes ++ more)).payloads := by
  rw [parse_append]
  exact List.prefix_append _ _

/-- Behind a refused length no payload is read any more. -/
theorem parse_append_of_refused? {limit length : Nat} {bytes : Bytes}
    (h : refused? limit (parse limit bytes).rest = some length) (more : Bytes) :
    parse limit (bytes ++ more) =
      ⟨(parse limit bytes).payloads, (parse limit bytes).rest ++ more⟩ := by
  rw [parse_append, parse_of_isStuck (isStuck_of_refused? (refused?_append h more)),
    List.append_nil]

/-! ## Encoding -/

/-- The frame of a payload that four bytes can measure is its layout. -/
theorem encode_eq_layout {payload : Bytes} (h : payload.length ≤ largestLength) :
    encode payload = .ok (layout payload) := if_pos h

/-- No longer payload has a frame. -/
theorem encode_eq_ok_iff (payload frame : Bytes) :
    encode payload = .ok frame ↔ payload.length ≤ largestLength ∧ frame = layout payload := by
  by_cases h : payload.length ≤ largestLength
  · simp [encode_eq_layout h, h, eq_comm]
  · simp [encode, h]

/-- Payloads have frames exactly if four bytes can measure each, and the frames are the layouts. -/
theorem mapM_encode_eq_ok_iff (payloads frames : List Bytes) :
    payloads.mapM encode = .ok frames ↔
      (∀ p ∈ payloads, p.length ≤ largestLength) ∧ frames = payloads.map layout := by
  induction payloads generalizing frames with
  | nil => simp [pure, Except.pure, eq_comm]
  | cons p rest ih =>
    rw [List.mapM_cons, List.forall_mem_cons, List.map_cons]
    constructor
    · intro h
      cases hframe : encode p with
      | error fault =>
        rw [hframe] at h
        cases h
      | ok frame =>
        cases hothers : rest.mapM encode with
        | error fault =>
          rw [hframe, hothers] at h
          cases h
        | ok others =>
          rw [hframe, hothers] at h
          cases h
          obtain ⟨hp, rfl⟩ := (encode_eq_ok_iff p frame).1 hframe
          obtain ⟨hrest, rfl⟩ := (ih others).1 hothers
          exact ⟨⟨hp, hrest⟩, rfl⟩
    · rintro ⟨⟨hp, hrest⟩, rfl⟩
      rw [encode_eq_layout hp, (ih (rest.map layout)).2 ⟨hrest, rfl⟩]
      rfl

end Frame

end Courier
