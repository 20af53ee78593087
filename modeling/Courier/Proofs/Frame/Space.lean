import Courier.Proofs.Frame.Reassembly

/-!
# The space that a stream takes

What a peer sends takes only so much space, whatever lengths it states. A buffer from which nothing
can be taken holds less than a frame of the longest payload that is accepted
(`buffered_le_of_next_eq_none`), the space that is asked for on the way is for one payload at most
(`exists_attempt`), and a row of calls that each hand out a payload uses up four bytes a call
(`HandsOut.spent`).
-/

namespace Courier

open Courier.Frame

namespace FrameBuffer

/-! ## One call -/

/-- The difference of two numbers, unless it is below zero. -/
def difference? (n k : Nat) : Option Nat := if k ≤ n then some (n - k) else none

/-- What a call for a payload comes to. -/
inductive Attempt where
  /-- Fewer bytes have arrived than a length takes. -/
  | unstated
  | refused (length : Nat)
  /-- A payload has not arrived as a whole, and space is asked for what is missing. -/
  | waiting (space : Nat)
  | taken (payload : Bytes) (after : FrameBuffer)
deriving DecidableEq, Repr

/-- What the caller is told. -/
def Attempt.answer (limit : Nat) : Attempt → Except Fault (Option (Bytes × FrameBuffer))
  | .unstated | .waiting _ => .ok none
  | .refused length => .error (.tooLarge length limit)
  | .taken payload after => .ok (some (payload, after))

/-- The space that is asked for. -/
def Attempt.space : Attempt → Nat
  | .waiting space => space
  | .unstated | .refused _ | .taken _ _ => 0

/-- A call for a payload, with the space that it asks for. It comes to nothing at all if a
difference on the way is below zero. -/
def attempt? (buffer : FrameBuffer) : Option Attempt :=
  match announced? buffer.bytes with
  | none => some .unstated
  | some length =>
    if buffer.limit < length then some (.refused length)
    else do
      let arrived ← difference? buffer.buffered prefixLength
      if arrived < length then
        let missing ← difference? length arrived
        return .waiting missing
      else
        return .taken ((buffer.bytes.drop prefixLength).take length)
          ⟨buffer.limit, buffer.bytes.drop (prefixLength + length)⟩

/-- Where a length is stated its bytes have arrived. -/
theorem prefixLength_le_of_announced? {bytes : Bytes} {length : Nat}
    (h : announced? bytes = some length) : prefixLength ≤ bytes.length := by
  rw [← Nat.not_lt, ← announced?_eq_none_iff, h]
  exact Option.some_ne_none length

/-- A call for a payload takes no number from a smaller one, tells what there is to tell, and asks
for the space of one payload at most. -/
theorem exists_attempt (buffer : FrameBuffer) :
    ∃ attempt, buffer.attempt? = some attempt ∧ buffer.next = attempt.answer buffer.limit ∧
      attempt.space ≤ min buffer.limit largestLength := by
  obtain ⟨limit, bytes⟩ := buffer
  rw [next_eq_of_announced?]
  cases hannounced : announced? bytes with
  | none => exact ⟨.unstated, by simp only [attempt?, hannounced], rfl, Nat.zero_le _⟩
  | some length =>
    have hstated := prefixLength_le_of_announced? hannounced
    have hlargest := ((announced?_eq_some_iff bytes length).1 hannounced).1
    have harrived : difference? bytes.length prefixLength = some (bytes.length - prefixLength) :=
      if_pos hstated
    by_cases hlimit : limit < length
    · exact ⟨.refused length, by simp only [attempt?, hannounced, if_pos hlimit],
        by simp only [if_pos hlimit]; rfl, Nat.zero_le _⟩
    by_cases hwhole : bytes.length - prefixLength < length
    · have hmissing : difference? length (bytes.length - prefixLength) =
          some (length - (bytes.length - prefixLength)) := if_pos (Nat.le_of_lt hwhole)
      have hshort : bytes.length < prefixLength + length := by omega
      refine ⟨.waiting (length - (bytes.length - prefixLength)), ?_, ?_, ?_⟩
      · simp [attempt?, hannounced, hlimit, buffered, harrived, hwhole, hmissing]
      · simp only [if_neg hlimit, if_pos hshort, Attempt.answer]
      · simp only [Attempt.space]
        omega
    · have hlong : ¬bytes.length < prefixLength + length := by omega
      refine ⟨.taken ((bytes.drop prefixLength).take length)
        ⟨limit, bytes.drop (prefixLength + length)⟩, ?_, ?_, Nat.zero_le _⟩
      · simp [attempt?, hannounced, hlimit, buffered, harrived, hwhole]
      · simp only [if_neg hlimit, if_neg hlong, Attempt.answer]

/-- What waits for more bytes is less than a frame of the longest payload that is accepted. -/
theorem buffered_le_of_next_eq_none {buffer : FrameBuffer} (h : buffer.next = .ok none) :
    buffer.buffered ≤ min buffer.limit largestLength + 3 := by
  obtain ⟨hstuck, hrefused⟩ := (next_eq_none_iff buffer).1 h
  rcases hstuck with hshort | ⟨length, hannounced, hstuck⟩
  · simp only [buffered, prefixLength] at hshort ⊢
    omega
  · have hlargest := ((announced?_eq_some_iff _ _).1 hannounced).1
    have haccepted : ¬buffer.limit < length := fun habove => by
      rw [(refused?_eq_some_iff _ length _).2 ⟨hannounced, habove⟩] at hrefused
      cases hrefused
    have hmissing := hstuck.resolve_left haccepted
    simp only [buffered, prefixLength] at hmissing ⊢
    omega

/-! ## A row of calls -/

/-- Buffers that hand out a payload each, one behind the other, and the one that is left. -/
inductive HandsOut : FrameBuffer → List FrameBuffer → FrameBuffer → Prop where
  | none (buffer : FrameBuffer) : HandsOut buffer [] buffer
  | next {buffer after left : FrameBuffer} {payload : Bytes} {asked : List FrameBuffer}
      (hnext : buffer.next = .ok (some (payload, after))) (hrest : HandsOut after asked left) :
      HandsOut buffer (buffer :: asked) left

variable {buffer after left last : FrameBuffer} {asked later : List FrameBuffer} {payload : Bytes}

/-- Handing out a payload takes its frame out of the buffer. -/
theorem buffered_of_next (h : buffer.next = .ok (some (payload, after))) :
    buffer.buffered = prefixLength + payload.length + after.buffered := by
  obtain ⟨hbytes, -, -⟩ := layout_append_of_next h
  simp [buffered, hbytes]

/-- A row of calls can go on from where it has come to. -/
theorem HandsOut.trans (h : HandsOut buffer asked left) (hlater : HandsOut left later last) :
    HandsOut buffer (asked ++ later) last := by
  induction h with
  | none buffer => exact hlater
  | next hnext _ ih => exact .next hnext (ih hlater)

/-- Payloads are handed out under one limit. -/
theorem HandsOut.limit_eq (h : HandsOut buffer asked left) : left.limit = buffer.limit := by
  induction h with
  | none buffer => rfl
  | next hnext _ ih => exact ih.trans (layout_append_of_next hnext).2.2

/-- Each call uses up the bytes of a length at least. -/
theorem HandsOut.spent (h : HandsOut buffer asked left) :
    prefixLength * asked.length + left.buffered ≤ buffer.buffered := by
  induction h with
  | none buffer => simp
  | next hnext _ ih =>
    rw [buffered_of_next hnext, List.length_cons, Nat.mul_succ]
    omega

/-- What is left is no more than was there at first. -/
theorem HandsOut.left_le (h : HandsOut buffer asked left) : left.buffered ≤ buffer.buffered :=
  Nat.le_trans (Nat.le_add_left _ _) h.spent

/-- No buffer in a row holds more than the first one, and all have its limit. -/
theorem HandsOut.of_mem (h : HandsOut buffer asked left) {b : FrameBuffer} (hb : b ∈ asked) :
    b.limit = buffer.limit ∧ b.buffered ≤ buffer.buffered := by
  induction h with
  | none buffer => cases hb
  | next hnext _ ih =>
    rcases List.mem_cons.1 hb with rfl | hb
    · exact ⟨rfl, Nat.le_refl _⟩
    · obtain ⟨hlimit, hheld⟩ := ih hb
      refine ⟨hlimit.trans (layout_append_of_next hnext).2.2, Nat.le_trans hheld ?_⟩
      rw [buffered_of_next hnext]
      exact Nat.le_add_left _ _

end FrameBuffer

end Courier
