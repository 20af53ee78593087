import Courier.Envelope
import Courier.Proofs.Base64.Canonical
import Courier.Proofs.Json.Record

/-!
# Envelopes are read back

An envelope can be told from its payload, and the bytes of a message from its base64. In both
directions nothing is lost, and base64 has no second spelling of a message (`round_trip`).
-/

namespace Courier

namespace Envelope

/-- An envelope is read back from its payload. -/
theorem decode_toBytes (e : Envelope) : decode e.toBytes = .ok e := by
  rw [decode, toBytes, Json.read_write (by decide) e]
  rfl

/-- The message of an envelope holds some bytes just if it is their base64. -/
theorem content_eq_ok_iff (e : Envelope) (bytes : Bytes) :
    e.content = .ok bytes ↔ e.message = Base64.encode bytes := by
  rw [content, mapError_eq_ok_iff, Base64.decode_eq_ok_iff]

/-- Envelopes are read back from their payloads, so different envelopes have different payloads.

The bytes that an envelope is made of are its content. Whatever envelope has some bytes as its
content is the one that is made of them, with the same subject and number. -/
theorem round_trip :
    (∀ e : Envelope, decode e.toBytes = .ok e) ∧
    (∀ e f : Envelope, e.toBytes = f.toBytes → e = f) ∧
    (∀ (subject : String) (bytes : Bytes) (request : Int64),
      (ofBytes subject bytes request).content = .ok bytes) ∧
    ∀ (e : Envelope) (bytes : Bytes), e.content = .ok bytes →
      ofBytes e.subject bytes e.request = e := by
  refine ⟨decode_toBytes, ?_, ?_, ?_⟩
  · intro e f hsame
    have hread := decode_toBytes e
    rw [hsame, decode_toBytes f] at hread
    exact (Except.ok.inj hread).symm
  · exact fun subject bytes request => (content_eq_ok_iff _ bytes).2 rfl
  · intro e bytes hcontent
    rw [ofBytes, ← (content_eq_ok_iff e bytes).1 hcontent]

end Envelope

end Courier
