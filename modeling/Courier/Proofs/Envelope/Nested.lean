import Courier.Envelope.ErrorReply
import Courier.Envelope.Registration
import Courier.Proofs.Envelope.RoundTrip
import Courier.Proofs.Frame.Reassembly

/-!
# Messages inside messages

A registration is JSON in the body of a request, a body is base64 in the JSON of its request, the
request is base64 in the JSON of an envelope, and the envelope is the payload of a frame. What one
layer writes is a text or some bytes to the layer around it, so each is read back whatever it holds,
and a registration comes out of any cutting of its frame as it went in (`nested_round_trip`).
-/

namespace Courier

namespace Envelope

/-- The record that an envelope was made of is the one that its message holds. -/
theorem record_ofRecord {α : Type} [Json.Record α]
    (hnames : ((Json.Record.layout α).fields.map Json.Field.name).Nodup) (subject : String) (a : α)
    (request : Int64) : (ofRecord subject a request).record = .ok a := by
  have hcontent : (ofRecord subject a request).content = .ok (Json.write a) :=
    (content_eq_ok_iff _ _).2 rfl
  rw [record, contentBy, hcontent]
  change (Json.read (Json.write a)).mapError _ = .ok a
  rw [Json.read_write hnames a]
  rfl

/-- A single envelope comes out of its frame, however the frame is cut, and nothing is left. -/
theorem feed_toFrame {limit : Nat} {e : Envelope} (h : Frame.Fits limit e.toBytes) :
    ∃ frame, e.toFrame = .ok frame ∧ ∀ chunks : List Bytes, chunks.flatten = frame →
      (∀ answer ∈ ((FrameBuffer.empty limit).calls (chunks.map .feed)).1,
        ∃ handed, answer = .ok handed) ∧
      ((FrameBuffer.empty limit).payloads (chunks.map .feed)).map decode = [.ok e] ∧
      ((FrameBuffer.empty limit).afterwards (chunks.map .feed)).finish = .ok () := by
  refine ⟨_, Frame.encode_eq_layout h.2, ?_⟩
  intro chunks hchunks
  obtain ⟨hok, hpayloads, hempty⟩ := FrameBuffer.calls_feed_frames [e.toBytes] chunks
    (fun p hp => List.mem_singleton.1 hp ▸ h) (by rw [hchunks, List.flatMap_singleton])
  rw [hpayloads, hempty, List.map_singleton, decode_toBytes]
  exact ⟨hok, rfl, rfl⟩

end Envelope

/-- Some bytes are read back from their base64. -/
theorem Base64.decode_encode (bytes : Bytes) : decode (encode bytes) = .ok bytes :=
  (decode_eq_ok_iff _ _).2 rfl

namespace Request

/-- The body of a request is the bytes that it was given. -/
theorem content_withBody (r : Request) (bytes : Bytes) :
    (r.withBody bytes).content = .ok bytes := by
  rw [content, withBody, Base64.decode_encode]
  rfl

/-- A request is read back from its envelope. -/
theorem record_toEnvelope (r : Request) (subject : String) :
    (r.toEnvelope subject).record = .ok r :=
  Envelope.record_ofRecord (by decide) subject r r.id

end Request

namespace Response

/-- The body of a response is the bytes that it was given. -/
theorem content_ofBytes (id : Int64) (status : UInt16) (bytes : Bytes) :
    (ofBytes id status bytes).content = .ok bytes := by
  rw [content, ofBytes, Base64.decode_encode]
  rfl

/-- A response is read back from its envelope. -/
theorem record_toEnvelope (r : Response) : r.toEnvelope.record = .ok r :=
  Envelope.record_ofRecord (by decide) Subject.response r r.id

end Response

/-- An error reply is read back from its envelope. -/
theorem ErrorReply.record_toEnvelope (r : ErrorReply) : r.toEnvelope.record = .ok r :=
  Envelope.record_ofRecord (by decide) Subject.error r r.id

namespace Registration

/-- The body of the request that announces a client is what it announces. -/
theorem content_toRequest (r : Registration) (id : Int64) :
    (r.toRequest id).content = .ok (Json.write r) :=
  Request.content_withBody _ _

/-- What a client announces is read back from the body. -/
theorem contentBy_toRequest (r : Registration) (id : Int64) :
    (r.toRequest id).contentBy Json.read = .ok r := by
  rw [Request.contentBy, content_toRequest]
  change (Json.read (Json.write r)).mapError _ = .ok r
  rw [Json.read_write (by decide) r]
  rfl

/-- What is put into messages is read back from all layers around it.

A registration whose envelope fits a frame comes out of this frame, in whatever pieces the frame is
fed, as one envelope with its number, and in it a request to the path for registrations with one
header and the client's name and paths, each as it was, in their order. Requests, responses and error
replies are read back from their envelopes, which bear their numbers, and bodies from requests and
responses. -/
theorem nested_round_trip :
    (∀ (r : Registration) (id : Int64) (limit : Nat), Frame.Fits limit (r.toEnvelope id).toBytes →
      ∃ frame, (r.toEnvelope id).toFrame = .ok frame ∧
        ∀ chunks : List Bytes, chunks.flatten = frame →
          (∀ answer ∈ ((FrameBuffer.empty limit).calls (chunks.map .feed)).1,
            ∃ handed, answer = .ok handed) ∧
          ((FrameBuffer.empty limit).afterwards (chunks.map .feed)).finish = .ok () ∧
          ∃ e : Envelope, e.subject = Subject.register ∧ e.request = id ∧
            ((FrameBuffer.empty limit).payloads (chunks.map .feed)).map Envelope.decode = [.ok e] ∧
            ∃ q : Request, e.record = .ok q ∧ q.id = id ∧ q.method = "POST" ∧
              q.path = "/register" ∧ q.headers.entries = [("Content-Type", "application/json")] ∧
              q.content = .ok (Json.write r) ∧ q.contentBy Json.read = .ok r) ∧
    (∀ (r : Request) (subject : String), (r.toEnvelope subject).subject = subject ∧
      (r.toEnvelope subject).request = r.id ∧ (r.toEnvelope subject).record = .ok r) ∧
    (∀ r : Response, r.toEnvelope.subject = Subject.response ∧ r.toEnvelope.request = r.id ∧
      r.toEnvelope.record = .ok r) ∧
    (∀ r : ErrorReply, r.toEnvelope.subject = Subject.error ∧ r.toEnvelope.request = r.id ∧
      r.toEnvelope.record = .ok r) ∧
    (∀ (r : Request) (bytes : Bytes), (r.withBody bytes).content = .ok bytes) ∧
    ∀ (id : Int64) (status : UInt16) (bytes : Bytes),
      (Response.ofBytes id status bytes).content = .ok bytes := by
  refine ⟨?_, fun r subject => ⟨rfl, rfl, r.record_toEnvelope subject⟩,
    fun r => ⟨rfl, rfl, r.record_toEnvelope⟩, fun r => ⟨rfl, rfl, r.record_toEnvelope⟩,
    Request.content_withBody, Response.content_ofBytes⟩
  intro r id limit hfits
  obtain ⟨frame, hframe, hfeed⟩ := Envelope.feed_toFrame hfits
  refine ⟨frame, hframe, ?_⟩
  intro chunks hchunks
  obtain ⟨hok, hpayloads, hfinish⟩ := hfeed chunks hchunks
  exact ⟨hok, hfinish, _, rfl, rfl, hpayloads, r.toRequest id,
    (r.toRequest id).record_toEnvelope Subject.register, rfl, rfl, rfl, rfl,
    r.content_toRequest id, r.contentBy_toRequest id⟩

/-- A registration with a negative number, under a name with a quote and a line feed in it, and with
the same path twice, comes out of its frame when the last byte is fed apart. -/
theorem nested_round_trip_rare_characters :
    ∃ frame, (Registration.toEnvelope ⟨"é\"\n", ["/b", "/😀", "/b"]⟩ (-1)).toFrame = .ok frame ∧
      ∃ e : Envelope, e.request = -1 ∧
        ((FrameBuffer.empty 1000).payloads ([frame.dropLast, frame.drop (frame.length - 1)].map
          .feed)).map Envelope.decode = [.ok e] ∧
        ∃ q : Request, e.record = .ok q ∧
          q.contentBy Json.read = .ok (⟨"é\"\n", ["/b", "/😀", "/b"]⟩ : Registration) := by
  obtain ⟨hregistration, -⟩ := nested_round_trip
  obtain ⟨frame, hframe, hfeed⟩ := hregistration ⟨"é\"\n", ["/b", "/😀", "/b"]⟩ (-1) 1000
    ⟨by decide +kernel, by decide +kernel⟩
  obtain ⟨-, -, e, -, hrequest, hpayloads, q, hrecord, -, -, -, -, -, hbody⟩ :=
    hfeed [frame.dropLast, frame.drop (frame.length - 1)]
      (by simp [List.dropLast_eq_take, List.take_append_drop])
  exact ⟨frame, hframe, e, hrequest, hpayloads, q, hrecord, hbody⟩

end Registration

end Courier
