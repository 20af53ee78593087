import Courier.Base64
import Courier.Frame
import Courier.Json.Record

/-!
# Envelopes

Each frame carries one envelope: a subject, a message in base64, and the number that ties an
answer to its request. What the message holds depends on the subject, so it stays base64 until
somebody asks for it; an envelope whose message is no base64 is still an envelope.
-/

namespace Courier

/-- The message that one frame carries. -/
structure Envelope where
  /-- What kind of message this is. -/
  subject : String
  /-- The message in base64. -/
  message : String
  /-- The number that an answer has in common with its request. -/
  request : Int64
deriving DecidableEq, Repr

/-! ## Subjects -/

namespace Subject

/-- A client announces its paths. -/
def register : String := "REG"

/-- The coordinator acknowledges a registration. -/
def registered : String := "REG_RESPONSE"

/-- The coordinator forwards a request for a registered path. -/
def request : String := "REQUEST"

/-- The answer to a request. -/
def response : String := "RESPONSE"

/-- The answer to a request that failed. -/
def error : String := "ERROR"

/-- The coordinator notifies a client. -/
def task : String := "TASK"

end Subject

namespace Envelope

instance : Json.Record Envelope where
  layout :=
    ⟨"Envelope", [.required "sub" .text, .required "msg" .text, .required "request" .integer]⟩
  values e := (e.subject, e.message, e.request, ())
  ofValues := fun (subject, message, request, ()) => ⟨subject, message, request⟩
  ofValues_values _ := rfl

/-- Why an envelope, or what it carries, cannot be read. -/
inductive Fault where
  /-- A payload is no envelope. -/
  | notEnvelope (json : Json.Fault)
  /-- The message of an envelope is no base64. -/
  | message (base64 : Base64.Fault)
  /-- The message of an envelope of some subject is not what it should be. -/
  | content (subject : String) (json : Json.Fault)
  /-- The body of a request or response is no base64. -/
  | body (base64 : Base64.Fault)
  /-- The body of a request is not what it should be. -/
  | bodyContent (json : Json.Fault)
  /-- Words from elsewhere. -/
  | stated (text : String)
deriving DecidableEq, Repr

/-- The wording of a fault. -/
def Fault.wording : Fault → String
  | .notEnvelope json => "invalid envelope json: " ++ json.message
  | .message base64 => "msg is not base64: " ++ base64.message
  | .content subject json => s!"invalid {subject} payload: " ++ json.message
  | .body base64 => "body is not base64: " ++ base64.message
  | .bodyContent json => "invalid request body: " ++ json.message
  | .stated text => text

/-- The envelope of some bytes. -/
def ofBytes (subject : String) (content : Bytes) (request : Int64) : Envelope :=
  ⟨subject, Base64.encode content, request⟩

/-- The envelope of a record. -/
def ofRecord {α : Type} [Json.Record α] (subject : String) (a : α) (request : Int64) : Envelope :=
  ofBytes subject (Json.write a) request

/-- The payload of a frame that carries an envelope. -/
def toBytes (e : Envelope) : Bytes := Json.write e

/-- The frame that carries an envelope. -/
def toFrame (e : Envelope) : Except Frame.Fault Bytes := Frame.encode e.toBytes

/-- The envelope that a payload holds. -/
def decode (payload : Bytes) : Except Fault Envelope :=
  (Json.read payload).mapError .notEnvelope

/-- The bytes of the message. -/
def content (e : Envelope) : Except Fault Bytes := (Base64.decode e.message).mapError .message

/-- The message read with a reader of JSON. -/
def contentBy {α : Type} (read : Bytes → Except Json.Fault α) (e : Envelope) : Except Fault α := do
  let bytes ← e.content
  (read bytes).mapError (.content e.subject)

/-- The record that the message holds. -/
def record {α : Type} [Json.Record α] (e : Envelope) : Except Fault α := e.contentBy Json.read

end Envelope

end Courier
