import Courier.Envelope.Request
import Courier.Failure

/-!
# Handlers

A handler serves one path: it answers each request for the path with a response, or fails. Two
handlers are built in. The echo gives back the body it was sent, and a document is the answer to
every request.
-/

namespace Courier

/-- What serves a path. -/
structure Handler where
  path : String
  handle : Request → Except Failure Response

namespace Handler

/-- Give back the body, under the content type it came with. -/
def echoResponse (request : Request) : Except Failure Response := do
  let body ← request.content.mapError .malformedEnvelope
  let contentType := (request.header? contentTypeHeader).getD bytesContentType
  return (Response.ofBytes request.id 200 body).withHeader contentTypeHeader contentType

/-- A handler that gives back the body of each request. -/
def echo (path : String) : Handler := ⟨path, echoResponse⟩

/-- A handler that answers every request with one document. -/
def document (path : String) (value : Json.Value) : Handler :=
  ⟨path, fun request => .ok (Response.ofDocument request.id value)⟩

end Handler

end Courier
