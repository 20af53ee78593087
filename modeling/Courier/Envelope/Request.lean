import Courier.Envelope

/-!
# Requests and responses

The messages of the envelopes that are exchanged for a registered path have the form of HTTP
requests and responses. Their bodies are base64 inside the base64 of the envelope. Headers are
kept by their exact names, and looked up without regard to the case of ASCII letters.
-/

namespace Courier

/-- The header that says what a body holds. -/
def contentTypeHeader : String := "Content-Type"

/-- The content type of JSON. -/
def jsonContentType : String := "application/json"

/-- The content type of bytes of which nothing is known. -/
def bytesContentType : String := "application/octet-stream"

/-- Whether two names differ at most in the case of ASCII letters. -/
def sameHeader (first second : String) : Bool :=
  first.toList.map Char.toLower == second.toList.map Char.toLower

/-- The value of the first header, in the order of names, that has some name. -/
def TextMap.header? (headers : TextMap) (name : String) : Option String :=
  (headers.entries.find? fun entry => sameHeader entry.1 name).map Prod.snd

/-- A request for a path. -/
structure Request where
  id : Int64
  method : String
  path : String
  headers : TextMap
  /-- The body in base64. -/
  body : String
deriving DecidableEq

namespace Request

instance : Json.Record Request where
  layout :=
    ⟨"InnerRequest", [.required "request_id" .integer, .required "method" .text,
      .required "path" .text, .withFallback "headers" .textMap OrderedMap.empty,
      .withFallback "body" .text ""]⟩
  values r := (r.id, r.method, r.path, r.headers, r.body, ())
  ofValues := fun (id, method, path, headers, body, ()) => ⟨id, method, path, headers, body⟩
  ofValues_values _ := rfl

/-- A request without headers and body. -/
def bare (id : Int64) (method path : String) : Request := ⟨id, method, path, OrderedMap.empty, ""⟩

/-- The request with one more header, or another value of it. -/
def withHeader (r : Request) (name value : String) : Request :=
  { r with headers := r.headers.insert name value }

/-- The request with some bytes as its body. -/
def withBody (r : Request) (bytes : Bytes) : Request := { r with body := Base64.encode bytes }

/-- The bytes of the body. -/
def content (r : Request) : Except Envelope.Fault Bytes :=
  (Base64.decode r.body).mapError .body

/-- The body read with a reader of JSON. -/
def contentBy {α : Type} (read : Bytes → Except Json.Fault α) (r : Request) :
    Except Envelope.Fault α := do
  let bytes ← r.content
  (read bytes).mapError .bodyContent

/-- The value of a header. -/
def header? (r : Request) (name : String) : Option String := r.headers.header? name

/-- The envelope of a request, with the number of the request. -/
def toEnvelope (r : Request) (subject : String) : Envelope := .ofRecord subject r r.id

end Request

/-- The response to a request. -/
structure Response where
  id : Int64
  status : UInt16
  headers : TextMap
  /-- The body in base64. -/
  body : String
deriving DecidableEq

namespace Response

instance : Json.Record Response where
  layout :=
    ⟨"InnerResponse", [.required "request_id" .integer, .required "status_code" .short,
      .withFallback "headers" .textMap OrderedMap.empty, .withFallback "body" .text ""]⟩
  values r := (r.id, r.status, r.headers, r.body, ())
  ofValues := fun (id, status, headers, body, ()) => ⟨id, status, headers, body⟩
  ofValues_values _ := rfl

/-- A response without headers. -/
def ofBytes (id : Int64) (status : UInt16) (bytes : Bytes) : Response :=
  ⟨id, status, OrderedMap.empty, Base64.encode bytes⟩

/-- The response with one more header, or another value of it. -/
def withHeader (r : Response) (name value : String) : Response :=
  { r with headers := r.headers.insert name value }

/-- A response that holds a document. -/
def ofDocument (id : Int64) (document : Json.Value) : Response :=
  (ofBytes id 200 document.write).withHeader contentTypeHeader jsonContentType

/-- The bytes of the body. -/
def content (r : Response) : Except Envelope.Fault Bytes :=
  (Base64.decode r.body).mapError .body

/-- The envelope of a response, with the number of the request. -/
def toEnvelope (r : Response) : Envelope := .ofRecord Subject.response r r.id

end Response

end Courier
