import Courier.Envelope.Request

/-!
# Registration

A client that has just connected announces under which name it is known and which paths it
serves. The announcement is a request of its own, to a fixed path, whose body is JSON. Requests
of one connection are numbered from one.
-/

namespace Courier

/-- What a client announces. -/
structure Registration where
  clientId : String
  paths : List String
deriving DecidableEq, Repr

namespace Registration

instance : Json.Record Registration where
  layout := ⟨"RegisterBody", [.required "client_id" .text, .required "paths" .textList]⟩
  values r := (r.clientId, r.paths, ())
  ofValues := fun (clientId, paths, ()) => ⟨clientId, paths⟩
  ofValues_values _ := rfl

/-- The path that registrations go to. -/
def path : String := "/register"

/-- The request that announces a client. -/
def toRequest (r : Registration) (id : Int64) : Request :=
  ((Request.bare id "POST" path).withHeader contentTypeHeader jsonContentType).withBody
    (Json.write r)

/-- The envelope that announces a client. -/
def toEnvelope (r : Registration) (id : Int64) : Envelope :=
  (r.toRequest id).toEnvelope Subject.register

end Registration

/-- The numbers that are left for the requests of a connection. -/
structure RequestNumbers where
  /-- The number of the next request. -/
  next : Int64
deriving DecidableEq, Repr

namespace RequestNumbers

/-- No number has been taken. -/
def fresh : RequestNumbers := ⟨1⟩

/-- Take the next number. -/
def take (numbers : RequestNumbers) : Int64 × RequestNumbers :=
  (numbers.next, ⟨numbers.next + 1⟩)

end RequestNumbers

end Courier
