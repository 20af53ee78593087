import Courier.Failure

/-!
# Error replies

A request that fails is answered all the same: with the code and the wording of the failure.
-/

namespace Courier

/-- The answer to a request that failed. -/
structure ErrorReply where
  id : Int64
  code : String
  message : String
deriving DecidableEq, Repr

namespace ErrorReply

instance : Json.Record ErrorReply where
  layout :=
    ⟨"ErrorReply",
      [.required "request_id" .integer, .required "code" .text, .required "message" .text]⟩
  values r := (r.id, r.code, r.message, ())
  ofValues := fun (id, code, message, ()) => ⟨id, code, message⟩
  ofValues_values _ := rfl

/-- The answer to a request that ended in a failure. -/
def ofFailure (id : Int64) (failure : Failure) : ErrorReply := ⟨id, failure.code, failure.message⟩

/-- The envelope of an error reply, with the number of the request. -/
def toEnvelope (r : ErrorReply) : Envelope := .ofRecord Subject.error r r.id

end ErrorReply

end Courier
