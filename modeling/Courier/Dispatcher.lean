import Courier.Envelope.ErrorReply
import Courier.Handler
import Courier.Metrics

/-!
# The dispatcher

The dispatcher knows a handler for each registered path and takes inbound envelopes in the order
of their receipt. A request is always answered, by the response of its handler or by an error
reply, under the number of its envelope; nothing else gets an answer.
-/

namespace Courier

/-- The handlers of a client, in ascending order of their paths. -/
structure Dispatcher where
  handlers : List (String × Handler)
  ascending : Ascending handlers

namespace Dispatcher

/-- No path has a handler. -/
def empty : Dispatcher := ⟨[], List.Pairwise.nil⟩

/-- Let a handler serve its path, in place of the one that did. -/
def register (dispatcher : Dispatcher) (handler : Handler) : Dispatcher :=
  ⟨insertEntry handler.path handler dispatcher.handlers,
    ascending_insertEntry handler.path handler dispatcher.ascending⟩

/-- The dispatcher of handlers that are registered from front to back. -/
def ofHandlers (handlers : List Handler) : Dispatcher := handlers.foldl register empty

/-- The registered paths in ascending order. -/
def paths (dispatcher : Dispatcher) : List String := dispatcher.handlers.map Prod.fst

/-- Hand a request to the handler of its path. -/
def dispatch (dispatcher : Dispatcher) (request : Request) : Except Failure Response :=
  match findEntry? request.path dispatcher.handlers with
  | none => .error (.unknownPath request.path)
  | some handler => handler.handle request

/-- What becomes of the request that an envelope should carry. -/
def outcome (dispatcher : Dispatcher) (e : Envelope) : Except Failure Response := do
  let request ← (e.record (α := Request)).mapError .malformedEnvelope
  dispatcher.dispatch request

/-- The answer to a request, under the number of its envelope. -/
def replyTo (number : Int64) : Except Failure Response → Envelope
  | .ok response => { response.toEnvelope with request := number }
  | .error failure => (ErrorReply.ofFailure number failure).toEnvelope

/-- The answer to an inbound envelope, if it gets one. -/
def reply? (dispatcher : Dispatcher) (e : Envelope) : Option Envelope :=
  if e.subject = Subject.request then some (replyTo e.request (dispatcher.outcome e)) else none

end Dispatcher

/-- Count the answer to an inbound envelope, if it gets one. -/
def Metrics.countReply (metrics : Metrics) (reply : Option Envelope) : Metrics :=
  match reply with
  | none => metrics
  | some answer => metrics.countAnswer answer.subject

end Courier
