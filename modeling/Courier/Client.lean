import Courier.Config
import Courier.Dispatcher

/-!
# Clients

A client is a configuration together with the handlers of its paths. Where none are given, a path
with a document is answered with it, and every other path is echoed.
-/

namespace Courier

/-- A configuration and the handlers of its paths. -/
structure Client where
  config : Config
  dispatcher : Dispatcher

/-- The handler that a configuration asks for at a path. -/
def Config.handler (c : Config) (path : String) : Handler :=
  match findEntry? path c.client.documents with
  | some document => .document path document
  | none => .echo path

namespace Client

/-- The client whose handlers the configuration asks for. -/
def ofConfig (c : Config) : Client := ⟨c, .ofHandlers (c.client.paths.map c.handler)⟩

end Client

end Courier
