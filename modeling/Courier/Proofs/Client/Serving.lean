import Courier.Proofs.Client.Schedule
import Courier.Proofs.Config.Accepted
import Courier.Proofs.Dispatcher.Replies
import Courier.Proofs.Handler.Echo

/-!
# What a client announces and what it serves

The paths of a configuration are announced as they stand there, and each of them gets the handler
that the configuration asks for. That both are the same, and that no path is lost, doubled or served
by another handler, rests on what the rules of a configuration see to: no path is there twice, and
there are documents only for paths that are served (`serves_what_it_announces`).
-/

namespace Courier

namespace Config

variable {c : Config} {path : String}

/-! ## Handlers -/

/-- A path with a document is answered with it. -/
theorem handler_of_mem {document : Json.Value}
    (hdocument : (path, document) ∈ c.client.documents) :
    c.handler path = .document path document := by
  rw [handler, (find_entries_eq_some_iff c.client.ascending_documents path document).2 hdocument]

/-- A path without a document is echoed. -/
theorem handler_of_not_mem (h : path ∉ c.client.documents.map Prod.fst) :
    c.handler path = .echo path := by
  rw [handler, (find_entries_eq_none_iff _ _).2 h]

/-- The handler that a configuration asks for at a path serves this path. -/
theorem path_handler (c : Config) (path : String) : (c.handler path).path = path := by
  unfold handler
  split <;> rfl

end Config

namespace Dispatcher

variable {path : String}

/-- Handlers that are registered from front to back are registered by calls. -/
theorem dispatcher_afterwards_register (handlers : List Handler) (s : Service) :
    (s.afterwards (handlers.map .register)).dispatcher = handlers.foldl register s.dispatcher := by
  induction handlers generalizing s with
  | nil => rfl
  | cons handler rest ih => exact ih (s.call (.register handler)).2

/-- Just under the paths for which a handler is made it is the last that is registered there. -/
theorem latest?_register_map {handler : String → Handler}
    (hpath : ∀ path, (handler path).path = path)
    (paths : List String) (path : String) :
    latest? path ((paths.map handler).map .register) =
      if path ∈ paths then some (handler path) else none := by
  have hregistered : ((paths.map handler).map Call.register).filterMap Call.handler? =
      paths.map handler := by
    rw [List.filterMap_map]
    exact List.filterMap_some
  rw [latest?, hregistered, ← List.map_reverse, List.find?_map]
  simp only [Function.comp_def, hpath]
  cases hfind : paths.reverse.find? (fun p => decide (p = path)) with
  | none =>
    have hout : path ∉ paths := by
      rw [List.find?_eq_none] at hfind
      exact fun hin => hfind path (List.mem_reverse.2 hin) (decide_eq_true rfl)
    rw [if_neg hout, Option.map_none]
  | some found =>
    obtain rfl : found = path := by simpa using List.find?_some hfind
    rw [if_pos (List.mem_reverse.1 (List.mem_of_find?_eq_some hfind)), Option.map_some]

/-- The registered paths are those under which a handler is found. -/
theorem mem_paths_iff (d : Dispatcher) (path : String) :
    path ∈ d.paths ↔ ∃ handler, findEntry? path d.handlers = some handler := by
  rw [← Option.isSome_iff_exists, ← Option.ne_none_iff_isSome, ne_eq, find_entries_eq_none_iff,
    Decidable.not_not, paths]

/-- The registered paths stand in ascending order, each once. -/
theorem pairwise_paths (d : Dispatcher) : d.paths.Pairwise (· < ·) :=
  List.pairwise_map.2 d.ascending

end Dispatcher

namespace Client

variable {c : Config} {e reply : Envelope} {request : Request}

/-! ## The handlers of a configuration -/

/-- The registrations of the handlers that a configuration asks for. -/
def registrations (c : Config) : List Dispatcher.Call :=
  (c.client.paths.map c.handler).map .register

/-- Under each path the handler that the configuration asks for is found, if the path is served. -/
theorem find_ofConfig (c : Config) (path : String) :
    findEntry? path (ofConfig c).dispatcher.handlers =
      Dispatcher.latest? path (registrations c) := by
  have hregistered := Dispatcher.dispatcher_afterwards_register (c.client.paths.map c.handler)
    (Dispatcher.Service.start .zero)
  have hfound := Dispatcher.Service.handler?_afterwards (.start .zero) (registrations c) path
  rw [Dispatcher.Service.handler?, registrations, hregistered] at hfound
  exact hfound.trans Option.or_none

/-- The registered paths are those of the configuration, in ascending order. -/
theorem perm_paths_ofConfig (h : c.client.paths.Nodup) :
    (ofConfig c).dispatcher.paths.Perm c.client.paths := by
  have hnodup : (ofConfig c).dispatcher.paths.Nodup :=
    (ofConfig c).dispatcher.pairwise_paths.imp String.ne_of_lt
  refine (List.perm_ext_iff_of_nodup hnodup h).2 fun path => ?_
  rw [Dispatcher.mem_paths_iff, find_ofConfig, registrations,
    Dispatcher.latest?_register_map c.path_handler]
  by_cases hin : path ∈ c.client.paths <;> simp [hin]

/-! ## Replies -/

/-- What the reply of a client to a request has to be. -/
structure Serves (c : Config) (e : Envelope) (request : Request) (reply : Envelope) : Prop where
  number : reply.request = e.request
  /-- A path with a document is answered with the document, whatever else the request holds. -/
  document : ∀ document, (request.path, document) ∈ c.client.documents →
    reply.subject = Subject.response ∧ ∃ response : Response, reply.record = .ok response ∧
      response.id = request.id ∧ response.status = 200 ∧
      response.headers.entries = [("Content-Type", "application/json")] ∧
      response.content = .ok document.write
  /-- Another path of the configuration gives the body back. -/
  echoed : request.path ∈ c.client.paths → request.path ∉ c.client.documents.map Prod.fst →
    ∀ body, request.content = .ok body →
      reply.subject = Subject.response ∧ ∃ response : Response, reply.record = .ok response ∧
        response.id = request.id ∧ response.status = 200 ∧
        response.headers.entries = [("Content-Type",
          (request.header? "Content-Type").getD "application/octet-stream")] ∧
        response.content = .ok body
  /-- A body that is no base64 cannot be given back. -/
  unreadable : request.path ∈ c.client.paths → request.path ∉ c.client.documents.map Prod.fst →
    ∀ fault, request.content = .error fault →
      reply.subject = Subject.error ∧ reply.record =
        .ok (⟨e.request, "MALFORMED_ENVELOPE",
          "malformed envelope: " ++ fault.wording⟩ : ErrorReply)
  /-- A path that is not configured is unknown. -/
  unknown : request.path ∉ c.client.paths →
    reply.subject = Subject.error ∧ reply.record =
      .ok (⟨e.request, "UNKNOWN_PATH",
        "no handler registered for path: " ++ request.path⟩ : ErrorReply)
  /-- A path that is configured is never unknown. -/
  known : request.path ∈ c.client.paths → ∀ failure : ErrorReply, reply.subject = Subject.error →
    reply.record = .ok failure → failure.code ≠ "UNKNOWN_PATH"

/-- What becomes of a request is what the handler of its path makes of it, if the path is served. -/
theorem outcome_ofConfig (c : Config) (hrecord : e.record = .ok request) :
    (ofConfig c).dispatcher.outcome e =
      if request.path ∈ c.client.paths then (c.handler request.path).handle request
      else .error (.unknownPath request.path) := by
  rw [Dispatcher.outcome, hrecord]
  change (ofConfig c).dispatcher.dispatch request = _
  rw [Dispatcher.dispatch, find_ofConfig, registrations,
    Dispatcher.latest?_register_map c.path_handler]
  by_cases hin : request.path ∈ c.client.paths <;> simp only [hin, if_true, if_false]

/-- A path with a document comes to a response with the document. -/
theorem outcome_of_document (hkeeps : c.Keeps) (hrecord : e.record = .ok request)
    {document : Json.Value} (hdocument : (request.path, document) ∈ c.client.documents) :
    (ofConfig c).dispatcher.outcome e = .ok (Response.ofDocument request.id document) := by
  rw [outcome_ofConfig c hrecord, if_pos (hkeeps.served _ hdocument),
    Config.handler_of_mem hdocument]
  rfl

/-- Another path comes to what the echo makes of the request. -/
theorem outcome_of_echoed (hrecord : e.record = .ok request) (hin : request.path ∈ c.client.paths)
    (hnone : request.path ∉ c.client.documents.map Prod.fst) :
    (ofConfig c).dispatcher.outcome e = (Handler.echo request.path).handle request := by
  rw [outcome_ofConfig c hrecord, if_pos hin, Config.handler_of_not_mem hnone]

/-- What has come to a response is replied by it. -/
theorem replyTo_of_ok {number : Int64} {result : Except Failure Response} {response : Response}
    (h : result = .ok response) :
    (Dispatcher.replyTo number result).subject = Subject.response ∧
      (Dispatcher.replyTo number result).record = .ok response := by
  rw [h]
  exact ⟨rfl, Dispatcher.record_replyTo_ok _ _⟩

/-- What has failed is replied by what went wrong. -/
theorem replyTo_of_error {number : Int64} {result : Except Failure Response} {failure : Failure}
    (h : result = .error failure) :
    (Dispatcher.replyTo number result).subject = Subject.error ∧
      (Dispatcher.replyTo number result).record =
        .ok (⟨number, failure.code, failure.message⟩ : ErrorReply) := by
  rw [h]
  exact ⟨rfl, Dispatcher.record_replyTo_error _ _⟩

/-- A path that is served fails only with a body that cannot be read. -/
theorem exists_fault_of_outcome_eq_error (hkeeps : c.Keeps) (hrecord : e.record = .ok request)
    (hin : request.path ∈ c.client.paths) {failure : Failure}
    (h : (ofConfig c).dispatcher.outcome e = .error failure) :
    ∃ fault, failure = .malformedEnvelope fault := by
  by_cases hdocument : request.path ∈ c.client.documents.map Prod.fst
  · obtain ⟨⟨path, document⟩, hmem, hpath⟩ := List.mem_map.1 hdocument
    obtain rfl : path = request.path := hpath
    cases h.symm.trans (outcome_of_document hkeeps hrecord hmem)
  · rw [outcome_of_echoed hrecord hin hdocument, Handler.handle_echo] at h
    cases hcontent : request.content with
    | ok body =>
      rw [hcontent] at h
      cases h
    | error fault =>
      rw [hcontent] at h
      cases h
      exact ⟨fault, rfl⟩

/-- The reply to a request is what the configuration asks for. -/
theorem serves_replyTo (hkeeps : c.Keeps) (hrecord : e.record = .ok request) :
    Serves c e request (Dispatcher.replyTo e.request ((ofConfig c).dispatcher.outcome e)) := by
  have hechoed (hin : request.path ∈ c.client.paths)
      (hnone : request.path ∉ c.client.documents.map Prod.fst) :=
    (outcome_of_echoed hrecord hin hnone).trans (Handler.handle_echo request.path request)
  constructor
  case number => cases (ofConfig c).dispatcher.outcome e <;> rfl
  case document =>
    intro document hdocument
    obtain ⟨hsubject, hreply⟩ := replyTo_of_ok (outcome_of_document hkeeps hrecord hdocument)
    exact ⟨hsubject, _, hreply, rfl, rfl, rfl, Response.content_ofBytes request.id 200 _⟩
  case echoed =>
    intro hin hnone body hbody
    have houtcome := hechoed hin hnone
    rw [hbody] at houtcome
    obtain ⟨hsubject, hreply⟩ := replyTo_of_ok houtcome
    exact ⟨hsubject, _, hreply, rfl, rfl, rfl, Response.content_ofBytes request.id 200 _⟩
  case unreadable =>
    intro hin hnone fault hfault
    have houtcome := hechoed hin hnone
    rw [hfault] at houtcome
    exact replyTo_of_error houtcome
  case unknown =>
    intro hout
    have houtcome := outcome_ofConfig c hrecord
    rw [if_neg hout] at houtcome
    exact replyTo_of_error houtcome
  case known =>
    intro hin reported hsubject hreported
    cases houtcome : (ofConfig c).dispatcher.outcome e with
    | ok response =>
      rw [(replyTo_of_ok houtcome).1] at hsubject
      exact absurd hsubject (by decide)
    | error failure =>
      obtain ⟨fault, rfl⟩ := exists_fault_of_outcome_eq_error hkeeps hrecord hin houtcome
      rw [(replyTo_of_error houtcome).2] at hreported
      cases hreported
      have hcode : "MALFORMED_ENVELOPE" ≠ "UNKNOWN_PATH" := by decide
      exact hcode

/-! ## The announcement -/

/-- What a run has written, if anything, is the beginning of the registration or begins with it. -/
theorem written_registration {client : Client} {switch : Run.Switch} {actions : List Run.Action}
    {r : Run} (h : after? Run.step? (Run.start client switch) actions = some r)
    (hwritten : r.session.written ≠ []) :
    ∃ frame, client.registration.toFrame = .ok frame ∧
      (r.session.written <+: frame ∨ frame <+: r.session.written) := by
  cases Run.mode_of_after? h with
  | connecting switch hrun =>
    rw [hrun] at hwritten
    exact absurd rfl hwritten
  | registering h =>
    obtain ⟨o, ho, hbusy⟩ := h.busy
    rw [Session.written_of_outbound ho]
    exact ⟨_, h.framed, Or.inl hbusy.written_prefix⟩
  | liveOrFinished h =>
    have hall := h.written_prefix
    rw [wire, script, frames] at hall
    cases hframe : client.registration.toFrame with
    | ok frame =>
      rw [hframe] at hall
      exact ⟨frame, rfl, List.prefix_or_prefix_of_prefix hall (List.prefix_append _ _)⟩
    | error fault =>
      rw [hframe] at hall
      exact absurd (List.prefix_nil.1 hall) hwritten

/-- A client serves just what it announces, and serves it as its configuration asks.

For every text that is accepted, the registered paths are the configured ones in ascending order,
and what a run writes first is a registration that holds them in the order of the configuration. A
request to a path with a document is answered with it, whatever else the request holds; one to
another path gets its body back, or an error if that is no base64; and any other path is unknown. -/
theorem serves_what_it_announces {text : String} (h : Config.ofText text = .ok c) :
    (ofConfig c).dispatcher.paths.Perm c.client.paths ∧ c.client.paths.Nodup ∧
    (ofConfig c).dispatcher.paths.Pairwise (· < ·) ∧
    ((ofConfig c).registration.subject = Subject.register ∧
      ∃ q : Request, (ofConfig c).registration.record = .ok q ∧ q.method = "POST" ∧
        q.path = "/register" ∧
        q.contentBy Json.read = .ok (⟨c.client.id, c.client.paths⟩ : Registration)) ∧
    (∀ switch actions r, after? Run.step? (Run.start (ofConfig c) switch) actions = some r →
      r.session.written ≠ [] → ∃ frame, (ofConfig c).registration.toFrame = .ok frame ∧
        (r.session.written <+: frame ∨ frame <+: r.session.written)) ∧
    ∀ e request, e.subject = Subject.request → e.record = .ok request →
      ∃ reply, (ofConfig c).dispatcher.reply? e = some reply ∧ Serves c e request reply := by
  have hkeeps := Config.keeps_of_ofText h
  have hregistration : (ofConfig c).registration.record =
      .ok (Registration.toRequest ⟨c.client.id, c.client.paths⟩ RequestNumbers.fresh.next) :=
    Request.record_toEnvelope _ _
  refine ⟨perm_paths_ofConfig hkeeps.nodup, hkeeps.nodup, (ofConfig c).dispatcher.pairwise_paths,
    ⟨rfl, _, hregistration, rfl, rfl, Registration.contentBy_toRequest _ _⟩,
    fun _ _ _ => written_registration, ?_⟩
  intro e request hsubject hrecord
  exact ⟨_, if_pos hsubject, serves_replyTo hkeeps hrecord⟩

/-- Of two paths in descending order the one with a document is answered with it, although the
request has a body that is no base64. -/
theorem serves_what_it_announces_document :
    ∃ c reply, Config.ofText ("version: 1\nclient: \x7bid: a, paths: [/b, /a], " ++
        "static_responses: \x7b/a: [1]\x7d\x7d\n") = .ok c ∧
      (ofConfig c).dispatcher.reply?
          (Request.toEnvelope ⟨7, "GET", "/a", OrderedMap.empty, "?"⟩ "REQUEST") = some reply ∧
      ∃ response : Response, reply.record = .ok response ∧ response.id = 7 ∧
        response.content = .ok (Json.word "[1]") := by
  obtain ⟨c, hc, hdocuments⟩ := exists_ok_of_any
    (x := Config.ofText ("version: 1\nclient: \x7bid: a, paths: [/b, /a], " ++
      "static_responses: \x7b/a: [1]\x7d\x7d\n"))
    (p := fun c => c.client.documents.map (fun d => (d.1, d.2.write)) =
      [("/a", Json.word "[1]")]) (by decide +kernel)
  have hmem : ("/a", Json.word "[1]") ∈ c.client.documents.map (fun d => (d.1, d.2.write)) := by
    rw [of_decide_eq_true hdocuments]
    exact List.mem_cons_self
  obtain ⟨⟨path, document⟩, hdocument, heq⟩ := List.mem_map.1 hmem
  obtain ⟨rfl, hwritten⟩ := Prod.ext_iff.1 heq
  obtain ⟨-, -, -, -, -, hserves⟩ := serves_what_it_announces hc
  obtain ⟨reply, hreply, hserved⟩ := hserves _ _ rfl
    (Request.record_toEnvelope ⟨7, "GET", "/a", OrderedMap.empty, "?"⟩ "REQUEST")
  obtain ⟨-, response, hresponse, hid, -, -, hcontent⟩ := hserved.document document hdocument
  exact ⟨c, reply, hc, hreply, response, hresponse, hid,
    hcontent.trans (congrArg Except.ok hwritten)⟩

end Client

end Courier
