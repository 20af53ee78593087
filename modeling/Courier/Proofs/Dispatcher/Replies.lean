import Courier.Dispatcher
import Courier.Proofs.Envelope.Nested

/-!
# Replies of the dispatcher

Handlers are registered and envelopes come in, in any order. Under each path the handler that was
registered last serves (`handler?_afterwards`), and every request gets one reply, under the number
of its envelope and counted once: the response of that handler, or the failure that stood in its way
(`replies`). Nothing else is answered or counted.
-/

namespace Courier

/-- The record that an envelope holds is the one that its message is base64 of. -/
theorem Envelope.record_eq_ok_iff {α : Type} [Json.Record α] (e : Envelope) (a : α) :
    e.record = .ok a ↔ ∃ bytes, e.message = Base64.encode bytes ∧ Json.read bytes = .ok a := by
  simp only [← content_eq_ok_iff, record, contentBy]
  cases e.content with
  | error fault => exact iff_of_false (by rintro ⟨⟩) (by rintro ⟨_, ⟨⟩, _⟩)
  | ok bytes =>
    change (Json.read bytes).mapError _ = .ok a ↔ _
    simp only [Except.ok.injEq, exists_eq_left']
    cases Json.read (α := α) bytes with
    | error fault => exact iff_of_false (by rintro ⟨⟩) (by rintro ⟨⟩)
    | ok content => exact ⟨by rintro ⟨⟩; rfl, by rintro ⟨⟩; rfl⟩

namespace Dispatcher

/-! ## Histories -/

/-- What happens to a dispatcher. -/
inductive Call where
  | register (handler : Handler)
  | envelope (e : Envelope)

/-- The handler that a call registers. -/
def Call.handler? : Call → Option Handler
  | .register handler => some handler
  | .envelope _ => none

/-- The handler that was registered last under exactly this path. -/
def latest? (path : String) (calls : List Call) : Option Handler :=
  (calls.filterMap Call.handler?).reverse.find? fun handler => handler.path = path

/-- A dispatcher with what it counts. -/
structure Service where
  dispatcher : Dispatcher
  metrics : Metrics

namespace Service

/-- Make a call, which may be answered. -/
def call (s : Service) : Call → Option Envelope × Service
  | .register handler => (none, { s with dispatcher := s.dispatcher.register handler })
  | .envelope e =>
    (s.dispatcher.reply? e,
      { s with metrics := s.metrics.countReply (s.dispatcher.reply? e) })

/-- The service after calls. -/
def afterwards (s : Service) (calls : List Call) : Service :=
  calls.foldl (fun s c => (s.call c).2) s

/-- No handler is registered yet. -/
def start (metrics : Metrics) : Service := ⟨.empty, metrics⟩

/-- The handler that serves under a path. -/
def handler? (s : Service) (path : String) : Option Handler :=
  findEntry? path s.dispatcher.handlers

/-- One more call changes under which path a handler is found only by registering it there. -/
theorem handler?_call (s : Service) (c : Call) (path : String) :
    (s.call c).2.handler? path =
      (c.handler?.filter fun handler => handler.path = path).or (s.handler? path) := by
  cases c with
  | register handler =>
    change findEntry? path (insertEntry handler.path handler s.dispatcher.handlers) = _
    rw [find_insertEntry, ← handler?]
    by_cases h : handler.path = path <;> simp [Call.handler?, Option.filter, h]
  | envelope e => rfl

/-- The first call counts where no later one registers under the path. -/
theorem latest?_cons (path : String) (c : Call) (calls : List Call) :
    latest? path (c :: calls) =
      (latest? path calls).or (c.handler?.filter fun handler => handler.path = path) := by
  cases c with
  | register handler =>
    by_cases h : handler.path = path <;>
      simp [latest?, Call.handler?, List.find?_append, Option.filter, h]
  | envelope e => simp [latest?, Call.handler?, List.filterMap_cons]

/-- Under each path the handler that was registered last is found, or the one that was there. -/
theorem handler?_afterwards (s : Service) (calls : List Call) (path : String) :
    (s.afterwards calls).handler? path = (latest? path calls).or (s.handler? path) := by
  induction calls generalizing s with
  | nil => rfl
  | cons c calls ih =>
    change ((s.call c).2.afterwards calls).handler? path = _
    rw [ih, handler?_call, latest?_cons, Option.or_assoc]

end Service

/-! ## Replies -/

/-- One more answer with some subject is counted, and no other counter of answers changes. -/
def CountsOne (before after : Counters) (subject : String) : Prop :=
  ∀ labels, after.get labels =
    if labels = [("outcome", subject)] then before.get labels + 1 else before.get labels

/-- What the reply to a request has to be, after calls. -/
structure IsReply (calls : List Call) (e reply : Envelope) : Prop where
  /-- The reply has the number of the envelope of the request. -/
  number : reply.request = e.request
  subject : reply.subject = Subject.response ∨ reply.subject = Subject.error
  /-- It is a response just if the message holds a request to whose very path the handler that was
  registered last responds. -/
  responds_iff : reply.subject = Subject.response ↔ ∃ bytes request handler response,
    e.message = Base64.encode bytes ∧ Json.read bytes = .ok request ∧
      latest? request.path calls = some handler ∧ handler.handle request = .ok response
  /-- What the handler responds arrives as it is, and its failures by their code and wording. -/
  handled : ∀ bytes request handler, e.message = Base64.encode bytes →
    Json.read bytes = .ok request → latest? request.path calls = some handler →
      (∀ response, handler.handle request = .ok response → reply.record = .ok response) ∧
      ∀ failure, handler.handle request = .error failure →
        reply.record = .ok (⟨e.request, failure.code, failure.message⟩ : ErrorReply)
  unknown : ∀ bytes (request : Request), e.message = Base64.encode bytes →
    Json.read bytes = .ok request →
    latest? request.path calls = none →
      reply.record = .ok (⟨e.request, "UNKNOWN_PATH",
        "no handler registered for path: " ++ request.path⟩ : ErrorReply)
  malformed : ∀ fault : Envelope.Fault, e.record (α := Request) = .error fault →
    reply.record = .ok (⟨e.request, "MALFORMED_ENVELOPE",
      "malformed envelope: " ++ fault.wording⟩ : ErrorReply)

/-- A response is sent on as it is, under the number of the request's envelope. -/
theorem record_replyTo_ok (number : Int64) (response : Response) :
    (replyTo number (.ok response)).record = .ok response :=
  response.record_toEnvelope

/-- A failure is told by its code and its wording. -/
theorem record_replyTo_error (number : Int64) (failure : Failure) :
    (replyTo number (.error failure)).record =
      .ok (⟨number, failure.code, failure.message⟩ : ErrorReply) :=
  (ErrorReply.ofFailure number failure).record_toEnvelope

/-- A reply is a response just if there is one. -/
theorem subject_replyTo_eq_response_iff (number : Int64) (result : Except Failure Response) :
    (replyTo number result).subject = Subject.response ↔ ∃ response, result = .ok response := by
  cases result with
  | ok response => exact iff_of_true rfl ⟨response, rfl⟩
  | error failure =>
    refine iff_of_false ?_ (by rintro ⟨_, ⟨⟩⟩)
    change ¬Subject.error = Subject.response
    decide

/-- A message that is the base64 of a request comes to what the handler that was registered last
under its path makes of it. -/
theorem outcome_of_message {dispatcher : Dispatcher} {calls : List Call} {e : Envelope}
    {bytes : Bytes} {request : Request}
    (hlatest : ∀ path, findEntry? path dispatcher.handlers = latest? path calls)
    (hmessage : e.message = Base64.encode bytes) (hbytes : Json.read bytes = .ok request) :
    dispatcher.outcome e =
      match latest? request.path calls with
      | none => .error (.unknownPath request.path)
      | some handler => handler.handle request := by
  rw [outcome, (e.record_eq_ok_iff request).2 ⟨bytes, hmessage, hbytes⟩, ← hlatest]
  rfl

/-- An envelope comes to a response just if its message is the base64 of a request to whose path the
handler that was registered last responds. -/
theorem outcome_eq_ok_iff {dispatcher : Dispatcher} {calls : List Call} {e : Envelope}
    {response : Response}
    (hlatest : ∀ path, findEntry? path dispatcher.handlers = latest? path calls) :
    dispatcher.outcome e = .ok response ↔ ∃ bytes request handler,
      e.message = Base64.encode bytes ∧ Json.read bytes = .ok request ∧
        latest? request.path calls = some handler ∧ handler.handle request = .ok response := by
  constructor
  · intro h
    cases hrecord : e.record (α := Request) with
    | error fault =>
      rw [outcome, hrecord] at h
      cases h
    | ok request =>
      obtain ⟨bytes, hmessage, hbytes⟩ := (e.record_eq_ok_iff request).1 hrecord
      rw [outcome_of_message hlatest hmessage hbytes] at h
      cases hhandler : latest? request.path calls with
      | none =>
        rw [hhandler] at h
        cases h
      | some handler =>
        rw [hhandler] at h
        exact ⟨bytes, request, handler, hmessage, hbytes, hhandler, h⟩
  · rintro ⟨bytes, request, handler, hmessage, hbytes, hhandler, hresponse⟩
    rw [outcome_of_message hlatest hmessage hbytes, hhandler]
    exact hresponse

/-- Where the handlers are those that were registered last, the outcome makes the reply. -/
theorem isReply_replyTo {dispatcher : Dispatcher} {calls : List Call}
    (hlatest : ∀ path, findEntry? path dispatcher.handlers = latest? path calls) (e : Envelope) :
    IsReply calls e (replyTo e.request (dispatcher.outcome e)) := by
  constructor
  case number => cases dispatcher.outcome e <;> rfl
  case subject =>
    cases dispatcher.outcome e with
    | ok response => exact Or.inl rfl
    | error failure => exact Or.inr rfl
  case responds_iff =>
    rw [subject_replyTo_eq_response_iff]
    simp only [outcome_eq_ok_iff hlatest]
    constructor
    · rintro ⟨response, bytes, request, handler, h⟩
      exact ⟨bytes, request, handler, response, h⟩
    · rintro ⟨bytes, request, handler, response, h⟩
      exact ⟨response, bytes, request, handler, h⟩
  case handled =>
    intro bytes request handler hmessage hbytes hhandler
    rw [outcome_of_message hlatest hmessage hbytes, hhandler]
    constructor
    · intro response hresponse
      simp only [hresponse]
      exact record_replyTo_ok e.request response
    · intro failure hfailure
      simp only [hfailure]
      exact record_replyTo_error e.request failure
  case unknown =>
    intro bytes request hmessage hbytes hnone
    rw [outcome_of_message hlatest hmessage hbytes, hnone]
    exact record_replyTo_error e.request (.unknownPath request.path)
  case malformed =>
    intro fault hfault
    rw [outcome, hfault]
    exact record_replyTo_error e.request (.malformedEnvelope fault)

/-- One more answer in a family of counters is counted under its subject alone. -/
theorem countsOne_add (answers : Counters) (subject : String) :
    CountsOne answers (answers.add [("outcome", subject)] 1) subject := by
  intro labels
  have hsame : [("outcome", subject)] = labels.canonical ↔ labels = [("outcome", subject)] := by
    rw [eq_comm, Labels.canonical_eq_singleton_iff]
  simp only [Counters.get_add, Labels.canonical_singleton, hsame]

/-- Every request gets one reply, under the number of its envelope, and nothing else gets one.

After any registrations and any envelopes, an envelope of another subject than that of requests is
not answered and changes nothing that is counted. To one of this subject there is a reply, whose
subject is counted once, and what it says is what the handler that was registered last under the path
of the request makes of it, or why no handler could. -/
theorem replies (metrics : Metrics) (calls : List Call) (e : Envelope) :
    let s := (Service.start metrics).afterwards calls
    (e.subject ≠ Subject.request → s.call (.envelope e) = (none, s)) ∧
    (e.subject = Subject.request → ∃ reply answers,
      s.call (.envelope e) =
        (some reply, { s with metrics := { s.metrics with answers := answers } }) ∧
      CountsOne s.metrics.answers answers reply.subject ∧ IsReply calls e reply) := by
  intro s
  have hlatest (path : String) : findEntry? path s.dispatcher.handlers = latest? path calls := by
    change s.handler? path = _
    rw [Service.handler?_afterwards]
    exact Option.or_none
  constructor
  · intro hsubject
    simp only [Service.call, reply?, if_neg hsubject, Metrics.countReply]
  · intro hsubject
    refine ⟨replyTo e.request (s.dispatcher.outcome e), _, ?_, countsOne_add _ _,
      isReply_replyTo hlatest e⟩
    simp only [Service.call, reply?, if_pos hsubject, Metrics.countReply, Metrics.countAnswer]

/-- A handler that fails has taken the place of one that responded: the failure is the reply, with
the number of the envelope and not with that of the request. -/
theorem replies_failing_handler :
    ∃ reply answers, ((Service.start .zero).afterwards
        [.register ⟨"/a", fun request => .ok (.ofBytes request.id 200 [])⟩,
          .register ⟨"/a", fun _ => .error (.handler "no")⟩]).call
        (.envelope ⟨"REQUEST", Base64.encode (Json.write (Request.bare 7 "GET" "/a")), 5⟩) =
        (some reply, ⟨((Service.start .zero).afterwards
          [.register ⟨"/a", fun request => .ok (.ofBytes request.id 200 [])⟩,
            .register ⟨"/a", fun _ => .error (.handler "no")⟩]).dispatcher,
          { Metrics.zero with answers := answers }⟩) ∧
      answers.get [("outcome", reply.subject)] = 1 ∧ reply.request = 5 ∧
      reply.record = .ok (⟨5, "HANDLER_ERROR", "handler failed: no"⟩ : ErrorReply) := by
  obtain ⟨-, hrequest⟩ := replies .zero
    [.register ⟨"/a", fun request => .ok (.ofBytes request.id 200 [])⟩,
      .register ⟨"/a", fun _ => .error (.handler "no")⟩]
    ⟨"REQUEST", Base64.encode (Json.write (Request.bare 7 "GET" "/a")), 5⟩
  obtain ⟨reply, answers, hcall, hcounts, hreply⟩ := hrequest rfl
  refine ⟨reply, answers, hcall, ?_, hreply.number, ?_⟩
  · rw [hcounts, if_pos rfl]
    rfl
  · exact (hreply.handled _ (Request.bare 7 "GET" "/a") ⟨"/a", fun _ => .error (.handler "no")⟩ rfl
      (Json.read_write (by decide) _) rfl).2 (.handler "no") rfl

end Dispatcher

end Courier
