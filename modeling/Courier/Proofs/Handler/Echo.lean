import Courier.Proofs.Base64.Grammar
import Courier.Proofs.Dispatcher.Replies
import Courier.Proofs.Text.Order

/-!
# The echo

The echo decodes the body of a request and writes the bytes again. Since only one text is decoded to
some bytes, the body that comes back is the one that was sent, character by character, and whoever
sent bytes gets these bytes (`echo_gives_back`). Of the headers only those that say what the body
holds matter, and among these the one with the first name.
-/

namespace Courier

/-- In ascending entries the first one that is looked for is the one with the least key. -/
theorem find?_ascending_eq_some_iff {α : Type} {entries : List (String × α)}
    (h : Ascending entries) (p : String × α → Bool) (entry : String × α) :
    entries.find? p = some entry ↔
      entry ∈ entries ∧ p entry = true ∧ ∀ e ∈ entries, p e = true → entry.1 ≤ e.1 := by
  induction entries with
  | nil => simp
  | cons first rest ih =>
    obtain ⟨hfirst, hrest⟩ := List.pairwise_cons.1 h
    by_cases hp : p first = true
    · rw [List.find?_cons_of_pos hp, Option.some.injEq]
      constructor
      · rintro rfl
        refine ⟨List.mem_cons_self, hp, ?_⟩
        intro e he _
        rcases List.mem_cons.1 he with rfl | he
        · exact String.le_refl _
        · exact Std.le_of_lt (hfirst e he)
      · rintro ⟨hmem, -, hleast⟩
        rcases List.mem_cons.1 hmem with rfl | hmem
        · rfl
        · exact absurd (hfirst entry hmem) (String.not_lt.2 (hleast first List.mem_cons_self hp))
    · rw [List.find?_cons_of_neg hp, ih hrest]
      constructor
      · rintro ⟨hmem, hentry, hleast⟩
        refine ⟨List.mem_cons_of_mem _ hmem, hentry, ?_⟩
        intro e he hpe
        rcases List.mem_cons.1 he with rfl | he
        · exact absurd hpe hp
        · exact hleast e he hpe
      · rintro ⟨hmem, hentry, hleast⟩
        refine ⟨?_, hentry, fun e he => hleast e (List.mem_cons_of_mem _ he)⟩
        rcases List.mem_cons.1 hmem with rfl | hmem
        · exact absurd hentry hp
        · exact hmem

/-! ## The content type that headers give -/

/-- Whether a header says what a body holds: it has the name for that, in letters of any case. -/
def NamesContentType (name : String) : Prop :=
  name.toList.map Char.toLower = "content-type".toList

instance : DecidablePred NamesContentType :=
  fun name => inferInstanceAs (Decidable (name.toList.map Char.toLower = "content-type".toList))

/-- What some headers say of a body: what stands under the first name for that, in the order of
bytes, and that nothing is known of it where there is no such name. -/
inductive SaysContentType (headers : TextMap) : String → Prop where
  | first {name value : String} (hmem : (name, value) ∈ headers.entries)
      (hname : NamesContentType name)
      (hleast : ∀ entry ∈ headers.entries, NamesContentType entry.1 →
        Text.Utf8.encode name ≤ Text.Utf8.encode entry.1) : SaysContentType headers value
  | unknown (hnone : ∀ entry ∈ headers.entries, ¬NamesContentType entry.1) :
      SaysContentType headers "application/octet-stream"

/-- A name is looked up without regard to the case of its letters. -/
theorem sameHeader_contentTypeHeader (name : String) :
    sameHeader name contentTypeHeader = true ↔ NamesContentType name := by
  have hlower : contentTypeHeader.toList.map Char.toLower = "content-type".toList := by decide
  rw [sameHeader, beq_iff_eq, hlower, NamesContentType]

namespace TextMap

/-- The content type that is found is the one under the first name for it. -/
theorem header?_eq_some_iff (headers : TextMap) (value : String) :
    headers.header? contentTypeHeader = some value ↔
      ∃ name, (name, value) ∈ headers.entries ∧ NamesContentType name ∧
        ∀ entry ∈ headers.entries, NamesContentType entry.1 →
          Text.Utf8.encode name ≤ Text.Utf8.encode entry.1 := by
  simp only [header?, Option.map_eq_some_iff, Prod.exists, exists_eq_right,
    find?_ascending_eq_some_iff headers.ascending,
    sameHeader_contentTypeHeader, Text.Utf8.encode_le_encode_iff]

/-- None is found where there is no name for it. -/
theorem header?_eq_none_iff (headers : TextMap) :
    headers.header? contentTypeHeader = none ↔
      ∀ entry ∈ headers.entries, ¬NamesContentType entry.1 := by
  simp only [header?, Option.map_eq_none_iff, List.find?_eq_none, sameHeader_contentTypeHeader]

/-- The content type that the echo takes is what the headers say. -/
theorem says_header? (headers : TextMap) :
    SaysContentType headers
      ((headers.header? contentTypeHeader).getD "application/octet-stream") := by
  cases hfound : headers.header? contentTypeHeader with
  | none => exact .unknown (headers.header?_eq_none_iff.1 hfound)
  | some value =>
    obtain ⟨name, hmem, hname, hleast⟩ := (headers.header?_eq_some_iff value).1 hfound
    exact .first hmem hname hleast

/-- Headers with other names do not matter for the content type. -/
theorem header?_congr {headers others : TextMap}
    (h : ∀ name value, NamesContentType name →
      ((name, value) ∈ headers.entries ↔ (name, value) ∈ others.entries)) :
    headers.header? contentTypeHeader = others.header? contentTypeHeader := by
  ext value
  rw [header?_eq_some_iff, header?_eq_some_iff]
  have hentries (entry : String × String) (hname : NamesContentType entry.1) :
      entry ∈ headers.entries ↔ entry ∈ others.entries := h entry.1 entry.2 hname
  constructor
  · rintro ⟨name, hmem, hname, hleast⟩
    exact ⟨name, (h name value hname).1 hmem, hname,
      fun entry he hentry => hleast entry ((hentries entry hentry).2 he) hentry⟩
  · rintro ⟨name, hmem, hname, hleast⟩
    exact ⟨name, (h name value hname).2 hmem, hname,
      fun entry he hentry => hleast entry ((hentries entry hentry).1 he) hentry⟩

end TextMap

/-! ## The echo of a request -/

/-- The body of a request holds some bytes just if it is their base64. -/
theorem Request.content_eq_ok_iff (r : Request) (bytes : Bytes) :
    r.content = .ok bytes ↔ r.body = Base64.encode bytes := by
  rw [content, mapError_eq_ok_iff, Base64.decode_eq_ok_iff]

namespace Handler

/-- A handler that gives back the body does so, or says why the body cannot be read. -/
theorem handle_echo (path : String) (request : Request) :
    (Handler.echo path).handle request =
      match request.content with
      | .ok body => .ok ((Response.ofBytes request.id 200 body).withHeader "Content-Type"
          ((request.header? "Content-Type").getD "application/octet-stream"))
      | .error fault => .error (.malformedEnvelope fault) := by
  change Handler.echoResponse request = _
  unfold Handler.echoResponse
  cases request.content <;> rfl

/-- What the echo of a request has to be: under its number and with its very body, and with what
its headers say of the body as the only header. -/
structure IsEcho (request : Request) (response : Response) : Prop where
  id_eq : response.id = request.id
  status_eq : response.status = 200
  body_eq : response.body = request.body
  content_eq : response.content = request.content
  headers_eq : ∃ value, response.headers.entries = [("Content-Type", value)] ∧
    SaysContentType request.headers value

/-- A response of the echo is the echo of its request. -/
theorem isEcho_of_handle {path : String} {request : Request} {response : Response}
    (h : (echo path).handle request = .ok response) : IsEcho request response := by
  rw [handle_echo] at h
  cases hcontent : request.content with
  | error fault =>
    rw [hcontent] at h
    cases h
  | ok body =>
    rw [hcontent] at h
    cases h
    have hbody : Base64.encode body = request.body :=
      ((request.content_eq_ok_iff body).1 hcontent).symm
    exact {
      id_eq := rfl
      status_eq := rfl
      body_eq := hbody
      content_eq := by
        rw [hcontent]
        exact Response.content_ofBytes request.id 200 body
      headers_eq := ⟨_, rfl, request.headers.says_header?⟩ }

/-- The echo responds just where the body can be decoded. -/
theorem exists_handle_echo_iff (path : String) (request : Request) :
    (∃ response, (echo path).handle request = .ok response) ↔
      ∃ bytes, Base64.decode request.body = .ok bytes := by
  rw [handle_echo, Request.content]
  cases Base64.decode request.body with
  | error fault => exact iff_of_false (by rintro ⟨_, ⟨⟩⟩) (by rintro ⟨_, ⟨⟩⟩)
  | ok bytes => exact iff_of_true ⟨_, rfl⟩ ⟨bytes, rfl⟩

/-- A body that cannot be decoded is what the echo fails with. -/
theorem handle_echo_of_error {path : String} {request : Request} {fault : Base64.Fault}
    (h : Base64.decode request.body = .error fault) :
    (echo path).handle request = .error (.malformedEnvelope (.body fault)) := by
  rw [handle_echo, Request.content, h]
  rfl

/-- Whoever sends bytes to the echo gets them back. -/
theorem reply_of_echo {dispatcher : Dispatcher} {e : Envelope} {path : String} {request : Request}
    {response : Response}
    (hhandler : findEntry? request.path dispatcher.handlers = some (echo path))
    (hsubject : e.subject = Subject.request) (hrecord : e.record = .ok request)
    (h : (echo path).handle request = .ok response) :
    ∃ reply, dispatcher.reply? e = some reply ∧ reply.subject = Subject.response ∧
      reply.request = e.request ∧ reply.record = .ok response := by
  have houtcome : dispatcher.outcome e = .ok response := by
    rw [Dispatcher.outcome, hrecord]
    change dispatcher.dispatch request = _
    rw [Dispatcher.dispatch, hhandler]
    exact h
  refine ⟨_, if_pos hsubject, ?_⟩
  rw [houtcome]
  exact ⟨rfl, rfl, Dispatcher.record_replyTo_ok e.request response⟩

/-- The echo gives back what it was sent, to the letter.

It responds just if the body is base64 in its one form, and then with the number of the request and
with this very body, under what stands in its headers under the first name for the content type, in
letters of any case and in the order of bytes. Any other body it refuses as malformed. Headers with
other names make no difference, whether they are there or not. So whoever puts bytes into the body
of a request that is routed to the echo can decode these bytes from the reply. -/
theorem echo_gives_back (path : String) (request : Request) :
    ((∃ response, (echo path).handle request = .ok response) ↔
      Base64.IsCanonical request.body.toList) ∧
    (∀ response, (echo path).handle request = .ok response → IsEcho request response) ∧
    (¬Base64.IsCanonical request.body.toList → ∃ fault, Base64.decode request.body = .error fault ∧
      (echo path).handle request = .error (.malformedEnvelope (.body fault))) ∧
    (∀ headers : TextMap, (∀ name value, NamesContentType name →
        ((name, value) ∈ headers.entries ↔ (name, value) ∈ request.headers.entries)) →
      (echo path).handle { request with headers } = (echo path).handle request) ∧
    ∀ (dispatcher : Dispatcher) (e : Envelope) (bytes : Bytes),
      findEntry? request.path dispatcher.handlers = some (echo path) →
      e.subject = Subject.request → e.record = .ok (request.withBody bytes) →
      ∃ reply response, dispatcher.reply? e = some reply ∧ reply.subject = Subject.response ∧
        reply.request = e.request ∧ reply.record = .ok response ∧
        IsEcho (request.withBody bytes) response ∧ response.content = .ok bytes := by
  refine ⟨?_, fun response => isEcho_of_handle, ?_, ?_, ?_⟩
  · rw [exists_handle_echo_iff, Base64.exists_decode_iff]
  · intro hbody
    cases hdecode : Base64.decode request.body with
    | ok bytes => exact absurd ((Base64.exists_decode_iff _).1 ⟨bytes, hdecode⟩) hbody
    | error fault => exact ⟨fault, rfl, handle_echo_of_error hdecode⟩
  · intro headers hsame
    have hheader : headers.header? "Content-Type" = request.headers.header? "Content-Type" :=
      TextMap.header?_congr hsame
    rw [handle_echo, handle_echo]
    simp only [Request.content, Request.header?, hheader]
  · intro dispatcher e bytes hhandler hsubject hrecord
    have hsent := request.content_withBody bytes
    obtain ⟨response, hresponse⟩ := (exists_handle_echo_iff path (request.withBody bytes)).2
      ⟨bytes, mapError_eq_ok_iff.1 hsent⟩
    have hrouted : findEntry? (request.withBody bytes).path dispatcher.handlers =
        some (echo path) := hhandler
    obtain ⟨reply, hreply, hanswer, hnumber, hholds⟩ :=
      reply_of_echo hrouted hsubject hrecord hresponse
    have hecho := isEcho_of_handle hresponse
    exact ⟨reply, response, hreply, hanswer, hnumber, hholds, hecho, hecho.content_eq.trans hsent⟩

/-- Of two names for the content type the one in capital letters is the first. A last symbol with
bits that belong to no byte is refused. -/
theorem echo_gives_back_two_names :
    ∃ request : Request, request.headers.entries =
        [("Accept", "c"), ("CONTENT-TYPE", "a"), ("content-type", "b")] ∧ request.body = "QQ==" ∧
      (∃ response, (echo "/a").handle request = .ok response ∧ IsEcho request response ∧
        response.headers.entries = [("Content-Type", "a")]) ∧
      (∃ fault, (echo "/a").handle { request with body := "QR==" } =
        .error (.malformedEnvelope (.body fault))) ∧
      (echo "/a").handle { request with
          headers := TextMap.ofList [("CONTENT-TYPE", "a"), ("content-type", "b")] } =
        (echo "/a").handle request ∧
      ∃ (reply : Envelope) (response : Response), (Dispatcher.ofHandlers [echo "/a"]).reply?
          ((request.withBody [1, 2, 3]).toEnvelope Subject.request) = some reply ∧
        reply.record = .ok response ∧ response.content = .ok [1, 2, 3] := by
  obtain ⟨request, hrequest⟩ : ∃ request : Request, request = ⟨7, "POST", "/a",
    TextMap.ofList [("content-type", "b"), ("CONTENT-TYPE", "a"), ("Accept", "c")], "QQ=="⟩ :=
    ⟨_, rfl⟩
  have hentries : request.headers.entries =
      [("Accept", "c"), ("CONTENT-TYPE", "a"), ("content-type", "b")] := by
    rw [hrequest]
    decide
  obtain ⟨-, hecho, -, hheaders, hreply⟩ := echo_gives_back "/a" request
  obtain ⟨-, -, hrefused, -, -⟩ := echo_gives_back "/a" { request with body := "QR==" }
  have hresponse : (echo "/a").handle request =
      .ok ⟨7, 200, TextMap.ofList [("Content-Type", "a")], "QQ=="⟩ := by
    have hcontent : request.content = .ok [65] :=
      (request.content_eq_ok_iff [65]).2 (by rw [hrequest]; decide)
    rw [handle_echo, hcontent, hrequest]
    exact congrArg Except.ok (by decide)
  have hbody : ¬Base64.IsCanonical "QR==".toList := by
    have hchars : "QR==".toList = ['Q', 'R', '=', '='] := by decide
    rw [hchars]
    intro h
    cases h with
    | oneByte _ _ hbits => exact absurd hbits (by decide)
    | twoBytes _ _ hc => exact absurd hc (by decide)
    | group _ _ hc => exact absurd hc (by decide)
  refine ⟨request, hentries, by rw [hrequest], ⟨_, hresponse, hecho _ hresponse, by decide⟩, ?_,
    hheaders _ ?_, ?_⟩
  · obtain ⟨fault, -, hfault⟩ := hrefused hbody
    exact ⟨fault, hfault⟩
  · intro name value hname
    have hother : ¬(name = "Accept" ∧ value = "c") := by
      rintro ⟨rfl, -⟩
      exact absurd hname (by decide)
    have hleft : (TextMap.ofList [("CONTENT-TYPE", "a"), ("content-type", "b")]).entries =
        [("CONTENT-TYPE", "a"), ("content-type", "b")] := by decide
    simp only [hentries, hleft, List.mem_cons, Prod.mk.injEq, hother, false_or]
  · obtain ⟨reply, response, hanswer, -, -, hholds, -, hcontent⟩ :=
      hreply (Dispatcher.ofHandlers [echo "/a"])
        ((request.withBody [1, 2, 3]).toEnvelope Subject.request) [1, 2, 3]
        (by rw [hrequest]; rfl) rfl (Request.record_toEnvelope _ _)
    exact ⟨reply, response, hanswer, hholds, hcontent⟩

end Handler

end Courier
