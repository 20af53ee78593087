import Courier.Envelope.Request
import Courier.Failure
import Courier.Proofs.Envelope.RoundTrip
import Courier.Proofs.Json.Fields

/-!
# What is an envelope

A JSON text is an envelope just if it is an object with a subject, a message and a number under
their keys, each once, or a list of these three. How the text is spelled does not matter, nor what
else there is in the object. The same holds of the request that an envelope carries, in which
headers and body may be left out (`envelope_format`).
-/

namespace Courier

namespace Json

/-- A text is read as a record just if its value has the values of this record. -/
theorem read_bytes_eq_ok_iff {α : Type} [Record α]
    (hvalues : ∀ vs : Values (Record.layout α).fields, Record.values (Record.ofValues vs : α) = vs)
    (s : Source) (before after : Blank) (a : α) :
    read (before.bytes ++ (s.bytes ++ after.bytes)) = .ok a ↔
      (Record.layout α).ofSource? s = some (Record.values a) := by
  rw [← (Record.layout α).readWhole_bytes s before after, read]
  cases readWhole (Record.layout α).readValues (before.bytes ++ (s.bytes ++ after.bytes)) with
  | error fault => exact iff_of_false (by rintro ⟨⟩) (by rintro ⟨⟩)
  | ok vs =>
    change Except.ok (Record.ofValues vs) = _ ↔ some vs = _
    rw [Except.ok.injEq, Option.some.injEq]
    constructor
    · rintro rfl
      exact (hvalues vs).symm
    · rintro rfl
      exact Record.ofValues_values a

/-! ## Envelopes -/

/-- A value that is some envelope. -/
inductive Source.IsEnvelope (e : Envelope) : Source → Prop
  | object {blank : Blank} {entries : List (Entry Source)} {subject message request : Source}
    (hsubject : valuesUnder "sub" entries = [subject])
    (hmessage : valuesUnder "msg" entries = [message])
    (hrequest : valuesUnder "request" entries = [request])
    (htext : subject.IsText e.subject) (hbase64 : message.IsText e.message)
    (hnumber : request.IsInteger e.request.toInt) : IsEnvelope e (.object blank entries)
  | list {blank : Blank} {items : List (Item Source)} {subject message request : Source}
    (hitems : items.map Item.value = [subject, message, request])
    (htext : subject.IsText e.subject) (hbase64 : message.IsText e.message)
    (hnumber : request.IsInteger e.request.toInt) : IsEnvelope e (.list blank items)

/-- The fields of an envelope are read of just the values that are this envelope. -/
theorem ofSource?_eq_some_iff_isEnvelope (s : Source) (e : Envelope) :
    (Record.layout Envelope).ofSource? s = some (Record.values e) ↔ s.IsEnvelope e := by
  cases s with
  | object blank entries =>
    refine (ofEntries?_eq_some_iff (by decide)).trans ?_
    constructor
    · rintro ⟨hsubject, hmessage, hrequest, -⟩
      obtain ⟨_, hsubject, htext⟩ := Field.givenAs_required.1 hsubject
      obtain ⟨_, hmessage, hbase64⟩ := Field.givenAs_required.1 hmessage
      obtain ⟨_, hrequest, hnumber⟩ := Field.givenAs_required.1 hrequest
      exact .object hsubject hmessage hrequest htext hbase64 hnumber
    · intro h
      cases h with
      | object hsubject hmessage hrequest htext hbase64 hnumber =>
        exact ⟨Field.givenAs_required.2 ⟨_, hsubject, htext⟩,
          Field.givenAs_required.2 ⟨_, hmessage, hbase64⟩,
          Field.givenAs_required.2 ⟨_, hrequest, hnumber⟩, trivial⟩
  | list blank items =>
    constructor
    · intro h
      obtain ⟨_, _, hitems, htext, h⟩ := ofItems?_required.1 h
      obtain ⟨_, _, rfl, hbase64, h⟩ := ofItems?_required.1 h
      obtain ⟨_, _, rfl, hnumber, h⟩ := ofItems?_required.1 h
      obtain rfl := ofItems?_nil.1 h
      exact .list hitems htext hbase64 hnumber
    · intro h
      cases h with
      | list hitems htext hbase64 hnumber =>
        refine ofItems?_required.2 ⟨_, _, hitems, htext, ?_⟩
        refine ofItems?_required.2 ⟨_, _, rfl, hbase64, ?_⟩
        exact ofItems?_required.2 ⟨_, _, rfl, hnumber, ofItems?_nil.2 rfl⟩
  | _ => exact iff_of_false (by rintro ⟨⟩) (by rintro ⟨⟩)

/-! ## Requests -/

/-- A value that is some request. -/
inductive Source.IsRequest (r : Request) : Source → Prop
  | object {blank : Blank} {entries : List (Entry Source)} {id method path : Source}
    (hid : valuesUnder "request_id" entries = [id])
    (hmethod : valuesUnder "method" entries = [method])
    (hpath : valuesUnder "path" entries = [path])
    (hnumber : id.IsInteger r.id.toInt) (hverb : method.IsText r.method)
    (htext : path.IsText r.path)
    (hheaders : OneOrNone (fun s => s.IsTextMap r.headers) (r.headers = OrderedMap.empty)
      (valuesUnder "headers" entries))
    (hbody : OneOrNone (fun s => s.IsText r.body) (r.body = "") (valuesUnder "body" entries)) :
    IsRequest r (.object blank entries)
  | list {blank : Blank} {items : List (Item Source)} {id method path : Source}
    (headers body : List Source)
    (hitems : items.map Item.value = id :: method :: path :: (headers ++ body))
    (hend : headers = [] → body = [])
    (hnumber : id.IsInteger r.id.toInt) (hverb : method.IsText r.method)
    (htext : path.IsText r.path)
    (hheaders : OneOrNone (fun s => s.IsTextMap r.headers) (r.headers = OrderedMap.empty) headers)
    (hbody : OneOrNone (fun s => s.IsText r.body) (r.body = "") body) :
    IsRequest r (.list blank items)

/-- The fields of a request are read of just the values that are this request. -/
theorem ofSource?_eq_some_iff_isRequest (s : Source) (r : Request) :
    (Record.layout Request).ofSource? s = some (Record.values r) ↔ s.IsRequest r := by
  cases s with
  | object blank entries =>
    refine (ofEntries?_eq_some_iff (by decide)).trans ?_
    constructor
    · rintro ⟨hid, hmethod, hpath, hheaders, hbody, -⟩
      obtain ⟨_, hid, hnumber⟩ := Field.givenAs_required.1 hid
      obtain ⟨_, hmethod, hverb⟩ := Field.givenAs_required.1 hmethod
      obtain ⟨_, hpath, htext⟩ := Field.givenAs_required.1 hpath
      exact .object hid hmethod hpath hnumber hverb htext
        (Field.givenAs_withFallback.1 hheaders) (Field.givenAs_withFallback.1 hbody)
    · intro h
      cases h with
      | object hid hmethod hpath hnumber hverb htext hheaders hbody =>
        exact ⟨Field.givenAs_required.2 ⟨_, hid, hnumber⟩,
          Field.givenAs_required.2 ⟨_, hmethod, hverb⟩, Field.givenAs_required.2 ⟨_, hpath, htext⟩,
          Field.givenAs_withFallback.2 hheaders, Field.givenAs_withFallback.2 hbody, trivial⟩
  | list blank items =>
    constructor
    · intro h
      obtain ⟨_, _, hitems, hnumber, h⟩ := ofItems?_required.1 h
      obtain ⟨_, _, rfl, hverb, h⟩ := ofItems?_required.1 h
      obtain ⟨_, _, rfl, htext, h⟩ := ofItems?_required.1 h
      rcases ofItems?_withFallback.1 h with ⟨headers, _, rfl, hheaders, h⟩ | ⟨rfl, hheaders, h⟩
      · rcases ofItems?_withFallback.1 h with ⟨body, _, rfl, hbody, h⟩ | ⟨rfl, hbody, -⟩
        · obtain rfl := ofItems?_nil.1 h
          exact .list [headers] [body] hitems (by rintro ⟨⟩) hnumber hverb
            htext (.inl ⟨_, rfl, hheaders⟩) (.inl ⟨_, rfl, hbody⟩)
        · exact .list [headers] [] hitems (fun _ => rfl) hnumber hverb htext
            (.inl ⟨_, rfl, hheaders⟩) (.inr ⟨rfl, hbody⟩)
      · rcases ofItems?_withFallback.1 h with ⟨_, _, ⟨⟩, _⟩ | ⟨-, hbody, -⟩
        exact .list [] [] hitems (fun _ => rfl) hnumber hverb htext
          (.inr ⟨rfl, hheaders⟩) (.inr ⟨rfl, hbody⟩)
    · intro h
      cases h with
      | list _ _ hitems hend hnumber hverb htext hheaders hbody =>
        refine ofItems?_required.2 ⟨_, _, hitems, hnumber, ?_⟩
        refine ofItems?_required.2 ⟨_, _, rfl, hverb, ?_⟩
        refine ofItems?_required.2 ⟨_, _, rfl, htext, ofItems?_withFallback.2 ?_⟩
        rcases hheaders with ⟨_, rfl, hheaders⟩ | ⟨rfl, hheaders⟩
        · refine .inl ⟨_, _, rfl, hheaders, ofItems?_withFallback.2 ?_⟩
          rcases hbody with ⟨_, rfl, hbody⟩ | ⟨rfl, hbody⟩
          · exact .inl ⟨_, _, rfl, hbody, ofItems?_nil.2 rfl⟩
          · exact .inr ⟨rfl, hbody, ofItems?_nil.2 rfl⟩
        · rcases hbody with ⟨_, rfl, -⟩ | ⟨rfl, hbody⟩
          · exact absurd (hend rfl) (List.cons_ne_nil _ _)
          · exact .inr ⟨rfl, hheaders, ofItems?_withFallback.2 (.inr ⟨rfl, hbody, rfl⟩)⟩
  | _ => exact iff_of_false (by rintro ⟨⟩) (by rintro ⟨⟩)

end Json

namespace Envelope

open Json (Blank Source)

/-- A payload that holds a value is an envelope just if the value is one, with any blanks around it.

What a payload holds that is no envelope is a malformed one, which does not end the session. So is
an envelope whose message holds no request, and a message that holds a value is a request just if
the value is one. -/
theorem envelope_format :
    (∀ (s : Source) (before after : Blank) (e : Envelope),
      decode (before.bytes ++ (s.bytes ++ after.bytes)) = .ok e ↔ s.IsEnvelope e) ∧
    (∀ (payload : Bytes) (failure : Failure),
      (decode payload).mapError .malformedEnvelope = .error failure →
        (∃ json, failure = .malformedEnvelope (.notEnvelope json)) ∧
          failure.code = "MALFORMED_ENVELOPE" ∧ failure.isFatal = false) ∧
    (∀ (e : Envelope) (s : Source) (before after : Blank) (r : Request),
      e.content = .ok (before.bytes ++ (s.bytes ++ after.bytes)) →
        (e.record = .ok r ↔ s.IsRequest r)) ∧
    ∀ (e : Envelope) (failure : Failure),
      (e.record (α := Request)).mapError .malformedEnvelope = .error failure →
        ((∃ base64, failure = .malformedEnvelope (.message base64)) ∨
          ∃ json, failure = .malformedEnvelope (.content e.subject json)) ∧
          failure.code = "MALFORMED_ENVELOPE" ∧ failure.isFatal = false := by
  refine ⟨?_, ?_, ?_, ?_⟩
  · intro s before after e
    have hread := Json.read_bytes_eq_ok_iff (α := Envelope) (fun _ => rfl) s before after e
    exact mapError_eq_ok_iff.trans (hread.trans (Json.ofSource?_eq_some_iff_isEnvelope s e))
  · intro payload failure h
    obtain ⟨fault, hdecode, rfl⟩ := exists_of_mapError_eq_error h
    obtain ⟨json, -, rfl⟩ := exists_of_mapError_eq_error hdecode
    exact ⟨⟨json, rfl⟩, rfl, rfl⟩
  · intro e s before after r hcontent
    have hread := Json.read_bytes_eq_ok_iff (α := Request) (fun _ => rfl) s before after r
    rw [record, contentBy, hcontent]
    exact mapError_eq_ok_iff.trans (hread.trans (Json.ofSource?_eq_some_iff_isRequest s r))
  · intro e failure h
    obtain ⟨fault, hrecord, rfl⟩ := exists_of_mapError_eq_error h
    rw [record, contentBy] at hrecord
    cases hcontent : e.content with
    | error cause =>
      rw [hcontent] at hrecord
      cases hrecord
      obtain ⟨base64, -, rfl⟩ := exists_of_mapError_eq_error hcontent
      exact ⟨.inl ⟨base64, rfl⟩, rfl, rfl⟩
    | ok bytes =>
      rw [hcontent] at hrecord
      obtain ⟨json, -, rfl⟩ := exists_of_mapError_eq_error hrecord
      exact ⟨.inr ⟨json, rfl⟩, rfl, rfl⟩

/-- An object with an escape in a key, another member and a blank in front of it is an envelope, and
a list of three values is a request without headers and body. No bytes at all are no envelope, and a
message that is no base64 is no request. -/
theorem envelope_format_respelled :
    decode (Text.Utf8.encode
        " \x7b\"x\":[null],\"\\u0073ub\":\"T\",\"request\":-5,\"msg\":\"?\"\x7d") =
      .ok ⟨"T", "?", -5⟩ ∧
    (∃ failure : Failure, (decode []).mapError .malformedEnvelope = .error failure ∧
      failure.isFatal = false) ∧
    (ofBytes Subject.request (Text.Utf8.encode "[7,\"G\",\"/\"]") 7).record =
      .ok (Request.bare 7 "G" "/") ∧
    ∃ failure : Failure, ((⟨"T", "?", -5⟩ : Envelope).record (α := Request)).mapError
      .malformedEnvelope = .error failure ∧ failure.isFatal = false := by
  obtain ⟨hdecode, hmalformed, hrecord, hrefused⟩ := envelope_format
  let plain (c : Char) (h : c ≠ '"' ∧ c ≠ '\\' ∧ 32 ≤ c.toNat := by decide) : Json.Spelling :=
    .plain c h.1 h.2.1 h.2.2
  let digit (negative : Bool) (c : Char) (h : c.isDigit = true ∧ some c ≠ some '0') : Source :=
    .number ⟨negative, ⟨[c], List.cons_ne_nil _ _, by simpa using h.1⟩, .inr h.2, none, none⟩
  let item (value : Source) : Json.Item Source := ⟨.empty, value, .empty⟩
  let member (key : Json.Spelled) (value : Source) : Json.Entry Source :=
    ⟨.empty, key, .empty, item value⟩
  let escaped : Json.Spelling := .unit ⟨⟨0, false⟩, ⟨0, false⟩, ⟨7, false⟩, ⟨3, false⟩⟩ (by decide)
  refine ⟨?_, ⟨_, rfl, (hmalformed [] _ rfl).2.2⟩, ?_, ?_⟩
  · have henvelope := (hdecode (.object .empty
      [member ⟨[plain 'x']⟩ (.list .empty [item .null]),
        member ⟨[escaped, plain 'u', plain 'b']⟩ (.text ⟨[plain 'T']⟩),
        member ⟨[plain 'r', plain 'e', plain 'q', plain 'u', plain 'e', plain 's', plain 't']⟩
          (digit true '5' (by decide)),
        member ⟨[plain 'm', plain 's', plain 'g']⟩ (.text ⟨[plain '?']⟩)])
      ⟨[32], List.forall_mem_singleton.2 rfl⟩ .empty ⟨"T", "?", -5⟩).2
      (.object rfl rfl rfl ⟨_, rfl, rfl⟩ ⟨_, rfl, rfl⟩ ⟨_, rfl, rfl, rfl, by decide, rfl⟩)
    exact (congrArg decode (by decide +kernel)).trans henvelope
  · have hrequest := (hrecord (ofBytes Subject.request (Text.Utf8.encode "[7,\"G\",\"/\"]") 7)
      (.list .empty [item (digit false '7' (by decide)), item (.text ⟨[plain 'G']⟩),
        item (.text ⟨[plain '/']⟩)]) .empty .empty (Request.bare 7 "G" "/")
      ((content_eq_ok_iff _ _).2 (congrArg Base64.encode (by decide +kernel)))).2
    exact hrequest (.list [] [] rfl (fun _ => rfl) ⟨_, rfl, rfl, rfl, by decide, rfl⟩
      ⟨_, rfl, rfl⟩ ⟨_, rfl, rfl⟩ (.inr ⟨rfl, rfl⟩) (.inr ⟨rfl, rfl⟩))
  · exact ⟨_, rfl, (hrefused ⟨"T", "?", -5⟩ _ rfl).2.2⟩

end Envelope

end Courier
