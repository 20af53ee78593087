import Courier.Client.Run
import Courier.Proofs.Inbound.Delivery

/-!
# What a client has to send

A client announces itself and then answers what it receives, in order. What it has to send is thus
told by the bytes that it receives alone (`Client.wire`): more bytes only add to it, and nothing
follows an answer that no frame can hold.
-/

namespace Courier

open Courier.Frame

/-- The frames of envelopes, up to the first envelope that cannot be framed. -/
def frames : List Envelope → List Bytes
  | [] => []
  | e :: rest =>
    match e.toFrame with
    | .ok frame => frame :: frames rest
    | .error _ => []

/-- Whether envelopes can be framed, one by one. -/
def Framed (envelopes : List Envelope) (written : List Bytes) : Prop :=
  envelopes.map Envelope.toFrame = written.map Except.ok

/-- Envelopes that can be framed come first. -/
theorem Framed.frames_append {envelopes : List Envelope} {written : List Bytes}
    (h : Framed envelopes written) (more : List Envelope) :
    frames (envelopes ++ more) = written ++ frames more := by
  induction envelopes generalizing written with
  | nil =>
    obtain rfl : written = [] := List.map_eq_nil_iff.1 h.symm
    rfl
  | cons e rest ih =>
    cases written with
    | nil => cases h
    | cons frame later =>
      obtain ⟨hframe, hrest⟩ := List.cons.inj h
      rw [List.cons_append, frames, hframe]
      exact congrArg (frame :: ·) (ih hrest)

/-- One more envelope that can be framed. -/
theorem Framed.snoc {envelopes : List Envelope} {written : List Bytes}
    (h : Framed envelopes written)
    {e : Envelope} {frame : Bytes} (hframe : e.toFrame = .ok frame) :
    Framed (envelopes ++ [e]) (written ++ [frame]) := by
  rw [Framed, List.map_append, List.map_append, h, List.map_singleton, List.map_singleton, hframe]

/-- The last of some frames is that of the last envelope. -/
theorem Framed.exists_snoc {envelopes : List Envelope} {written : List Bytes} {frame : Bytes}
    (h : Framed envelopes (written ++ [frame])) :
    ∃ earlier e, envelopes = earlier ++ [e] ∧ Framed earlier written ∧ e.toFrame = .ok frame := by
  rw [Framed, List.map_append, List.map_singleton] at h
  obtain ⟨earlier, last, rfl, hearlier, hlast⟩ := List.map_eq_append_iff.1 h
  obtain ⟨e, rfl, hframe⟩ := List.map_eq_singleton_iff.1 hlast
  exact ⟨earlier, e, rfl, hearlier, hframe⟩

/-- There are as many frames as envelopes. -/
theorem Framed.length_eq {envelopes : List Envelope} {written : List Bytes}
    (h : Framed envelopes written) : envelopes.length = written.length := by
  simpa using congrArg List.length h

/-- Nothing follows an envelope that cannot be framed. -/
theorem frames_cons_of_error {e : Envelope} {fault : Frame.Fault} (h : e.toFrame = .error fault)
    (more : List Envelope) : frames (e :: more) = [] := by
  rw [frames, h]

/-- More envelopes only add frames. -/
theorem frames_prefix_append (envelopes more : List Envelope) :
    frames envelopes <+: frames (envelopes ++ more) := by
  induction envelopes with
  | nil => exact List.nil_prefix
  | cons e rest ih =>
    rw [List.cons_append, frames, frames]
    split
    · exact List.cons_prefix_cons.2 ⟨rfl, ih⟩
    · exact List.nil_prefix

namespace Client

/-- The client that echoes the requests for some paths, with standard settings. -/
def echoing (id : String) (paths : List String) : Client :=
  ofConfig ⟨1, .standard, ⟨id, paths, .empty⟩, .standard⟩

/-- The envelope that announces a client. -/
def registration (client : Client) : Envelope :=
  Registration.toEnvelope ⟨client.config.client.id, client.config.client.paths⟩
    RequestNumbers.fresh.next

/-- The answer to what was received for one frame, if it gets one. -/
def reply? (client : Client) : Inbound.Item → Option Envelope
  | .ok e => client.dispatcher.reply? e
  | .error _ => none

/-- The items in what was received. -/
def items (client : Client) (bytes : Bytes) : List Inbound.Item :=
  Inbound.items client.config.session.frameLimit bytes

/-- The envelopes that a client sends when it has seen some items. -/
def script (client : Client) (items : List Inbound.Item) : List Envelope :=
  client.registration :: items.filterMap client.reply?

/-- The bytes that a client has to write when it has received some bytes. -/
def wire (client : Client) (bytes : Bytes) : Bytes :=
  (frames (client.script (client.items bytes))).flatten

/-- More items only add envelopes. -/
theorem script_append (client : Client) (items more : List Inbound.Item) :
    client.script (items ++ more) = client.script items ++ more.filterMap client.reply? := by
  rw [script, script, List.filterMap_append, List.cons_append]

/-- An item without an answer adds no envelope. -/
theorem script_snoc_of_none {client : Client} {item : Inbound.Item} (h : client.reply? item = none)
    (items : List Inbound.Item) : client.script (items ++ [item]) = client.script items := by
  rw [script_append, List.filterMap_cons_none h, List.filterMap_nil, List.append_nil]

/-- The answer to an item comes last. -/
theorem script_snoc_of_some {client : Client} {item : Inbound.Item} {reply : Envelope}
    (h : client.reply? item = some reply) (items : List Inbound.Item) :
    client.script (items ++ [item]) = client.script items ++ [reply] := by
  rw [script_append, List.filterMap_cons_some h, List.filterMap_nil]

/-- There are no items in nothing. -/
theorem items_nil (client : Client) : client.items [] = [] := by
  rw [items, Inbound.items, parse_of_isStuck (isStuck_nil _), List.map_nil]

/-- More bytes only add items. -/
theorem items_prefix (client : Client) (bytes more : Bytes) :
    client.items bytes <+: client.items (bytes ++ more) :=
  (payloads_parse_append _ bytes more).map Envelope.decode

/-- More bytes only add to what is to be written. -/
theorem wire_prefix (client : Client) (bytes more : Bytes) :
    client.wire bytes <+: client.wire (bytes ++ more) := by
  obtain ⟨later, hitems⟩ := client.items_prefix bytes more
  rw [wire, wire, ← hitems, script_append]
  obtain ⟨added, hframes⟩ := frames_prefix_append (client.script (client.items bytes))
    (later.filterMap client.reply?)
  rw [← hframes, List.flatten_append]
  exact List.prefix_append _ _

/-- What was sent for the first items is what is to be written first. -/
theorem wire_of_prefix {client : Client} {taken : List Inbound.Item} {written : List Bytes}
    {bytes : Bytes} (hframed : Framed (client.script taken) written)
    (htaken : taken <+: client.items bytes) :
    written.flatten <+: client.wire bytes := by
  obtain ⟨later, hitems⟩ := htaken
  rw [wire, ← hitems, script_append, hframed.frames_append, List.flatten_append]
  exact List.prefix_append _ _

/-- What was sent for all items is all that is to be written. -/
theorem wire_of_framed {client : Client} {written : List Bytes} {bytes : Bytes}
    (hframed : Framed (client.script (client.items bytes)) written) :
    client.wire bytes = written.flatten := by
  have hframes := hframed.frames_append []
  rw [List.append_nil, frames, List.append_nil] at hframes
  rw [wire, hframes]

/-- Nothing is to be written after what was sent before an answer that cannot be framed. -/
theorem wire_of_unframed {client : Client} {taken : List Inbound.Item} {item : Inbound.Item}
    {reply : Envelope} {fault : Frame.Fault} {written : List Bytes} {bytes : Bytes}
    (hframed : Framed (client.script taken) written) (hreply : client.reply? item = some reply)
    (hfault : reply.toFrame = .error fault) (htaken : taken ++ [item] <+: client.items bytes) :
    client.wire bytes = written.flatten := by
  obtain ⟨later, hitems⟩ := htaken
  rw [wire, ← hitems, script_append, script_snoc_of_some hreply, List.append_assoc,
    hframed.frames_append, List.singleton_append, frames_cons_of_error hfault, List.append_nil]

/-- A length that is refused is the end of what is to be answered. -/
theorem wire_of_refused? {client : Client} {bytes : Bytes} {length : Nat}
    (h : refused? client.config.session.frameLimit
      (parse client.config.session.frameLimit bytes).rest = some length) (more : Bytes) :
    client.wire (bytes ++ more) = client.wire bytes := by
  rw [wire, wire, items, items, Inbound.items, Inbound.items, parse_append_of_refused? h]

/-- Where all answers could be framed, every request has its answer among them, a response or an
error reply under its number. -/
theorem exists_frame_of_request {client : Client} {items : List Inbound.Item} {written : List Bytes}
    (h : Framed (client.script items) written) {e : Envelope} (he : .ok e ∈ items)
    (hrequest : e.subject = Subject.request) :
    ∃ reply frame, client.dispatcher.reply? e = some reply ∧
      (reply.subject = Subject.response ∨ reply.subject = Subject.error) ∧
      reply.request = e.request ∧ reply.toFrame = .ok frame ∧ frame ∈ written := by
  obtain ⟨reply, hreply, hanswer⟩ : ∃ reply, client.dispatcher.reply? e = some reply ∧
      (reply.subject = Subject.response ∨ reply.subject = Subject.error) ∧
      reply.request = e.request := by
    refine ⟨_, if_pos hrequest, ?_⟩
    cases client.dispatcher.outcome e with
    | ok response => exact ⟨Or.inl rfl, rfl⟩
    | error failure => exact ⟨Or.inr rfl, rfl⟩
  have hscript : reply ∈ client.script items :=
    List.mem_cons_of_mem _ (List.mem_filterMap.2 ⟨.ok e, he, hreply⟩)
  have hframe : reply.toFrame ∈ written.map Except.ok := h ▸ List.mem_map_of_mem hscript
  obtain ⟨frame, hmem, hok⟩ := List.mem_map.1 hframe
  exact ⟨reply, frame, hreply, hanswer.1, hanswer.2, hok.symm, hmem⟩

end Client

end Courier
