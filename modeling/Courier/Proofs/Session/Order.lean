import Courier.Proofs.Session.Registering
import Courier.Proofs.Steps

/-!
# The order of calls

A session goes through its phases in one direction, whoever calls what and when. It is in a phase
between two others only while a call waits; it connects once, registers once and starts to receive
once; and it has the paths that were registered, and none before (`calls_in_order`).
-/

namespace Courier

namespace Session

variable {s next : Session} {metrics counted : Metrics} {done made : List Action}
  {registrations : List Envelope}

/-- What belongs to no call hands no registration to the sink. -/
theorem registration?_of_onSink? {action : Action} {sends : Nat} {a : Outbound.Action}
    (haction : action.onSink? sends = some a) : s.registration? next action = none := by
  cases action <;> first | rfl | cases haction

/-- Whatever happens to a session leaves it sound, and its phase stays or the next one comes. -/
theorem Sound.step (h : Sound s made registrations) {action : Action}
    (hstep : s.step? metrics action = some (next, counted)) :
    Sound next (if action.isCall then made ++ [action] else made)
        (registrations ++ (s.registration? next action).toList) ∧
      s.phase.Follows next.phase := by
  have hquiet (ha : s.registration? next action = none) (hcall : action.isCall = false)
      (hnext : Sound next made registrations ∧ s.phase.Follows next.phase) :
      Sound next (if action.isCall then made ++ [action] else made)
          (registrations ++ (s.registration? next action).toList) ∧
        s.phase.Follows next.phase := by
    rwa [ha, hcall, if_neg Bool.false_ne_true, Option.toList_none, List.append_nil]
  have hcalled (ha : s.registration? next action = none) (hcall : action.isCall = true)
      (hnext : Sound next (made ++ [action]) registrations ∧ s.phase.Follows next.phase) :
      Sound next (if action.isCall then made ++ [action] else made)
          (registrations ++ (s.registration? next action).toList) ∧
        s.phase.Follows next.phase := by
    rwa [ha, hcall, if_pos rfl, Option.toList_none, List.append_nil]
  cases step_of_step? hstep with
  | connect host port hidle => exact hcalled rfl rfl (h.connect hidle host port)
  | register _ _ hidle hnext => exact h.registers hidle hnext
  | startReceiving hidle => exact hcalled rfl rfl (h.startReceiving hidle)
  | waitReceiver hidle => exact hcalled rfl rfl (h.waitReceiver hidle)
  | close hidle hnext => exact hcalled rfl rfl (h.close hidle hnext)
  | nextRequest hidle =>
    have hmayWait := h.mayWaitIn
    rw [hidle] at hmayWait
    have hnumbered : Account s.nextRequest.2 made registrations :=
      (h.account hidle).of_same (Nat.le_refl _) rfl rfl rfl rfl id id (h.account hidle).fresh
    exact hquiet rfl rfl ⟨sound_of_account hnumbered hidle hmayWait
      fun hphase => h.ready hphase hidle, Or.inl rfl⟩
  | goOnRegistering _ hsink => exact hquiet rfl rfl (h.outbound? (fun _ => rfl) hsink)
  | goOnShutting hcall hsink =>
    refine hquiet rfl rfl ?_
    obtain ⟨hsettled, -⟩ := h.outbound? (fun _ => rfl) hsink
    obtain ⟨o, after, -, -, rfl⟩ := exists_of_outbound? (by rw [hcall]; rfl) hsink
    obtain ⟨done, a, rfl, hwaits, haccount, hmayWait⟩ := hsettled.exists_of_call hcall
    cases hwaits
    exact haccount.settleClosing hcall (hcall ▸ hmayWait)
  | goOnWaiting hcall => exact hquiet rfl rfl (h.goOnWaiting hcall)
  | goOnClosing hcall =>
    refine hquiet rfl rfl ?_
    obtain ⟨done, a, rfl, hwaits, haccount, hmayWait⟩ := h.exists_of_call hcall
    cases hwaits
    exact haccount.goOnClosing hcall hmayWait
  | connected peer hcall => exact hquiet rfl rfl (h.connected hcall peer)
  | refused _ hcall => exact hquiet rfl rfl (h.connectFailed hcall _)
  | timedOut hcall => exact hquiet rfl rfl (h.connectFailed hcall _)
  | @inbound _ _ after _ hi => exact hquiet rfl rfl (h.withInbound hi after)
  | sink haction _ hsink =>
    refine hquiet (registration?_of_onSink? haction) (Action.isCall_of_onSink? haction) ?_
    obtain ⟨o, after, ho, hafter, rfl⟩ := outbound?_cases hsink
    rw [(sameSides_settle { s with outbound := some after }).sends, settle_sends]
    refine (h.sink ho hafter (fun n hn => ?_) (Nat.le_add_right _ _)).settle
    obtain ⟨rfl, hstarts⟩ := Action.begins_of_onSink? haction hn
    rw [hstarts]
    exact Nat.lt_succ_self _

/-- A session, the calls that were made, and the registrations that were handed to the sink. -/
structure History where
  session : Session
  metrics : Metrics
  made : List Action
  registrations : List Envelope

namespace History

/-- A session that is not connected. -/
def start (options : Options) : History := ⟨.start options, .zero, [], []⟩

/-- What an action leads to, if it can happen. -/
def step? (c : History) (action : Action) : Option History :=
  (c.session.step? c.metrics action).map fun (session, metrics) =>
    { session
      metrics
      made := if action.isCall then c.made ++ [action] else c.made
      registrations := c.registrations ++ (c.session.registration? session action).toList }

/-- The calls that have returned, and what they have returned, in order. -/
def log (c : History) : List Entry := c.made.zip c.session.returned

variable {options : Options} {actions : List Action} {c after : History} {action : Action}

/-- A step of a history is one of its session. -/
theorem session_of_step? (h : c.step? action = some after) :
    c.session.step? c.metrics action = some (after.session, after.metrics) := by
  obtain ⟨_, hsession, rfl⟩ := Option.map_eq_some_iff.1 h
  exact hsession

/-- Every step of a session keeps it sound, and its phase stays or the next one comes. -/
theorem sound_of_step? (h : c.session.Sound c.made c.registrations)
    (hstep : c.step? action = some after) :
    after.session.Sound after.made after.registrations ∧
      c.session.phase.Follows after.session.phase := by
  obtain ⟨⟨session, metrics⟩, hsession, rfl⟩ := Option.map_eq_some_iff.1 hstep
  exact h.step hsession

/-- Whatever happens to it, a session is sound. -/
theorem sound_of_after? (h : after? step? (start options) actions = some c) :
    c.session.Sound c.made c.registrations :=
  after?_induction (motive := fun _ c => c.session.Sound c.made c.registrations)
    (sound_start options) (fun _ _ _ _ _ hsound hstep => (sound_of_step? hsound hstep).1) h

end History

/-- Whatever is called, and whatever happens meanwhile, a session keeps its order.

Calls return one after the other. While none waits the session is not between two phases, and
whatever happens its phase stays, or the next one comes, and none comes after the end. A call at the
wrong time returns its failure and changes nothing. At most one connection is made, receiving is
started at most once, and at most one registration is handed to the sink and at most one done; the
paths are those that were registered, and none before. A registration that is made in time takes one
number and is handed to the sink; then it waits, undisturbed by all others, until the session
streams, or has failed. -/
theorem calls_in_order {options : Options} {actions : List Action} {c : History}
    (h : after? History.step? (.start options) actions = some c) :
    c.made.length = c.session.returned.length + c.session.call.isSome.toNat ∧
    (c.session.call = none → c.session.phase ≠ .connecting ∧ c.session.phase ≠ .registering) ∧
    (∀ action next, c.step? action = some next →
      next.session.phase = c.session.phase ∨ c.session.phase.Next next.session.phase) ∧
    (∀ action failure, c.session.call = none → c.session.refusal? action = some failure →
      c.session.step? c.metrics action = some ({ c.session with
        returned := c.session.returned ++ [.failed failure] }, c.metrics)) ∧
    c.log.countP isConnection ≤ 1 ∧ c.log.countP isStart ≤ 1 ∧ c.registrations.length ≤ 1 ∧
    c.log.countP (fun e => (announced? e).isSome) ≤ 1 ∧
    c.session.paths = (c.log.findSome? announced?).getD [] ∧
    (∀ clientId paths, c.session.call = none → c.session.phase = .connected →
      ∃ o after next, c.session.outbound = some o ∧
        o.step? c.metrics (.send c.session.sends
          (Registration.toEnvelope ⟨clientId, paths⟩ c.session.nextRequest.1)) =
            some (after, c.metrics) ∧
        c.step? (.register clientId paths) = some next ∧ next.session.outbound = some after ∧
        next.session.numbers = c.session.numbers.take.2 ∧
        (next.session.phase = .registering ∧
            next.session.call =
              some (.register c.session.nextRequest.1 paths c.session.sends) ∨
          next.session.phase = .failed ∧ next.session.call = none)) ∧
    (∀ request paths send, c.session.call = some (.register request paths send) →
      ∀ action next, c.step? action = some next →
        Registers c.session next.session request paths) := by
  have hsound := History.sound_of_after? h
  obtain ⟨done, waiting, hmade, hwaits, haccount⟩ := hsound.calls
  have hlog : c.log = done.zip c.session.returned := by
    have hzip : (done ++ waiting).zip (c.session.returned ++ []) =
        done.zip c.session.returned ++ waiting.zip [] := List.zip_append haccount.length_eq
    rwa [List.append_nil, List.zip_nil_right, List.append_nil, ← hmade] at hzip
  refine ⟨?_, ?_, ?_, ?_, ?_, ?_, haccount.once, hlog ▸ haccount.announced,
    hlog ▸ haccount.paths_eq, ?_, ?_⟩
  · rw [hmade, List.length_append, haccount.length_eq]
    generalize c.session.call = call at hwaits
    cases hwaits <;> rfl
  · intro hcall
    have hmayWait := hsound.mayWaitIn
    rwa [hcall] at hmayWait
  · exact fun action next hstep => (History.sound_of_step? hsound hstep).2
  · exact fun action failure hcall hrefusal => step?_of_refusal? hcall hrefusal
  · rw [hlog, haccount.connections]
    exact Bool.toNat_le _
  · rw [hlog, haccount.starts]
    exact Bool.toNat_le _
  · intro clientId paths hcall hphase
    obtain ⟨o, after, ho, hsend, hafter⟩ :=
      hsound.register hcall hphase c.metrics clientId paths
    have hmade : c.session.step? c.metrics (.register clientId paths) =
        some (c.session.register c.metrics clientId paths) :=
      call?_eq_some_iff.2 ⟨hcall, rfl⟩
    rcases hafter with hwaiting | ⟨failure, hfailed⟩
    · rw [hwaiting] at hmade
      exact ⟨o, after, _, ho, hsend, Option.map_eq_some_iff.2 ⟨_, hmade, rfl⟩, rfl, rfl,
        Or.inl ⟨rfl, rfl⟩⟩
    · rw [hfailed] at hmade
      exact ⟨o, after, _, ho, hsend, Option.map_eq_some_iff.2 ⟨_, hmade, rfl⟩, rfl, rfl,
        Or.inr ⟨rfl, hcall⟩⟩
  · intro request paths send hcall action next hstep
    obtain ⟨⟨session, metrics⟩, hsession, rfl⟩ := Option.map_eq_some_iff.1 hstep
    exact hsound.registering hcall hsession

/-- A session that was closed before it registered has no paths, and stays closed. -/
theorem calls_in_order_closed :
    ∃ c, after? History.step? (.start .standard)
        [.connect "localhost" 1, .connected none, .connect "localhost" 1, .close] = some c ∧
      c.session.returned.length = 3 ∧ c.session.phase = .closed ∧
      c.session.paths = (c.log.findSome? announced?).getD [] ∧
      ∀ action next, c.step? action = some next → next.session.phase = .closed := by
  obtain ⟨c, hc⟩ : ∃ c, after? History.step? (.start .standard)
      [.connect "localhost" 1, .connected none, .connect "localhost" 1, .close] = some c :=
    Option.isSome_iff_exists.1 (by decide +kernel)
  have hclosed : (after? History.step? (.start .standard)
      [.connect "localhost" 1, .connected none, .connect "localhost" 1, .close]).any (fun c =>
        c.session.returned.length = 3 ∧ c.session.phase = .closed) = true := by decide +kernel
  rw [hc] at hclosed
  obtain ⟨hreturned, hphase⟩ := of_decide_eq_true hclosed
  obtain ⟨-, -, hnext, -, -, -, -, -, hpaths, -, -⟩ := calls_in_order hc
  refine ⟨c, hc, hreturned, hphase, hpaths, ?_⟩
  intro action next hstep
  rcases hnext action next hstep with hsame | hmoved
  · exact hsame.trans hphase
  · rw [hphase] at hmoved
    generalize next.session.phase = p at hmoved
    cases hmoved with
    | closed hopen => cases hopen
    | failed hopen => cases hopen

end Session

end Courier
