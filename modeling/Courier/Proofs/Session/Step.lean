import Courier.Proofs.Inbound.Delivery
import Courier.Proofs.Outbound.Single
import Courier.Session

/-!
# What the steps of a session come to

A session comes from phase to phase in one order only (`Phase.Next`). All that can happen to it is
said once here, in `Step`, and the parts of its steps are said one by one: what looking again comes
to for each call that waits, and what each call begins (`register_cases`, `startReceiving_cases`,
`close_cases`). A call at the wrong time comes to nothing but its failure (`step?_of_refusal?`).
-/

namespace Courier

namespace Phase

/-- How far a phase is on the way. -/
def rank : Phase → Nat
  | .disconnected => 0
  | .connecting => 1
  | .connected => 2
  | .registering => 3
  | .streaming => 4
  | .closed | .failed => 5

/-- What phase comes after another. -/
inductive Next : Phase → Phase → Prop where
  | connecting : Next .disconnected .connecting
  | connected : Next .connecting .connected
  | registering : Next .connected .registering
  | streaming : Next .registering .streaming
  | closed {p : Phase} (hopen : p.isTerminal = false) : Next p .closed
  | failed {p : Phase} (hopen : p.isTerminal = false) : Next p .failed

variable {p q : Phase}

/-- Every phase is further on the way than the ones before it. -/
theorem Next.rank_lt (h : Next p q) : p.rank < q.rank := by
  cases h with
  | closed hopen => cases p <;> first | decide | cases hopen
  | failed hopen => cases p <;> first | decide | cases hopen
  | _ => decide

/-- A session may come to its end from anywhere, and stays there. -/
theorem advance_end (hq : q = .closed ∨ q = .failed) : p.advance q = p ∨ p.Next (p.advance q) := by
  cases hopen : p.isTerminal with
  | true => exact Or.inl (advance_of_isTerminal hopen)
  | false =>
    rw [advance_of_open hopen]
    rcases hq with rfl | rfl
    · exact Or.inr (.closed hopen)
    · exact Or.inr (.failed hopen)

/-- The end is behind all other phases. -/
theorem rank_advance_end (hq : q = .closed ∨ q = .failed) : (p.advance q).rank = 5 := by
  rcases hq with rfl | rfl <;> cases p <;> rfl

/-- Phases of different ranks are different. -/
theorem ne_of_rank_lt (h : p.rank < q.rank) : q ≠ p := by
  rintro rfl
  exact absurd h (Nat.lt_irrefl _)

end Phase

namespace Session

variable {s next : Session} {metrics counted : Metrics}

/-- Whether an action is a call. -/
def Action.isCall : Action → Bool
  | .connect _ _ | .register _ _ | .startReceiving | .waitReceiver | .close => true
  | _ => false

/-! ## Calls at the wrong time -/

/-- The failure of a call that is made at the wrong time. -/
def refusal? (s : Session) : Action → Option Failure
  | .connect _ _ =>
    if s.phase = .disconnected then none else some (.connection (.connectedIn s.phase))
  | .register _ _ =>
    if s.phase = .connected then none else some (.write (.registeredIn s.phase))
  | .startReceiving =>
    if s.phase ≠ .streaming then some (.internal (.receivingIn s.phase))
    else if s.reader then none
    else some (.internal .receivingAlready)
  | _ => none

/-- A failure that is returned at once changes nothing else. -/
theorem fail_eq (hcall : s.call = none) (failure : Failure) :
    s.fail failure = { s with returned := s.returned ++ [.failed failure] } := by
  simp only [fail, answer, ← hcall]

/-- A call at the wrong time returns its failure, and changes nothing. -/
theorem step?_of_refusal? {action : Action} {failure : Failure} (hcall : s.call = none)
    (h : s.refusal? action = some failure) :
    s.step? metrics action =
      some ({ s with returned := s.returned ++ [.failed failure] }, metrics) := by
  have hmade {made : Session × Metrics} : s.call? made = some made :=
    call?_eq_some_iff.2 ⟨hcall, rfl⟩
  rw [← fail_eq hcall failure]
  cases action with
  | connect host port =>
    simp only [refusal?, Option.ite_none_left_eq_some, Option.some.injEq] at h
    obtain ⟨hphase, rfl⟩ := h
    simp only [step?, hmade, connect, if_neg hphase]
  | register clientId paths =>
    simp only [refusal?, Option.ite_none_left_eq_some, Option.some.injEq] at h
    obtain ⟨hphase, rfl⟩ := h
    simp only [step?, hmade, register, ne_eq, hphase, not_false_eq_true, if_true]
  | startReceiving =>
    simp only [refusal?] at h
    simp only [step?, hmade, startReceiving]
    split at h
    · rename_i hphase
      cases h
      rw [if_pos hphase]
    · rename_i hphase
      simp only [Option.ite_none_left_eq_some, Option.some.injEq] at h
      obtain ⟨hreader, rfl⟩ := h
      rw [if_neg hphase, if_pos (by simpa using hreader)]
  | _ => cases h

/-! ## Looking again -/

/-- A registration that waits goes on to wait, fails as its send has, or is done. -/
theorem settle_cases (s : Session) :
    s.settle = s ∨ ∃ request paths send, s.call = some (.register request paths send) ∧
      ((∃ failure, s.outbound.bind (·.result? send) = some (.error failure) ∧
          s.settle = (s.advance .failed).fail failure) ∨
        s.settle = ({ s with paths }.advance .streaming).answer (.registered request)) := by
  generalize hafter : s.settle = after
  unfold settle at hafter
  split at hafter
  · rename_i request paths send o hcall ho
    split at hafter
    · exact Or.inl hafter.symm
    · rename_i failure hfailed
      have hresult : s.outbound.bind (·.result? send) = some (.error failure) := by
        rw [ho]
        exact hfailed
      exact Or.inr ⟨request, paths, send, hcall, Or.inl ⟨failure, hresult, hafter.symm⟩⟩
    · exact Or.inr ⟨request, paths, send, hcall, Or.inr hafter.symm⟩
  · exact Or.inl hafter.symm

/-- What becomes of a registration does not depend on what was started meanwhile. -/
theorem settle_sends (s : Session) (sends : Nat) :
    { s.settle with sends } = { s with sends }.settle := by
  obtain ⟨options, phase, numbers, peer, paths, writer, reader, outbound, inbound, unawaited,
    started, call, returned⟩ := s
  rcases call with _ | (_ | ⟨request, announced, send⟩ | _ | _ | _) <;> try rfl
  rcases outbound with _ | o
  · rfl
  · simp only [settle]
    rcases o.result? send with _ | (failure | _) <;> rfl

/-- What happens to the sink is a step of the sending side, after which a registration looks
again. -/
theorem outbound?_cases {action : Outbound.Action}
    (h : s.outbound? metrics action = some (next, counted)) :
    ∃ o after, s.outbound = some o ∧ o.Step metrics action after counted ∧
      next = { s with outbound := some after }.settle := by
  unfold outbound? at h
  split at h
  · cases h
  · rename_i o ho
    obtain ⟨⟨after, m⟩, hstep, heq⟩ := Option.map_eq_some_iff.1 h
    obtain ⟨rfl, rfl⟩ := Prod.ext_iff.1 heq
    exact ⟨o, after, ho, Outbound.step_of_step? hstep, rfl⟩

/-- Waiting for the end of receiving goes on, or returns how it ended. -/
theorem goOnWaiting_cases (s : Session) :
    s.goOnWaiting = s ∨ ∃ outcome, s.unawaited = true ∧
      s.inbound.bind Inbound.outcome? = some outcome ∧
      s.goOnWaiting = { s with unawaited := false }.answer (returnOf outcome) := by
  generalize hafter : s.goOnWaiting = after
  unfold goOnWaiting at hafter
  split at hafter
  · exact Or.inl hafter.symm
  · rename_i outcome houtcome
    unfold unawaitedOutcome? at houtcome
    split at houtcome
    · exact Or.inr ⟨outcome, ‹_›, houtcome, hafter.symm⟩
    · cases houtcome

/-- A session that has been closed. -/
def closedFrom (s : Session) : Session :=
  ({ s with unawaited := false }.advance .closed).answer .done

/-- A session that has been closed has ended. -/
theorem isTerminal_closedFrom (s : Session) : s.closedFrom.phase.isTerminal = true := by
  simp [closedFrom]

/-- Closing that waits for the end of receiving goes on, or is done. -/
theorem goOnClosing_cases (s : Session) :
    s.goOnClosing = s ∧ s.unawaited = true ∨ s.goOnClosing = s.closedFrom ∧
      (s.unawaited = true → (s.inbound.bind Inbound.outcome?).isSome = true) := by
  generalize hafter : s.goOnClosing = after
  unfold goOnClosing at hafter
  split at hafter
  · rename_i hawaited
    rw [Bool.not_eq_true'] at hawaited
    have hsame : { s with unawaited := false } = s := by rw [← hawaited]
    refine Or.inr ⟨?_, fun hunawaited => ?_⟩
    · rw [closedFrom, hsame]
      exact hafter.symm
    · cases hawaited.symm.trans hunawaited
  · rename_i hunawaited
    rw [Bool.not_eq_true', Bool.not_eq_false] at hunawaited
    split at hafter
    · rename_i houtcome
      rw [unawaitedOutcome?, if_pos hunawaited] at houtcome
      exact Or.inr ⟨hafter.symm, fun _ => houtcome⟩
    · exact Or.inl ⟨hafter.symm, hunawaited⟩

/-- Closing that waits for the sink goes on, or gives up reading. -/
theorem settleClosing_cases (s : Session) (shutdown : Nat) :
    s.settleClosing shutdown = s ∨ s.settleClosing shutdown = s.closeReader := by
  unfold settleClosing
  split
  · exact Or.inr rfl
  · exact Or.inl rfl

/-! ### What looking again leaves alone -/

/-- Both sides of a session are left alone. -/
structure SameSides (s next : Session) : Prop where
  outbound : next.outbound = s.outbound
  inbound : next.inbound = s.inbound
  sends : next.sends = s.sends
  writer : next.writer = s.writer

/-- What a registration that looks again touches is no side of the session. -/
theorem sameSides_settle (s : Session) : SameSides s s.settle := by
  rcases s.settle_cases with hsame | ⟨_, _, _, _, ⟨_, -, hfailed⟩ | hdone⟩
  · rw [hsame]
    exact ⟨rfl, rfl, rfl, rfl⟩
  · rw [hfailed]
    exact ⟨rfl, rfl, rfl, rfl⟩
  · rw [hdone]
    exact ⟨rfl, rfl, rfl, rfl⟩

/-- Waiting for the end of receiving touches nothing but itself. -/
theorem sameSides_goOnWaiting (s : Session) : SameSides s s.goOnWaiting := by
  rcases s.goOnWaiting_cases with hsame | ⟨_, -, -, hafter⟩
  · rw [hsame]
    exact ⟨rfl, rfl, rfl, rfl⟩
  · rw [hafter]
    exact ⟨rfl, rfl, rfl, rfl⟩

/-- Closing that waits for the end of receiving touches no side of the session. -/
theorem sameSides_goOnClosing (s : Session) : SameSides s s.goOnClosing := by
  rcases s.goOnClosing_cases with ⟨hsame, -⟩ | ⟨hclosed, -⟩
  · rw [hsame]
    exact ⟨rfl, rfl, rfl, rfl⟩
  · rw [hclosed]
    exact ⟨rfl, rfl, rfl, rfl⟩

/-- Giving up reading touches no side of the session. -/
theorem sameSides_closeReader (s : Session) : SameSides s s.closeReader := by
  obtain ⟨houtbound, hinbound, hsends, hwriter⟩ :=
    sameSides_goOnClosing { s with reader := false, call := some .closeReceiver }
  exact ⟨houtbound, hinbound, hsends, hwriter⟩

/-- Closing that has waited for the sink touches no side of the session. -/
theorem sameSides_settleClosing (s : Session) (shutdown : Nat) :
    SameSides s (s.settleClosing shutdown) := by
  rcases s.settleClosing_cases shutdown with hsame | hafter
  · rw [hsame]
    exact ⟨rfl, rfl, rfl, rfl⟩
  · rw [hafter]
    exact s.sameSides_closeReader

/-- Beginning to connect touches no side of the session. -/
theorem sameSides_connect (s : Session) (host : String) (port : Nat) :
    SameSides s (s.connect host port) := by
  unfold connect
  split <;> exact ⟨rfl, rfl, rfl, rfl⟩

/-- Beginning to wait for the end of receiving touches no side of the session. -/
theorem sameSides_waitReceiver (s : Session) : SameSides s s.waitReceiver := by
  unfold waitReceiver
  split
  · obtain ⟨houtbound, hinbound, hsends, hwriter⟩ :=
      sameSides_goOnWaiting { s with call := some .waitReceiver }
    exact ⟨houtbound, hinbound, hsends, hwriter⟩
  · exact ⟨rfl, rfl, rfl, rfl⟩

/-! ### What calls begin -/

/-- A session in which a registration has been handed to the sink. -/
def registering (s : Session) (after : Outbound) (paths : List String) : Session :=
  { s with
    phase := s.phase.advance .registering
    numbers := s.numbers.take.2
    outbound := some after
    sends := s.sends + 1
    call := some (.register s.nextRequest.1 paths s.sends) }

/-- A session in which closing has begun to shut the sink down. -/
def shutting (s : Session) (after : Outbound) : Session :=
  { s.turnOn with
    writer := false
    outbound := some after
    sends := s.sends + 1
    call := some (.closeWriter s.sends) }

/-- A registration at the wrong time comes to nothing but its failure. -/
theorem register_of_ne (hphase : s.phase ≠ .connected) (metrics : Metrics) (clientId : String)
    (paths : List String) :
    s.register metrics clientId paths = (s.fail (.write (.registeredIn s.phase)), metrics) :=
  if_pos hphase

/-- A registration is handed to the sink and looks again, or fails, unless its number is taken. -/
theorem register_cases {clientId : String} {paths : List String}
    (h : s.register metrics clientId paths = (next, counted)) :
    (∃ o after, s.outbound = some o ∧
        o.Step metrics (.send s.sends (Registration.toEnvelope ⟨clientId, paths⟩ s.nextRequest.1))
          after counted ∧
        next = (s.registering after paths).settle) ∨
      counted = metrics ∧ ((∃ failure, next = s.fail failure) ∨
        next = (s.advance .registering).nextRequest.2) := by
  by_cases hphase : s.phase = .connected
  · unfold register at h
    rw [if_neg (not_not_intro hphase)] at h
    split at h
    · rename_i o _ ho
      dsimp only at h
      split at h
      · cases h
        exact Or.inr ⟨rfl, Or.inr rfl⟩
      · rename_i after _ hsend
        cases h
        exact Or.inl ⟨o, after, ho, Outbound.step_of_step? hsend, rfl⟩
    · cases h
      exact Or.inr ⟨rfl, Or.inl ⟨_, rfl⟩⟩
  · rw [register_of_ne hphase] at h
    cases h
    exact Or.inr ⟨rfl, Or.inl ⟨_, rfl⟩⟩

/-- Starting to receive fails at the wrong time, crashes where the queue cannot be made, or is
done. -/
theorem startReceiving_cases (s : Session) :
    (¬(s.phase = .streaming ∧ s.reader = true) ∧
        ∃ failure, s.startReceiving = s.fail failure) ∨
      (s.phase = .streaming ∧ s.reader = true) ∧
        (s.options.allowQueue = false ∧
            s.startReceiving = { s with reader := false }.answer .crashed ∨
          s.options.allowQueue = true ∧ s.startReceiving = { s with
            reader := false
            inbound := some (.start s.options.frameLimit s.options.queue)
            unawaited := true }.answer .done) := by
  generalize hafter : s.startReceiving = after
  unfold startReceiving at hafter
  split at hafter
  · rename_i hphase
    exact Or.inl ⟨fun hdue => hphase hdue.1, _, hafter.symm⟩
  · rename_i hphase
    split at hafter
    · rename_i hreader
      rw [Bool.not_eq_true'] at hreader
      exact Or.inl ⟨fun hdue => absurd (hreader.symm.trans hdue.2) Bool.false_ne_true, _,
        hafter.symm⟩
    · rename_i hreader
      rw [Bool.not_eq_true', Bool.not_eq_false] at hreader
      refine Or.inr ⟨⟨Decidable.not_not.1 hphase, hreader⟩, ?_⟩
      dsimp only at hafter
      split at hafter
      · rename_i hallow
        rw [Bool.not_eq_true'] at hallow
        exact Or.inl ⟨hallow, hafter.symm⟩
      · rename_i hallow
        rw [Bool.not_eq_true', Bool.not_eq_false] at hallow
        exact Or.inr ⟨hallow, hafter.symm⟩

/-- Closing turns the switch on and begins to shut the sink down if there is a writer, or gives up
reading, unless its number is taken. -/
theorem close_cases (h : s.close metrics = (next, counted)) :
    (∃ o after, s.outbound = some o ∧
        { o with cancelled := true }.Step metrics (.shutdown s.sends) after counted ∧
        next = (s.shutting after).settleClosing s.sends) ∨
      counted = metrics ∧
        ((s.writer = true → s.outbound = none) ∧
            next = { s.turnOn with writer := false }.closeReader ∨
          (∃ o, s.outbound = some o ∧ o.isKnown s.sends = true) ∧ next = s.turnOn) := by
  unfold close at h
  dsimp only at h
  split at h
  · rename_i p _ hp
    obtain ⟨o, ho, rfl⟩ := Option.map_eq_some_iff.1 hp
    split at h
    · rename_i hnone
      cases h
      refine Or.inr ⟨rfl, Or.inr ⟨⟨o, ho, ?_⟩, rfl⟩⟩
      cases hknown : o.isKnown s.sends with
      | true => rfl
      | false =>
        have hfree : { o with cancelled := true }.isKnown s.turnOn.sends = false := hknown
        simp [Outbound.step?, hfree] at hnone
    · rename_i after _ hshutdown
      cases h
      exact Or.inl ⟨o, after, ho, Outbound.step_of_step? hshutdown, rfl⟩
  · rename_i hnone
    cases h
    refine Or.inr ⟨rfl, Or.inl ⟨fun hwriter => ?_, rfl⟩⟩
    cases ho : s.outbound with
    | none => rfl
    | some o => exact absurd (by rw [outbound_turnOn, ho, Option.map_some]) (hnone _ hwriter)

/-! ## All that can happen -/

/-- What an action that belongs to no call does to the sink. -/
def Action.onSink? (sends : Nat) : Action → Option Outbound.Action
  | .send e => some (.send sends e)
  | .pollSend n => some (.poll n)
  | .abandonSend n => some (.abandon n)
  | .accept count => some (.accept count)
  | .flush => some .flush
  | .refuse reason => some (.refuse reason)
  | _ => none

/-- How many sends an action starts. -/
def Action.starts : Action → Nat
  | .send _ => 1
  | _ => 0

/-- What a step of a session can be. -/
inductive Step (s : Session) (metrics : Metrics) : Action → Session → Metrics → Prop where
  | connect (host : String) (port : Nat) (hidle : s.call = none) :
    Step s metrics (.connect host port) (s.connect host port) metrics
  | register (clientId : String) (paths : List String) {next : Session} {counted : Metrics}
      (hidle : s.call = none) (hnext : s.register metrics clientId paths = (next, counted)) :
    Step s metrics (.register clientId paths) next counted
  | startReceiving (hidle : s.call = none) :
    Step s metrics .startReceiving s.startReceiving metrics
  | waitReceiver (hidle : s.call = none) : Step s metrics .waitReceiver s.waitReceiver metrics
  | close {next : Session} {counted : Metrics} (hidle : s.call = none)
      (hnext : s.close metrics = (next, counted)) : Step s metrics .close next counted
  | nextRequest (hidle : s.call = none) : Step s metrics .nextRequest s.nextRequest.2 metrics
  | goOnRegistering {request : Int64} {paths : List String} {send : Nat} {next : Session}
      {counted : Metrics} (hcall : s.call = some (.register request paths send))
      (hsink : s.outbound? metrics (.poll send) = some (next, counted)) :
    Step s metrics .poll next counted
  | goOnShutting {shutdown : Nat} {next : Session} {counted : Metrics}
      (hcall : s.call = some (.closeWriter shutdown))
      (hsink : s.outbound? metrics (.poll shutdown) = some (next, counted)) :
    Step s metrics .poll (next.settleClosing shutdown) counted
  | goOnWaiting (hcall : s.call = some .waitReceiver) : Step s metrics .poll s.goOnWaiting metrics
  | goOnClosing (hcall : s.call = some .closeReceiver) : Step s metrics .poll s.goOnClosing metrics
  | connected (peer : Option String) {host : String} {port : Nat}
      (hcall : s.call = some (.connect host port)) :
    Step s metrics (.connected peer) (s.connected peer) metrics
  | refused (reason : String) {host : String} {port : Nat}
      (hcall : s.call = some (.connect host port)) :
    Step s metrics (.refused reason) (s.connectFailed (.refused host port reason)) metrics
  | timedOut {host : String} {port : Nat} (hcall : s.call = some (.connect host port)) :
    Step s metrics .timedOut (s.connectFailed (.timedOut host port s.options.connectTimeout))
      metrics
  | inbound {a : Inbound.Action} {i after : Inbound} {counted : Metrics} (hi : s.inbound = some i)
      (hstep : i.Step metrics a after counted) :
    Step s metrics (.inbound a) (s.withInbound after) counted
  | sink {action : Action} {a : Outbound.Action} {next : Session} {counted : Metrics}
      (haction : action.onSink? s.sends = some a)
      (hother : ∀ n, s.isOwn n = true → a ≠ .poll n ∧ a ≠ .abandon n)
      (hsink : s.outbound? metrics a = some (next, counted)) :
    Step s metrics action { next with sends := next.sends + action.starts } counted

/-- Nothing else can happen to a session. -/
theorem step_of_step? {action : Action} (h : s.step? metrics action = some (next, counted)) :
    s.Step metrics action next counted := by
  cases action with
  | connect host port =>
    obtain ⟨hidle, hnext⟩ := call?_eq_some_iff.1 h
    cases hnext
    exact .connect host port hidle
  | register clientId paths =>
    obtain ⟨hidle, hnext⟩ := call?_eq_some_iff.1 h
    exact .register clientId paths hidle hnext
  | startReceiving =>
    obtain ⟨hidle, hnext⟩ := call?_eq_some_iff.1 h
    cases hnext
    exact .startReceiving hidle
  | waitReceiver =>
    obtain ⟨hidle, hnext⟩ := call?_eq_some_iff.1 h
    cases hnext
    exact .waitReceiver hidle
  | close =>
    obtain ⟨hidle, hnext⟩ := call?_eq_some_iff.1 h
    exact .close hidle hnext
  | nextRequest =>
    obtain ⟨hidle, hnext⟩ := call?_eq_some_iff.1 h
    cases hnext
    exact .nextRequest hidle
  | poll =>
    simp only [step?, poll?] at h
    split at h
    · exact .goOnRegistering ‹_› h
    · rename_i shutdown hcall
      obtain ⟨⟨t, m⟩, hsink, heq⟩ := Option.map_eq_some_iff.1 h
      cases heq
      exact .goOnShutting hcall hsink
    · cases h
      exact .goOnWaiting ‹_›
    · cases h
      exact .goOnClosing ‹_›
    · cases h
  | connected peer =>
    simp only [step?] at h
    split at h <;> cases h
    exact .connected peer ‹_›
  | refused reason =>
    simp only [step?] at h
    split at h <;> cases h
    exact .refused reason ‹_›
  | timedOut =>
    simp only [step?] at h
    split at h <;> cases h
    exact .timedOut ‹_›
  | send e =>
    obtain ⟨⟨t, m⟩, hsink, heq⟩ := Option.map_eq_some_iff.1 h
    cases heq
    exact .sink rfl (fun _ _ => ⟨Outbound.Action.noConfusion, Outbound.Action.noConfusion⟩) hsink
  | pollSend number =>
    simp only [step?, Option.ite_none_left_eq_some] at h
    refine .sink rfl (fun n hn => ⟨?_, Outbound.Action.noConfusion⟩) h.2
    rintro ⟨⟩
    exact h.1 hn
  | abandonSend number =>
    simp only [step?, Option.ite_none_left_eq_some] at h
    refine .sink rfl (fun n hn => ⟨Outbound.Action.noConfusion, ?_⟩) h.2
    rintro ⟨⟩
    exact h.1 hn
  | accept count =>
    exact .sink rfl (fun _ _ => ⟨Outbound.Action.noConfusion, Outbound.Action.noConfusion⟩) h
  | flush =>
    exact .sink rfl (fun _ _ => ⟨Outbound.Action.noConfusion, Outbound.Action.noConfusion⟩) h
  | refuse reason =>
    exact .sink rfl (fun _ _ => ⟨Outbound.Action.noConfusion, Outbound.Action.noConfusion⟩) h
  | inbound a =>
    cases hi : s.inbound with
    | none => cases a <;> simp only [step?, hi, reduceCtorEq] at h
    | some i =>
      have hmap : (i.step? metrics a).map (fun p => (s.withInbound p.1, p.2)) =
          some (next, counted) := by
        cases a with
        | disturb => cases h
        | _ => simpa only [step?, hi] using h
      obtain ⟨⟨after, m⟩, hstep, heq⟩ := Option.map_eq_some_iff.1 hmap
      cases heq
      exact .inbound hi (Inbound.step_of_step? hstep)

/-- What happens to receiving happens to it alone. -/
theorem exists_of_step?_inbound {a : Inbound.Action}
    (h : s.step? metrics (.inbound a) = some (next, counted)) :
    ∃ i after, s.inbound = some i ∧ i.Step metrics a after counted ∧
      next = s.withInbound after := by
  cases step_of_step? h with
  | inbound hi hstep => exact ⟨_, _, hi, hstep, rfl⟩
  | sink haction => cases haction

namespace Action

variable {action : Action} {sends n : Nat} {a : Outbound.Action}

/-- What an action does to the sink belongs to no call. -/
theorem isCall_of_onSink? (haction : action.onSink? sends = some a) : action.isCall = false := by
  cases action <;> first | rfl | cases haction

/-- Only an action that starts a send begins anything at the sink, and it begins one thing. -/
theorem begins_of_onSink? (haction : action.onSink? sends = some a) (hn : a.begins n = true) :
    n = sends ∧ action.starts = 1 := by
  cases action with
  | send e =>
    cases haction
    exact ⟨(of_decide_eq_true hn).symm, rfl⟩
  | _ => cases haction <;> cases hn

end Action

end Session

end Courier
