import Courier.Proofs.Session.EndState

/-!
# How a session comes to its end

Closing turns the switch on and takes the sink away, for which it waits behind the sends that are
under way; then it waits for the end of receiving (`Stage`). From the moment it begins the switch
stays on for both sides (`CloseBegun`), so whoever looks comes to an end and nothing new is started
(`NothingStarted`).
-/

namespace Courier

namespace Session

variable {s t next : Session} {metrics counted : Metrics} {action : Action}
  {actions later : List Action} {made : List Action} {registrations : List Envelope}
  {o after : Outbound} {b : Outbound.Action}

/-- Whether a send of some number is under way. -/
def isSending (s : Session) (number : Nat) : Bool := s.outbound.any (·.isSending number)

/-- What became of a send or shutdown, if it is over. -/
def result? (s : Session) (number : Nat) : Option (Except Failure Unit) :=
  s.outbound.bind (·.result? number)

/-- Whether receiving goes on. -/
def isReceiving (s : Session) : Bool := s.inbound.any (·.outcome?.isNone)

/-! ## Before closing -/

/-- Closing has not begun: whoever has the sink has the writer, and nobody shuts it down. -/
structure CloseNotBegun (s : Session) : Prop where
  writer (o : Outbound) (ho : s.outbound = some o) : s.writer = true
  unshut (o : Outbound) (ho : s.outbound = some o) (n : Nat) : .shutdown n ∉ o.waiting

/-- At first there is no sink. -/
theorem closeNotBegun_start (options : Options) : (start options).CloseNotBegun :=
  ⟨by rintro o ⟨⟩, by rintro o ⟨⟩⟩

/-- Only closing begins to close. -/
theorem CloseNotBegun.step (h : s.CloseNotBegun) (hsinkStep : SinkStep s action next)
    (haction : action ≠ .close) :
    next.CloseNotBegun := by
  cases hsinkStep with
  | same houtbound hwriter =>
    refine ⟨fun o ho => ?_, fun o ho => h.unshut o (houtbound.symm.trans ho)⟩
    have hbefore : s.outbound = some o := houtbound.symm.trans ho
    rcases hwriter with hsame | hnone
    · exact hsame.trans (h.writer o hbefore)
    · cases hnone.symm.trans hbefore
  | connects _ hnew hwriter =>
    refine ⟨fun _ _ => hwriter, fun o ho n => ?_⟩
    cases hnew.symm.trans ho
    exact List.not_mem_nil
  | steps ho hstep hafter ha _ hwriter =>
    refine ⟨fun _ _ => hwriter.trans (h.writer _ ho), fun p hp n hmem => ?_⟩
    cases hafter.symm.trans hp
    exact h.unshut _ ho n (hstep.shutdown_mem_waiting ha hmem)
  | closes => exact absurd rfl haction
  | cancels => exact absurd rfl haction

/-! ## Nothing is started -/

/-- Some actions have written nothing and brought nothing under way: sends that are still under way
were so before and have not looked since, and those that are over have failed to write. -/
structure NothingStarted (s : Session) (actions : List Action) (next : Session) : Prop where
  written : next.written = s.written
  sends : s.sends ≤ next.sends
  sending (n : Nat) (h : next.isSending n = true) :
    s.isSending n = true ∧ .pollSend n ∉ actions ∧ .abandonSend n ∉ actions
  result (n : Nat) (r : Except Failure Unit) (h : next.result? n = some r) :
    s.result? n = some r ∨ (∃ fault, r = .error (.write fault)) ∨ s.sends ≤ n ∨ s.isOwn n = true
  own (n : Nat) (h : next.isOwn n = true) : s.isOwn n = true ∨ s.sends ≤ n
  receiving (h : next.isReceiving = true) : s.isReceiving = true ∧ .inbound .resume ∉ actions

/-- Where nothing was started and nothing is, nothing is started on the whole. -/
theorem NothingStarted.trans (h : NothingStarted s actions t)
    (hlater : NothingStarted t later next) :
    NothingStarted s (actions ++ later) next where
  written := hlater.written.trans h.written
  sends := Nat.le_trans h.sends hlater.sends
  sending n hn := by
    obtain ⟨hbefore, hpoll, habandon⟩ := hlater.sending n hn
    obtain ⟨hfirst, hpolled, habandoned⟩ := h.sending n hbefore
    exact ⟨hfirst, fun hmem => (List.mem_append.1 hmem).elim hpolled hpoll,
      fun hmem => (List.mem_append.1 hmem).elim habandoned habandon⟩
  result n r hr := by
    rcases hlater.result n r hr with hold | hwrite | hnew | hown
    · exact h.result n r hold
    · exact Or.inr (Or.inl hwrite)
    · exact Or.inr (Or.inr (Or.inl (Nat.le_trans h.sends hnew)))
    · exact Or.inr (Or.inr (h.own n hown).symm)
  own n hn := by
    rcases hlater.own n hn with hown | hnew
    · exact h.own n hown
    · exact Or.inr (Nat.le_trans h.sends hnew)
  receiving hgoing := by
    obtain ⟨hbefore, hresume⟩ := hlater.receiving hgoing
    obtain ⟨hfirst, hresumed⟩ := h.receiving hbefore
    exact ⟨hfirst, fun hmem => (List.mem_append.1 hmem).elim hresumed hresume⟩

/-- What leaves sends and receiving alone lets nothing get under way. -/
theorem nothingStarted_of_same (haction : action.onSink? s.sends = none)
    (houtbound : next.outbound = s.outbound) (hsends : s.sends ≤ next.sends)
    (hown : ∀ n, next.isOwn n = true → s.isOwn n = true)
    (hreceiving : next.isReceiving = true → s.isReceiving = true ∧ action ≠ .inbound .resume) :
    NothingStarted s [action] next where
  written := by rw [Session.written, Session.written, houtbound]
  sends := hsends
  sending n h := by
    have hother (x : Action) (hx : x.onSink? s.sends ≠ none) : x ∉ [action] := by
      rintro hmem
      rw [List.mem_singleton.1 hmem] at hx
      exact hx haction
    refine ⟨?_, hother _ (Option.some_ne_none _), hother _ (Option.some_ne_none _)⟩
    rwa [isSending, houtbound] at h
  result n r h := by
    rw [Session.result?, houtbound] at h
    exact Or.inl h
  own n h := Or.inl (hown n h)
  receiving h := by
    obtain ⟨hgoing, hresume⟩ := hreceiving h
    exact ⟨hgoing, fun hmem => hresume (List.mem_singleton.1 hmem).symm⟩

/-- What happens to the sink while the switch is on lets nothing get under way. -/
theorem nothingStarted_of_cancelledStep
    (haction : action.onSink? s.sends = some b ∨ action = .poll ∧ ∀ n e, b ≠ .send n e)
    (hcancel : o.CancelledStep b after) (ho : s.outbound = some o)
    (hafter : next.outbound = some after)
    (hunique : o.HasUniquePlaces) (hnext : after.HasUniquePlaces) (hsends : s.sends ≤ next.sends)
    (hshut : ∀ n, .shutdown n ∈ o.waiting → s.isOwn n = true)
    (hown : ∀ n, next.isOwn n = true → s.isOwn n = true) (hinbound : next.inbound = s.inbound) :
    NothingStarted s [action] next where
  written := by
    rw [written_of_outbound ho, written_of_outbound hafter]
    exact hcancel.written.1
  sends := hsends
  sending n h := by
    rw [isSending, hafter] at h
    obtain ⟨hbefore, hpoll, habandon⟩ := hcancel.sending hunique h
    rw [isSending, ho]
    refine ⟨hbefore, fun hmem => ?_, fun hmem => ?_⟩
    · rw [← List.mem_singleton.1 hmem] at haction
      rcases haction with hb | ⟨⟨⟩, -⟩
      exact hpoll (Option.some.inj hb).symm
    · rw [← List.mem_singleton.1 hmem] at haction
      rcases haction with hb | ⟨⟨⟩, -⟩
      exact habandon (Option.some.inj hb).symm
  result n r h := by
    rw [Session.result?, hafter] at h
    have hmem := (Outbound.result?_eq_some_iff (hnext.places_le n) r).1 h
    rcases hcancel.finished hmem with hold | hwrite | ⟨e, rfl⟩ | hwaits
    · left
      rw [Session.result?, ho]
      exact (Outbound.result?_eq_some_iff (hunique.places_le n) r).2 hold
    · exact Or.inr (Or.inl hwrite)
    · refine Or.inr (Or.inr (Or.inl ?_))
      rcases haction with hb | ⟨-, hother⟩
      · cases action with
        | send e =>
          cases hb
          exact Nat.le_refl _
        | _ => cases hb
      · exact absurd rfl (hother n e)
    · exact Or.inr (Or.inr (Or.inr (hshut n hwaits)))
  own n h := Or.inl (hown n h)
  receiving h := by
    rw [isReceiving, hinbound] at h
    refine ⟨h, fun hmem => ?_⟩
    rw [← List.mem_singleton.1 hmem] at haction
    rcases haction with hb | ⟨⟨⟩, -⟩
    cases hb

/-! ## While closing, and after -/

/-- How far closing has come. -/
inductive Stage (s : Session) : Prop where
  | sink {o : Outbound} {n : Nat} (hcall : s.call = some (.closeWriter n))
      (ho : s.outbound = some o) (hdraining : o.Draining n)
  | receiver (hcall : s.call = some .closeReceiver) (hreader : s.reader = false)
      (hdrained : ∀ o, s.outbound = some o → o.Drained) (hunawaited : s.unawaited = true)
  | ended (hcall : s.call = none) (hreader : s.reader = false)
      (hdrained : ∀ o, s.outbound = some o → o.Drained) (hunawaited : s.unawaited = false)
      (hterminal : s.phase.isTerminal = true)

/-- Closing has begun: the writer is given up and the switch is on for both sides. -/
structure CloseBegun (s : Session) : Prop where
  writer : s.writer = false
  cancelled (o : Outbound) (ho : s.outbound = some o) : o.cancelled = true
  disturbed (i : Inbound) (hi : s.inbound = some i) : i.disturbed = true
  stage : s.Stage

/-- Closing goes on to wait, or it has returned. -/
def CloseWaitsOrReturns (s next : Session) : Prop :=
  next.call.isSome = true ∧ next.returned = s.returned ∨
    next.call = none ∧ next.returned = s.returned ++ [.done]

/-- No call that opens the session waits while it closes. -/
theorem Stage.not_opening (h : s.Stage) : s.call.any Call.isOpening = false := by
  cases h with
  | sink hcall => simp [hcall, Call.isOpening]
  | receiver hcall => simp [hcall, Call.isOpening]
  | ended hcall => simp [hcall]

/-- Only closing itself waits to shut the sink down. -/
theorem Stage.isOwn_of_mem (h : s.Stage) (ho : s.outbound = some o) {n : Nat}
    (hmem : .shutdown n ∈ o.waiting) : s.isOwn n = true := by
  have hnobody (hdrained : o.Drained) : s.isOwn n = true := by
    rw [hdrained.quiet.waiting] at hmem
    cases hmem
  cases h with
  | sink hcall hp hdraining =>
    cases ho.symm.trans hp
    obtain rfl := hdraining.eq_of_mem hmem
    simp [hcall]
  | receiver _ _ hdrained => exact hnobody (hdrained o ho)
  | ended _ _ hdrained => exact hnobody (hdrained o ho)

/-- Closing that waits for the end of receiving goes on, or is done. -/
theorem closeBegun_goOnClosing (hwriter : s.writer = false)
    (hcancelled : ∀ o, s.outbound = some o → o.cancelled = true)
    (hdisturbed : ∀ i, s.inbound = some i → i.disturbed = true)
    (hcall : s.call = some .closeReceiver) (hreader : s.reader = false)
    (hdrained : ∀ o, s.outbound = some o → o.Drained) :
    s.goOnClosing.CloseBegun ∧ CloseWaitsOrReturns s s.goOnClosing := by
  rcases s.goOnClosing_cases with ⟨hsame, hunawaited⟩ | ⟨hclosed, -⟩
  · rw [hsame]
    exact ⟨⟨hwriter, hcancelled, hdisturbed, .receiver hcall hreader hdrained hunawaited⟩,
      Or.inl ⟨by rw [hcall]; rfl, rfl⟩⟩
  · rw [hclosed]
    exact ⟨⟨hwriter, hcancelled, hdisturbed,
      .ended rfl hreader hdrained rfl (isTerminal_closedFrom s)⟩, Or.inr ⟨rfl, rfl⟩⟩

/-- Closing that waits for the sink goes on, or gives up reading and waits for the end of
receiving. -/
theorem closeBegun_settleClosing (hwriter : s.writer = false)
    (hcancelled : ∀ o, s.outbound = some o → o.cancelled = true)
    (hdisturbed : ∀ i, s.inbound = some i → i.disturbed = true) {n : Nat}
    (hcall : s.call = some (.closeWriter n)) (ho : s.outbound = some o)
    (hunique : o.HasUniquePlaces)
    (hshut : o.Draining n ∨ o.Drained ∧ (o.result? n).isSome = true) :
    (s.settleClosing n).CloseBegun ∧ CloseWaitsOrReturns s (s.settleClosing n) := by
  unfold Session.settleClosing
  rcases hshut with hdraining | ⟨hdrained, hover⟩
  · have hnone : o.result? n = none :=
      hunique.result?_eq_none (Or.inr ⟨_, hdraining.mem_waiting, rfl⟩)
    rw [ho, Option.any_some, hnone, if_neg (by exact Bool.false_ne_true)]
    exact ⟨⟨hwriter, hcancelled, hdisturbed, .sink hcall ho hdraining⟩,
      Or.inl ⟨by rw [hcall]; rfl, rfl⟩⟩
  · rw [ho, Option.any_some, if_pos hover]
    refine closeBegun_goOnClosing hwriter hcancelled hdisturbed rfl rfl fun p hp => ?_
    cases ho.symm.trans hp
    exact hdrained

/-- Closing that waits for the end of receiving begins nothing of its own. -/
theorem isOwn_goOnClosing {n : Nat} (h : s.goOnClosing.isOwn n = true) : s.isOwn n = true := by
  rcases s.goOnClosing_cases with ⟨hsame, -⟩ | ⟨hclosed, -⟩
  · rwa [hsame] at h
  · rw [hclosed] at h
    cases h

/-- Closing that waits for the sink begins nothing of its own. -/
theorem isOwn_settleClosing {shutdown n : Nat} (h : (s.settleClosing shutdown).isOwn n = true) :
    s.isOwn n = true := by
  rcases s.settleClosing_cases shutdown with hsame | hafter
  · rwa [hsame] at h
  · rw [hafter] at h
    have hnothing : { s with reader := false, call := some .closeReceiver }.isOwn n = true :=
      isOwn_goOnClosing h
    cases hnothing

/-! ### Beginning to close -/

/-- The sends that are under way when closing begins are those that were so before. -/
theorem nothingStarted_of_begins_shutdown {p : Outbound} (ho : s.outbound = some o)
    (hp : p = { o with
      cancelled := true
      waiting := o.waiting ++ [Outbound.Waiter.shutdown s.sends] })
    (hcancel : p.CancelledStep (.poll s.sends) after) (hlast : p.HasUniquePlaces)
    (hunique : o.HasUniquePlaces) (hnext : after.HasUniquePlaces)
    (hunshut : ∀ n, .shutdown n ∉ o.waiting) (hafter : next.outbound = some after)
    (hsends : s.sends ≤ next.sends) (hown : ∀ n, next.isOwn n = true → n = s.sends)
    (hreceiving : next.isReceiving = true → s.isReceiving = true) :
    NothingStarted s [.close] next where
  written := by
    rw [written_of_outbound ho, written_of_outbound hafter, hcancel.written.1, hp]
  sends := hsends
  sending n h := by
    rw [isSending, hafter] at h
    have hbefore := (Outbound.isSending_iff p n).1 (hcancel.sending hlast h).1
    rw [isSending, ho]
    refine ⟨(Outbound.isSending_iff o n).2 ?_, by simp, by simp⟩
    subst hp
    rcases hbefore with hholds | ⟨x, hx, hnumber⟩
    · exact Or.inl hholds
    · refine Or.inr ⟨x, ?_, hnumber⟩
      rcases List.mem_append.1 hx with hx | hx
      · exact hx
      · cases List.mem_singleton.1 hx
  result n r h := by
    rw [Session.result?, hafter] at h
    rcases hcancel.finished ((Outbound.result?_eq_some_iff (hnext.places_le n) r).1 h) with
      hold | hwrite | ⟨e, ⟨⟩⟩ | hwaits
    · left
      rw [Session.result?, ho]
      subst hp
      exact (Outbound.result?_eq_some_iff (hunique.places_le n) r).2 hold
    · exact Or.inr (Or.inl hwrite)
    · subst hp
      rcases List.mem_append.1 hwaits with hold | hnew
      · exact absurd hold (hunshut n)
      · cases List.mem_singleton.1 hnew
        exact Or.inr (Or.inr (Or.inl (Nat.le_refl _)))
  own n h := Or.inr (Nat.le_of_eq (hown n h).symm)
  receiving h := ⟨hreceiving h, by simp⟩

/-- Closing begins behind all sends that are under way, and brings nothing under way. -/
theorem CloseNotBegun.close (h : s.CloseNotBegun) (hsound : Sound s made registrations)
    (hunique : s.HasUniquePlaces)
    (hnext : next.HasUniquePlaces) (hclose : s.close metrics = (next, counted)) :
    next.CloseBegun ∧ CloseWaitsOrReturns s next ∧ NothingStarted s [.close] next := by
  have hdisturbed (i : Inbound) (hi : s.turnOn.inbound = some i) : i.disturbed = true := by
    obtain ⟨before, -, rfl⟩ := Option.map_eq_some_iff.1 hi
    rfl
  have hreceiving {t : Session} (ht : t.inbound = s.turnOn.inbound)
      (hgoing : t.isReceiving = true) : s.isReceiving = true := by
    rw [isReceiving, ht] at hgoing
    rwa [inbound_turnOn, Option.any_map] at hgoing
  rcases close_cases hclose with
    ⟨o, after, ho, hshutdown, rfl⟩ | ⟨-, ⟨hnone, rfl⟩ | ⟨⟨o, ho, hknown⟩, -⟩⟩
  · have hturned : { o with cancelled := true }.HasUniquePlaces :=
      ⟨(hunique o ho).places_le, (hunique o ho).timely⟩
    obtain ⟨hdraining, hwaiting, hcancel⟩ := hshutdown.begins_shutdown hturned (h.unshut o ho)
    have hsame := sameSides_settleClosing (s.shutting after) s.sends
    have hafter : after.HasUniquePlaces := hnext after hsame.outbound
    have hshut :=
      (hcancel.draining hdraining hwaiting Outbound.Action.noConfusion).imp id And.right
    have hcancelled (p : Outbound) (hp : some after = some p) : p.cancelled = true := by
      cases hp
      exact hcancel.written.2
    obtain ⟨hcloseBegun, hcloses⟩ := closeBegun_settleClosing (s := s.shutting after) rfl
      hcancelled hdisturbed rfl rfl hafter hshut
    refine ⟨hcloseBegun, hcloses, nothingStarted_of_begins_shutdown ho rfl hcancel hwaiting
      (hunique o ho) hafter (h.unshut o ho) hsame.outbound ?_ ?_ (hreceiving hsame.inbound)⟩
    · rw [hsame.sends]
      exact Nat.le_succ _
    · intro n hn
      have hshutdown := isOwn_settleClosing hn
      exact of_decide_eq_true hshutdown
  · have hunconnected : s.outbound = none := by
      cases ho : s.outbound with
      | none => rfl
      | some o => exact ho.symm.trans (hnone (h.writer o ho))
    have hturned : s.turnOn.outbound = none := by
      rw [outbound_turnOn, hunconnected, Option.map_none]
    have hsame := sameSides_closeReader { s.turnOn with writer := false }
    obtain ⟨hcloseBegun, hcloses⟩ := closeBegun_goOnClosing (s := { s.turnOn with
      writer := false
      reader := false
      call := some .closeReceiver }) rfl (by rw [hturned]; rintro o ⟨⟩) hdisturbed rfl rfl
      (by rw [hturned]; rintro o ⟨⟩)
    have houtbound := hsame.outbound.trans (hturned.trans hunconnected.symm)
    refine ⟨hcloseBegun, hcloses, nothingStarted_of_same rfl houtbound
      (Nat.le_of_eq hsame.sends.symm)
      (fun n hn => ?_) fun hgoing => ⟨hreceiving hsame.inbound hgoing, Action.noConfusion⟩⟩
    cases isOwn_goOnClosing hn
  · -- No number is known that was not begun, so the shutdown can begin.
    cases (hsound.isKnown_sends ho).symm.trans hknown

/-! ### Steps while closing, and after -/

/-- Closing goes on to wait or has returned, and once it has, every call returns at once. -/
structure AnswersWhileClosing (s next : Session) : Prop where
  waits (h : s.call.isSome = true) : CloseWaitsOrReturns s next
  idle (h : s.call = none) : next.call = none ∧ s.returned <+: next.returned

/-- What belongs to no call answers none. -/
theorem answersWhileClosing_of_same (hcall : next.call = s.call)
    (hreturned : next.returned = s.returned) :
    AnswersWhileClosing s next where
  waits h := Or.inl ⟨hcall ▸ h, hreturned⟩
  idle h := ⟨hcall.trans h, hreturned ▸ List.prefix_rfl⟩

/-- Closing that waits goes on to wait, or returns. -/
theorem answersWhileClosing_of_closeWaitsOrReturns {c : Call} (hcall : s.call = some c)
    (hcloses : CloseWaitsOrReturns s next) :
    AnswersWhileClosing s next where
  waits _ := hcloses
  idle h := by cases hcall.symm.trans h

/-- What happens to the sink without the call lets closing go on. -/
theorem CloseBegun.sink (h : s.CloseBegun) (hunique : s.HasUniquePlaces) (hnext : t.HasUniquePlaces)
    (haction : action.onSink? s.sends = some b)
    (hother : ∀ n, s.isOwn n = true → b ≠ .poll n ∧ b ≠ .abandon n)
    (hsink : s.outbound? metrics b = some (t, counted)) :
    { t with sends := t.sends + action.starts }.CloseBegun ∧
      NothingStarted s [action] { t with sends := t.sends + action.starts } ∧
      AnswersWhileClosing s { t with sends := t.sends + action.starts } := by
  obtain ⟨o, after, ho, hafter, rfl⟩ := exists_of_outbound? h.stage.not_opening hsink
  have hcancel := hafter.cancelledStep (h.cancelled o ho) (Action.isClosing_of_onSink? haction)
  have hcancelled (p : Outbound) (hp : some after = some p) : p.cancelled = true := by
    cases hp
    exact hcancel.written.2.trans (h.cancelled o ho)
  have hdrained (hbefore : ∀ p, s.outbound = some p → p.Drained) (p : Outbound)
      (hp : some after = some p) : p.Drained := by
    cases hp
    exact hcancel.drained (hbefore o ho)
  refine ⟨⟨h.writer, hcancelled, h.disturbed, ?_⟩, ?_, answersWhileClosing_of_same rfl rfl⟩
  · cases h.stage with
    | @sink p n hcall hp hdraining =>
      cases ho.symm.trans hp
      obtain ⟨hpoll, habandon⟩ := hother n (by simp [hcall])
      rcases hcancel.draining hdraining (hunique o ho) habandon with hleft | ⟨hlook, -⟩
      · exact .sink hcall rfl hleft
      · exact absurd hlook hpoll
    | receiver hcall hreader hbefore hunawaited =>
      exact .receiver hcall hreader (hdrained hbefore) hunawaited
    | ended hcall hreader hbefore hunawaited hterminal =>
      exact .ended hcall hreader (hdrained hbefore) hunawaited hterminal
  · exact nothingStarted_of_cancelledStep (Or.inl haction) hcancel ho rfl (hunique o ho)
      (hnext after rfl)
      (Nat.le_add_right _ _) (fun n hn => h.stage.isOwn_of_mem ho hn) (fun n hn => hn) rfl

/-- Closing that waits to take the sink away takes it away, or goes on to wait. -/
theorem CloseBegun.goOnShutting (h : s.CloseBegun) (hunique : s.HasUniquePlaces) {n : Nat}
    (hcall : s.call = some (.closeWriter n)) (hnext : (t.settleClosing n).HasUniquePlaces)
    (hsink : s.outbound? metrics (.poll n) = some (t, counted)) :
    (t.settleClosing n).CloseBegun ∧ NothingStarted s [.poll] (t.settleClosing n) ∧
      AnswersWhileClosing s (t.settleClosing n) := by
  cases h.stage with
  | @sink o m hsame ho hdraining =>
    cases hcall.symm.trans hsame
    obtain ⟨p, after, hp, hafter, rfl⟩ := exists_of_outbound? h.stage.not_opening hsink
    cases ho.symm.trans hp
    have hcancel := hafter.cancelledStep (h.cancelled o ho) rfl
    have hsides := sameSides_settleClosing { s with outbound := some after } n
    have hafterUnique : after.HasUniquePlaces := hnext after hsides.outbound
    have hcancelled (p : Outbound) (hp : some after = some p) : p.cancelled = true := by
      cases hp
      exact hcancel.written.2.trans (h.cancelled o ho)
    obtain ⟨hcloseBegun, hcloses⟩ := closeBegun_settleClosing
      (s := { s with outbound := some after }) h.writer
      hcancelled h.disturbed hcall rfl hafterUnique
      ((hcancel.draining hdraining (hunique o ho) Outbound.Action.noConfusion).imp id And.right)
    refine ⟨hcloseBegun, ?_, answersWhileClosing_of_closeWaitsOrReturns hcall hcloses⟩
    exact nothingStarted_of_cancelledStep
      (Or.inr ⟨rfl, fun _ _ => Outbound.Action.noConfusion⟩) hcancel ho
      hsides.outbound (hunique o ho) hafterUnique (Nat.le_of_eq hsides.sends.symm)
      (fun n hn => h.stage.isOwn_of_mem ho hn) (fun _ => isOwn_settleClosing) hsides.inbound
  | receiver hwaits => cases hcall.symm.trans hwaits
  | ended hidle => cases hcall.symm.trans hidle

/-- Closing that waits for the end of receiving goes on to wait, or returns. -/
theorem CloseBegun.goOnClosing (h : s.CloseBegun) (hcall : s.call = some .closeReceiver) :
    s.goOnClosing.CloseBegun ∧ NothingStarted s [.poll] s.goOnClosing ∧
    AnswersWhileClosing s s.goOnClosing := by
  cases h.stage with
  | sink hwaits => cases hcall.symm.trans hwaits
  | receiver _ hreader hdrained =>
    obtain ⟨hcloseBegun, hcloses⟩ :=
      closeBegun_goOnClosing h.writer h.cancelled h.disturbed hcall hreader hdrained
    have hsides := s.sameSides_goOnClosing
    refine ⟨hcloseBegun, ?_, answersWhileClosing_of_closeWaitsOrReturns hcall hcloses⟩
    refine nothingStarted_of_same rfl hsides.outbound (Nat.le_of_eq hsides.sends.symm)
      (fun _ => isOwn_goOnClosing) fun hgoing => ⟨?_, Action.noConfusion⟩
    rwa [isReceiving, hsides.inbound] at hgoing
  | ended hidle => cases hcall.symm.trans hidle

/-- While a session closes, and after it, receiving can only end. -/
theorem CloseBegun.inbound (h : s.CloseBegun) {a : Inbound.Action} {i after : Inbound}
    (hi : s.inbound = some i) (hafter : i.Step metrics a after counted) :
    (s.withInbound after).CloseBegun ∧ NothingStarted s [.inbound a] (s.withInbound after) ∧
      AnswersWhileClosing s (s.withInbound after) := by
  obtain ⟨phase, hnext, hphase⟩ := exists_withInbound s after
  rw [hnext]
  refine ⟨⟨h.writer, h.cancelled, ?_, ?_⟩, ?_, answersWhileClosing_of_same rfl rfl⟩
  · rintro _ ⟨⟩
    exact hafter.disturbed_iff.2 (Or.inl (h.disturbed i hi))
  · cases h.stage with
    | sink hcall ho hdraining => exact .sink hcall ho hdraining
    | receiver hcall hreader hdrained hunawaited =>
      exact .receiver hcall hreader hdrained hunawaited
    | ended hcall hreader hdrained hunawaited hterminal =>
      exact .ended hcall hreader hdrained hunawaited ((hphase hterminal).symm ▸ hterminal)
  · refine nothingStarted_of_same rfl rfl (Nat.le_refl _) (fun _ hn => hn) fun hgoing => ?_
    rw [isReceiving, Option.any_some, Option.isNone_iff_eq_none] at hgoing
    have hbefore : i.outcome? = none := by
      cases houtcome : i.outcome? with
      | none => rfl
      | some outcome => cases hgoing.symm.trans (outcome?_of_step hafter houtcome)
    refine ⟨by rw [isReceiving, hi, Option.any_some, hbefore]; rfl, ?_⟩
    rintro ⟨rfl⟩
    cases hafter with
    | close _ _ hclose => cases hclose
    | stop => cases hgoing
    | deliver _ _ hundisturbed => cases (h.disturbed i hi).symm.trans hundisturbed

/-- Once closing has returned nothing is left to wait for. -/
theorem CloseBegun.rest (h : s.CloseBegun) (hidle : s.call = none) :
    s.reader = false ∧ (∀ o, s.outbound = some o → o.Drained) ∧ s.unawaited = false ∧
      s.phase.isTerminal = true := by
  cases h.stage with
  | sink hwaits => cases hidle.symm.trans hwaits
  | receiver hwaits => cases hidle.symm.trans hwaits
  | ended _ hreader hdrained hunawaited hterminal =>
    exact ⟨hreader, hdrained, hunawaited, hterminal⟩

/-- Once the session is closed, a call returns at once and does nothing else. -/
theorem CloseBegun.answer (h : s.CloseBegun) (hidle : s.call = none)
    (haction : action.onSink? s.sends = none)
    (hinbound : action ≠ .inbound .resume) (r : Return) :
    (s.answer r).CloseBegun ∧ NothingStarted s [action] (s.answer r) ∧
    AnswersWhileClosing s (s.answer r) := by
  obtain ⟨hreader, hdrained, hunawaited, hterminal⟩ := h.rest hidle
  refine ⟨⟨h.writer, h.cancelled, h.disturbed,
    .ended rfl hreader hdrained hunawaited hterminal⟩, ?_, fun hwaits => ?_, fun _ => ?_⟩
  · refine nothingStarted_of_same haction rfl (Nat.le_refl _) ?_ fun hgoing => ⟨hgoing, hinbound⟩
    rintro n ⟨⟩
  · rw [hidle] at hwaits
    cases hwaits
  · exact ⟨rfl, List.prefix_append _ _⟩

/-- Once the session is closed, closing again comes to nothing. -/
theorem CloseBegun.close_eq (h : s.CloseBegun) (hidle : s.call = none) (metrics : Metrics) :
    s.close metrics = (s.answer .done, metrics) := by
  have houtbound : s.outbound.map (fun o => { o with cancelled := true }) = s.outbound := by
    cases ho : s.outbound with
    | none => rfl
    | some o => rw [Option.map_some, ← h.cancelled o ho]
  have hinbound : s.inbound.map (fun i => { i with disturbed := true }) = s.inbound := by
    cases hi : s.inbound with
    | none => rfl
    | some i => rw [Option.map_some, ← h.disturbed i hi]
  have hturned : s.turnOn = s := by rw [turnOn, houtbound, hinbound]
  obtain ⟨hreader, -, hunawaited, hterminal⟩ := h.rest hidle
  have hended : s.phase.advance .closed = s.phase := Phase.advance_of_isTerminal hterminal
  simp only [Session.close, hturned, h.writer, closeReader, Session.goOnClosing, hreader,
    hunawaited, Bool.not_false, if_true, advance, hended, Session.answer]

/-- What happens to a session that closes or is closed lets it close, and stay closed. -/
theorem CloseBegun.step (h : s.CloseBegun) (hunique : s.HasUniquePlaces)
    (hnext : next.HasUniquePlaces)
    (hstep : s.step? metrics action = some (next, counted)) :
    next.CloseBegun ∧ NothingStarted s [action] next ∧ AnswersWhileClosing s next := by
  have hlate (hidle : s.call = none) {p : Phase} (hp : p.isTerminal = false) : s.phase ≠ p := by
    rintro rfl
    cases hp.symm.trans (h.rest hidle).2.2.2
  cases step_of_step? hstep with
  | connect _ _ hidle =>
    rw [Session.connect, if_neg (hlate hidle rfl)]
    exact h.answer hidle rfl Action.noConfusion _
  | register _ _ hidle hregister =>
    cases (register_of_ne (hlate hidle rfl) metrics _ _).symm.trans hregister
    exact h.answer hidle rfl Action.noConfusion _
  | startReceiving hidle =>
    rw [Session.startReceiving, if_pos (hlate hidle rfl)]
    exact h.answer hidle rfl Action.noConfusion _
  | waitReceiver hidle =>
    rw [Session.waitReceiver, (h.rest hidle).2.2.1]
    exact h.answer hidle rfl Action.noConfusion _
  | close hidle hclose =>
    cases (h.close_eq hidle metrics).symm.trans hclose
    exact h.answer hidle rfl Action.noConfusion _
  | nextRequest hidle =>
    obtain ⟨hreader, hdrained, hunawaited, hterminal⟩ := h.rest hidle
    refine ⟨⟨h.writer, h.cancelled, h.disturbed,
      .ended hidle hreader hdrained hunawaited hterminal⟩, ?_, answersWhileClosing_of_same rfl rfl⟩
    exact nothingStarted_of_same rfl rfl (Nat.le_refl _) (fun _ hn => hn)
      fun hgoing => ⟨hgoing, Action.noConfusion⟩
  | goOnRegistering hcall => cases not_opening h.stage.not_opening hcall
  | goOnShutting hcall hsink => exact h.goOnShutting hunique hcall hnext hsink
  | goOnWaiting hcall =>
    cases h.stage with
    | sink hwaits => cases hcall.symm.trans hwaits
    | receiver hwaits => cases hcall.symm.trans hwaits
    | ended hidle => cases hcall.symm.trans hidle
  | goOnClosing hcall => exact h.goOnClosing hcall
  | connected _ hcall => cases not_opening h.stage.not_opening hcall
  | refused _ hcall => cases not_opening h.stage.not_opening hcall
  | timedOut hcall => cases not_opening h.stage.not_opening hcall
  | inbound hi hafter => exact h.inbound hi hafter
  | sink haction hother hsink => exact h.sink hunique hnext haction hother hsink

end Session

end Courier
