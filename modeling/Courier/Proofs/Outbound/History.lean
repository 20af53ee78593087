import Courier.Proofs.Outbound.Places
import Courier.Proofs.Outbound.Step
import Courier.Proofs.Steps

/-!
# The history of sending

Sends get hold of the sink one after the other, and the sink takes bytes only from the one that
holds it. So what it has taken are the frames of those that were sent, in turn, and behind them a
part of one frame at most, whose send still holds the sink or has failed and given the sink up for
good. This holds as long as no send is given up from outside, which would leave a torn frame and
keep the sink.
-/

namespace Courier

namespace Outbound

/-- What becomes of a send that is refused before it holds the sink. -/
def refusal (e : Envelope) : Failure :=
  match e.toFrame with
  | .ok _ => .write .closed
  | .error fault => fault.failure

/-- The send that gets hold of the sink between two states. -/
def gained (o next : Outbound) : List Send :=
  match o.active, next.active with
  | none, some a => [a.send]
  | _, _ => []

/-- The sending side, and the sends that have got hold of the sink, in order. -/
structure History where
  outbound : Outbound
  metrics : Metrics
  turns : List Send

/-- The sending side with a new sink. -/
def History.start : History := ⟨.start, .zero, []⟩

/-- What an action leads to, if it can happen. -/
def History.step? (c : History) (action : Action) : Option History :=
  (c.outbound.step? c.metrics action).map fun (outbound, metrics) =>
    ⟨outbound, metrics, c.turns ++ c.outbound.gained outbound⟩

/-- Whether an action gives a send or shutdown up from outside. -/
def Action.isAbandon : Action → Bool
  | .abandon _ => true
  | _ => false

/-- Every number that was begun is in one place, and what waits was begun. -/
structure Numbered (actions : List Action) (o : Outbound) : Prop where
  places_eq (number : Nat) : o.places number = actions.countP (·.begins number)
  places_le (number : Nat) : o.places number ≤ 1
  waiter (w : Waiter) (hw : w ∈ o.waiting) : ∃ a ∈ actions, a.waiter? = some w

/-- Whether an end is explained: by the sink, by the sink being gone, or by the send itself. -/
def OutcomeExplained (actions : List Action) (turns : List Send) (o : Outbound) (number : Nat)
    (result : Except Failure Unit) : Prop :=
  (∃ s ∈ turns, s.number = number) ∨
    (.shutdown number ∈ actions ∧ result = .ok () ∧ o.attached = false) ∨
    ∃ e, .send number e ∈ actions ∧ result = .error (refusal e)

/-- What became of those that got hold of the sink, and of the others. -/
structure OutcomesExplained (actions : List Action) (turns done : List Send) (o : Outbound) :
    Prop where
  turn (s : Send) (hs : s ∈ turns) : ∃ a ∈ actions, a.waiter? = some (.send s)
  distinct : (turns.map Send.number).Nodup
  sent (s : Send) (hs : s ∈ done) : (s.number, .ok ()) ∈ o.finished
  ended (number : Nat) (result : Except Failure Unit) (h : (number, result) ∈ o.finished) :
    OutcomeExplained actions turns o number result

/-- What the sink has taken: the frames of the sends that are done, and a part of one more at
most. -/
inductive SinkState (turns done : List Send) (o : Outbound) : Prop where
  | idle (hattached : o.attached = true) (hactive : o.active = none) (hturns : turns = done)
      (hwritten : o.written = done.flatMap Send.frame)
  | busy (s : Send) (taken : Nat) (hattached : o.attached = true)
      (hactive : o.active = some ⟨s, taken⟩)
      (htaken : taken ≤ s.frame.length) (hturns : turns = done ++ [s])
      (hwritten : o.written = done.flatMap Send.frame ++ s.frame.take taken)
  | torn (s : Send) (part : Bytes) (failure : Failure) (hattached : o.attached = false)
      (hactive : o.active = none) (hpart : part <+: s.frame) (hturns : turns = done ++ [s])
      (hfailed : (s.number, .error failure) ∈ o.finished)
      (hwritten : o.written = done.flatMap Send.frame ++ part)
  | shut (hattached : o.attached = false) (hactive : o.active = none) (hturns : turns = done)
      (hwritten : o.written = done.flatMap Send.frame)

/-- All that is known of the sending side. -/
structure Sound (actions : List Action) (turns done : List Send) (o : Outbound) : Prop where
  numbered : Numbered actions o
  outcomes : OutcomesExplained actions turns done o
  sink : SinkState turns done o

variable {actions : List Action} {turns done : List Send} {o next : Outbound}

/-! ## Numbers -/

/-- An action begins what waits after it. -/
theorem begins_of_waiter? {a : Action} {w : Waiter} (h : a.waiter? = some w) (number : Nat) :
    a.begins number = decide (w.number = number) := by
  cases a with
  | send n e =>
    simp only [Action.waiter?] at h
    split at h <;> cases h
    rfl
  | shutdown n =>
    cases h
    rfl
  | _ => cases h

/-- What waits was begun by a send of its envelope or by a shutdown. -/
theorem waiter?_eq_some_send_iff (a : Action) (s : Send) :
    a.waiter? = some (.send s) ↔
      ∃ e, a = .send s.number e ∧ e.toFrame = .ok s.frame ∧ e.subject = s.subject := by
  constructor
  · intro h
    cases a with
    | send n e =>
      simp only [Action.waiter?] at h
      split at h
      · rename_i frame hframe
        cases h
        exact ⟨e, rfl, hframe, rfl⟩
      · cases h
    | _ => cases h
  · rintro ⟨e, rfl, hframe, hsubject⟩
    simp only [Action.waiter?, hframe, hsubject]

/-- What waits to shut the sink down was begun by a shutdown. -/
theorem waiter?_eq_some_shutdown_iff (a : Action) (number : Nat) :
    a.waiter? = some (.shutdown number) ↔ a = .shutdown number := by
  constructor
  · intro h
    cases a with
    | send n e =>
      simp only [Action.waiter?] at h
      split at h <;> cases h
    | shutdown n =>
      cases h
      rfl
    | _ => cases h
  · rintro rfl
    rfl

/-- Looking again brings nothing to more places than it was in. -/
theorem Poll.places_le {w : Waiter} (hpoll : o.Poll w next) (hw : w ∈ o.waiting) (n : Nat) :
    next.places n ≤ o.places n := by
  have hgone := places_dismiss_le hw n
  cases hpoll with
  | wait => exact Nat.le_refl _
  | close s =>
    rw [fail, places_finish]
    exact hgone
  | hold s huncancelled hactive =>
    rw [places_hold (o := o.dismiss s.number) hactive]
    exact hgone
  | shut number =>
    rw [places_finish]
    exact hgone

/-- Only what begins a number brings it to one more place. -/
theorem Step.places_le {metrics counted : Metrics} {action : Action}
    (hstep : o.Step metrics action next counted) (n : Nat) :
    next.places n ≤ o.places n + if action.begins n then 1 else 0 := by
  cases hstep with
  | reject number e fault =>
    rw [places_finish]
    simp [Action.begins, eq_comm]
  | begins w hnew hw hpoll =>
    have hmore := hpoll.places_le (List.mem_append_right _ List.mem_cons_self) n
    rw [places_wait] at hmore
    simpa [begins_of_waiter? hw] using hmore
  | look => exact Nat.le_add_right _ _
  | cancel a hactive =>
    have hless := places_detach hactive n
    rw [fail, places_finish]
    omega
  | poll w hw hpoll => exact Nat.le_add_right_of_le (hpoll.places_le hw n)
  | accept a count hactive =>
    have hsame : o.places n = { o with active := some { a with taken := a.taken + count } }.places n
      := by simp [places, hactive]
    rw [hsame]
    exact Nat.le_add_right _ _
  | flush a hactive =>
    have hless := places_release hactive n
    rw [places_finish]
    omega
  | refuse a reason hactive =>
    have hless := places_detach hactive n
    rw [fail, places_finish]
    omega
  | abandonHolder a hactive =>
    have hless := places_release hactive n
    omega
  | abandonWaiter w hw =>
    have hless := places_dismiss_le hw n
    omega
  | turn => exact Nat.le_add_right _ _

/-- A number is known only where it was, or was begun. -/
theorem Step.isKnown {metrics counted : Metrics} {action : Action} {n : Nat}
    (hstep : o.Step metrics action next counted) (h : next.isKnown n = true) :
    o.isKnown n = true ∨ action.begins n = true := by
  rw [isKnown_iff] at h ⊢
  have hplaces := hstep.places_le n
  split at hplaces
  · exact Or.inr ‹_›
  · exact Or.inl (by omega)

/-- What waits has not come to its end. -/
theorem Numbered.not_finished_of_waiting (h : Numbered actions o) {w : Waiter} (hw : w ∈ o.waiting)
    {result : Except Failure Unit} : (w.number, result) ∉ o.finished := by
  intro hend
  have hwaits : 0 < o.waiting.countP (·.number = w.number) :=
    List.countP_pos_iff.2 ⟨w, hw, by simp⟩
  have hends : 0 < o.finished.countP (·.1 = w.number) := List.countP_pos_iff.2 ⟨_, hend, by simp⟩
  have hle := h.places_le w.number
  rw [places] at hle
  omega

/-- What holds the sink has not come to its end. -/
theorem Numbered.not_finished_of_active (h : Numbered actions o) {a : Active}
    (ha : o.active = some a)
    {result : Except Failure Unit} : (a.send.number, result) ∉ o.finished := by
  intro hend
  have hends : 0 < o.finished.countP (·.1 = a.send.number) :=
    List.countP_pos_iff.2 ⟨_, hend, by simp⟩
  have hholds : 0 < o.active.toList.countP (·.send.number = a.send.number) :=
    List.countP_pos_iff.2 ⟨a, by simp [ha], by simp⟩
  have hle := h.places_le a.send.number
  rw [places] at hle
  omega

/-- Two actions that begin the same number are the same. -/
theorem Numbered.begins_unique (h : Numbered actions o) {a b : Action} {number : Nat}
    (ha : a ∈ actions)
    (hb : b ∈ actions) (hna : a.begins number = true) (hnb : b.begins number = true) : a = b :=
  eq_of_countP_le_one (h.places_eq number ▸ h.places_le number) ha hb hna hnb

/-- Numbers stay where they are when nothing begins or ends. -/
theorem Numbered.of_places (h : Numbered actions o) (hplaces : ∀ n, next.places n = o.places n)
    (hwaiting : ∀ w ∈ next.waiting, w ∈ o.waiting) : Numbered actions next where
  places_eq n := (hplaces n).trans (h.places_eq n)
  places_le n := hplaces n ▸ h.places_le n
  waiter w hw := h.waiter w (hwaiting w hw)

/-- An action that begins a new number puts it in one place. -/
theorem Numbered.of_begins (h : Numbered actions o) {a : Action} {number : Nat}
    (hbegins : ∀ n, a.begins n = decide (number = n)) (hnew : o.isKnown number = false)
    (hplaces : ∀ n, next.places n = o.places n + if number = n then 1 else 0)
    (hwaiting : ∀ w ∈ next.waiting, w ∈ o.waiting ∨ a.waiter? = some w) :
    Numbered (actions ++ [a]) next where
  places_eq n := by
    simp only [hplaces, h.places_eq, List.countP_append, List.countP_singleton, hbegins,
      decide_eq_true_eq]
  places_le n := by
    have hfree : ¬0 < o.places number := by
      rw [← isKnown_iff, hnew]
      exact Bool.false_ne_true
    have hle := h.places_le n
    rw [hplaces]
    split
    · rename_i heq
      subst heq
      omega
    · exact hle
  waiter w hw := by
    rcases hwaiting w hw with hw | hw
    · obtain ⟨b, hb, hbw⟩ := h.waiter w hw
      exact ⟨b, List.mem_append_left _ hb, hbw⟩
    · exact ⟨a, List.mem_append_right _ List.mem_cons_self, hw⟩

/-- An action that begins nothing changes no number. -/
theorem Numbered.snoc (h : Numbered actions o) {a : Action} (ha : ∀ n, a.begins n = false) :
    Numbered (actions ++ [a]) o where
  places_eq n := by simp [List.countP_append, ha, h.places_eq]
  places_le := h.places_le
  waiter w hw := by
    obtain ⟨b, hb, hbw⟩ := h.waiter w hw
    exact ⟨b, List.mem_append_left _ hb, hbw⟩

/-! ## Ends -/

/-- What explains an end goes on to explain it. -/
theorem OutcomeExplained.mono {number : Nat} {result : Except Failure Unit} (later : List Action)
    (more : List Send) (h : OutcomeExplained actions turns o number result)
    (hdetached : o.attached = false → next.attached = false) :
    OutcomeExplained (actions ++ later) (turns ++ more) next number result := by
  rcases h with ⟨s, hs, hnumber⟩ | ⟨hbegan, hresult, hgone⟩ | ⟨e, he, hresult⟩
  · exact Or.inl ⟨s, List.mem_append_left _ hs, hnumber⟩
  · exact Or.inr (Or.inl ⟨List.mem_append_left _ hbegan, hresult, hdetached hgone⟩)
  · exact Or.inr (Or.inr ⟨e, List.mem_append_left _ he, hresult⟩)

/-- An action leaves explained what was explained. -/
theorem OutcomesExplained.snoc (h : OutcomesExplained actions turns done o) (a : Action) :
    OutcomesExplained (actions ++ [a]) turns done o where
  turn s hs := by
    obtain ⟨b, hb, hbs⟩ := h.turn s hs
    exact ⟨b, List.mem_append_left _ hb, hbs⟩
  distinct := h.distinct
  sent := h.sent
  ended number result hend := by
    have hexplained := (h.ended number result hend).mono [a] [] id
    rwa [List.append_nil] at hexplained

/-- More ends may be added, if they are explained. -/
theorem OutcomesExplained.finish (h : OutcomesExplained actions turns done o)
    {more : List (Nat × Except Failure Unit)}
    (hdetached : o.attached = false → next.attached = false)
    (hfinished : next.finished = o.finished ++ more)
    (hmore : ∀ entry ∈ more, OutcomeExplained actions turns next entry.1 entry.2) :
    OutcomesExplained actions turns done next where
  turn := h.turn
  distinct := h.distinct
  sent s hs := hfinished ▸ List.mem_append_left _ (h.sent s hs)
  ended number result hend := by
    rw [hfinished] at hend
    rcases List.mem_append.1 hend with hend | hend
    · have hexplained := (h.ended number result hend).mono [] [] hdetached
      rwa [List.append_nil, List.append_nil] at hexplained
    · exact hmore _ hend

/-- What was explained stays so when nothing comes to its end and the sink is not given up. -/
theorem OutcomesExplained.of_same (h : OutcomesExplained actions turns done o)
    (hattached : next.attached = o.attached)
    (hfinished : next.finished = o.finished) : OutcomesExplained actions turns done next := by
  have hkept : next.finished = o.finished ++ [] := by rw [hfinished, List.append_nil]
  apply h.finish (fun hgone => hattached.trans hgone) hkept
  intro entry hentry
  cases hentry

/-- A send that was begun and is not done may be the next that gets hold of the sink. -/
theorem OutcomesExplained.hold (h : OutcomesExplained actions turns done o) {s : Send}
    (hbegan : ∃ a ∈ actions, a.waiter? = some (.send s)) (hnew : ∀ t ∈ turns, t.number ≠ s.number)
    (hattached : next.attached = o.attached) (hfinished : next.finished = o.finished) :
    OutcomesExplained actions (turns ++ [s]) done next where
  turn t ht := by
    rcases List.mem_append.1 ht with ht | ht
    · exact h.turn t ht
    · obtain rfl := List.mem_singleton.1 ht
      exact hbegan
  distinct := by
    rw [List.map_append, List.map_singleton, List.nodup_append]
    refine ⟨h.distinct, by simp, ?_⟩
    intro n hn m hm
    obtain ⟨t, ht, rfl⟩ := List.mem_map.1 hn
    obtain rfl := List.mem_singleton.1 hm
    exact hnew t ht
  sent t ht := hfinished ▸ h.sent t ht
  ended number result hend := by
    rw [hfinished] at hend
    have hexplained : OutcomeExplained (actions ++ []) (turns ++ [s]) next number result :=
      (h.ended number result hend).mono [] [s] fun hgone => hattached.trans hgone
    rwa [List.append_nil] at hexplained

/-- The sink stays as it is when nothing is written and nobody gets hold of it or lets go. -/
theorem SinkState.of_same (h : SinkState turns done o) (hattached : next.attached = o.attached)
    (hactive : next.active = o.active) (hwritten : next.written = o.written)
    (hfinished : ∀ entry ∈ o.finished, entry ∈ next.finished) : SinkState turns done next := by
  cases h with
  | idle hsame hfree hturns hall =>
    exact .idle (hattached.trans hsame) (hactive.trans hfree) hturns (hwritten.trans hall)
  | busy s taken hsame hholds htaken hturns hall =>
    exact .busy s taken (hattached.trans hsame) (hactive.trans hholds) htaken hturns
      (hwritten.trans hall)
  | torn s part failure hsame hfree hpart hturns hfailed hall =>
    exact .torn s part failure (hattached.trans hsame) (hactive.trans hfree) hpart hturns
      (hfinished _ hfailed) (hwritten.trans hall)
  | shut hsame hfree hturns hall =>
    exact .shut (hattached.trans hsame) (hactive.trans hfree) hturns (hwritten.trans hall)

/-- A sink that nobody holds can be taken away, and what it has taken stays whole. -/
theorem SinkState.takeAway (h : SinkState turns done o) (hfree : o.active = none)
    (hattached : next.attached = false) (hactive : next.active = none)
    (hwritten : next.written = o.written)
    (hfinished : ∀ entry ∈ o.finished, entry ∈ next.finished) :
    SinkState turns done next := by
  cases h with
  | idle _ _ hturns hall => exact .shut hattached hactive hturns (hwritten.trans hall)
  | busy _ _ _ hholds => cases hfree.symm.trans hholds
  | torn s part failure _ _ hpart hturns hfailed hall =>
    exact .torn s part failure hattached hactive hpart hturns (hfinished _ hfailed)
      (hwritten.trans hall)
  | shut _ _ hturns hall => exact .shut hattached hactive hturns (hwritten.trans hall)

/-- Nobody gets hold of the sink while the same send holds it. -/
theorem gained_of_active_eq (h : next.active = o.active) : o.gained next = [] := by
  rw [gained, h]
  cases o.active <;> rfl

/-- Nobody gets hold of the sink where nobody holds it. -/
theorem gained_of_active_eq_none (h : next.active = none) : o.gained next = [] := by
  rw [gained, h]
  cases o.active <;> rfl

/-! ## What each step keeps -/

/-- The send that holds the sink is the last that got hold of it. -/
theorem Sound.holds (h : Sound actions turns done o) {a : Active} (ha : o.active = some a) :
    o.attached = true ∧ a.taken ≤ a.send.frame.length ∧ turns = done ++ [a.send] ∧
      o.written = done.flatMap Send.frame ++ a.send.frame.take a.taken := by
  cases h.sink with
  | busy s taken hattached hactive htaken hturns hwritten =>
    obtain rfl : a = ⟨s, taken⟩ := Option.some.inj (ha.symm.trans hactive)
    exact ⟨hattached, htaken, hturns, hwritten⟩
  | idle _ hactive => cases ha.symm.trans hactive
  | torn _ _ _ _ hactive => cases ha.symm.trans hactive
  | shut _ hactive => cases ha.symm.trans hactive

/-- A sink that nobody holds has taken the frames of all that got hold of it. -/
theorem Sound.idle (h : Sound actions turns done o) (hattached : o.attached = true)
    (hactive : o.active = none) : turns = done ∧ o.written = done.flatMap Send.frame := by
  cases h.sink with
  | idle _ _ hturns hwritten => exact ⟨hturns, hwritten⟩
  | busy _ _ _ hholds => cases hactive.symm.trans hholds
  | torn _ _ _ hgone => cases hattached.symm.trans hgone
  | shut hgone => cases hattached.symm.trans hgone

/-- The turns are as they were where nobody gets hold of the sink. -/
theorem Sound.of_gained (h : Sound actions turns done next) (hgained : o.gained next = []) :
    Sound actions (turns ++ o.gained next) done next := by
  rw [hgained, List.append_nil]
  exact h

/-- Looking again at what is waited for keeps all that is known. -/
theorem Sound.poll (h : Sound actions turns done o) {w : Waiter} (hw : w ∈ o.waiting)
    (hpoll : o.Poll w next) : Sound actions (turns ++ o.gained next) done next := by
  have hdismissed := places_dismiss hw (h.numbered.places_le w.number)
  cases hpoll with
  | wait => exact h.of_gained (gained_of_active_eq rfl)
  | close s =>
    obtain ⟨a, ha, hwaiter⟩ := h.numbered.waiter _ hw
    obtain ⟨e, rfl, hframe, -⟩ := (waiter?_eq_some_send_iff a s).1 hwaiter
    refine Sound.of_gained ⟨h.numbered.of_places ?_ fun v hv => (List.mem_filter.1 hv).1,
      h.outcomes.finish id rfl ?_, h.sink.of_same rfl rfl rfl fun _ => List.mem_append_left _⟩
        (gained_of_active_eq rfl)
    · intro n
      exact (places_finish _ _ _ _).trans (hdismissed n)
    · intro entry hentry
      obtain rfl := List.mem_singleton.1 hentry
      refine Or.inr (Or.inr ⟨e, ha, ?_⟩)
      simp only [refusal, hframe]
  | hold s huncancelled hactive hattached =>
    have hgained : o.gained { o.dismiss s.number with active := some ⟨s, 0⟩ } = [s] := by
      simp only [gained, hactive]
    obtain ⟨hturns, hwritten⟩ := h.idle hattached hactive
    rw [hgained]
    have hnew : ∀ t ∈ turns, t.number ≠ s.number := by
      intro t ht heq
      rw [hturns] at ht
      exact h.numbered.not_finished_of_waiting hw (heq ▸ h.outcomes.sent t ht)
    refine ⟨h.numbered.of_places ?_ fun v hv => (List.mem_filter.1 hv).1,
      h.outcomes.hold (h.numbered.waiter _ hw) hnew rfl rfl,
      .busy s 0 hattached rfl (Nat.zero_le _) (by rw [hturns]) ?_⟩
    · intro n
      exact (places_hold (o := o.dismiss s.number) hactive ⟨s, 0⟩ n).trans (hdismissed n)
    · rw [List.take_zero, List.append_nil]
      exact hwritten
  | shut number hactive =>
    obtain ⟨a, ha, hwaiter⟩ := h.numbered.waiter _ hw
    obtain rfl := (waiter?_eq_some_shutdown_iff a number).1 hwaiter
    refine Sound.of_gained ⟨h.numbered.of_places ?_ fun v hv => (List.mem_filter.1 hv).1,
      h.outcomes.finish (fun _ => rfl) rfl ?_,
      h.sink.takeAway hactive rfl hactive rfl fun _ => List.mem_append_left _⟩
        (gained_of_active_eq_none hactive)
    · intro n
      exact (places_finish _ _ _ _).trans (hdismissed n)
    · intro entry hentry
      obtain rfl := List.mem_singleton.1 hentry
      exact Or.inr (Or.inl ⟨ha, rfl, rfl⟩)

/-- Giving up the sink keeps all that is known, whatever made the send fail. -/
theorem Sound.breaks (h : Sound actions turns done o) {a : Active} (ha : o.active = some a)
    (fault : WriteFault) : Sound actions turns done (o.detach.fail a.send.number fault) := by
  obtain ⟨-, -, hturns, hwritten⟩ := h.holds ha
  refine ⟨h.numbered.of_places ?_ fun _ => id, h.outcomes.finish (fun _ => rfl) rfl ?_,
    .torn a.send (a.send.frame.take a.taken) (.write fault) rfl rfl (List.take_prefix _ _) hturns
      (List.mem_append_right _ List.mem_cons_self) hwritten⟩
  · intro n
    exact (places_finish _ _ _ _).trans (places_detach ha n)
  · intro entry hentry
    obtain rfl := List.mem_singleton.1 hentry
    exact Or.inl ⟨a.send, hturns ▸ List.mem_append_right _ List.mem_cons_self, rfl⟩

/-- A frame that has been taken as a whole and flushed is one more of those that were sent. -/
theorem Sound.flushes (h : Sound actions turns done o) {a : Active} (ha : o.active = some a)
    (htaken : a.taken = a.send.frame.length) :
    Sound actions turns (done ++ [a.send])
      ({ o with active := none }.finish a.send.number (.ok ())) := by
  obtain ⟨hattached, -, hturns, hwritten⟩ := h.holds ha
  have houtcomes : OutcomesExplained actions turns done
      ({ o with active := none }.finish a.send.number (.ok ())) := by
    refine h.outcomes.finish id rfl ?_
    intro entry hentry
    obtain rfl := List.mem_singleton.1 hentry
    exact Or.inl ⟨a.send, hturns ▸ List.mem_append_right _ List.mem_cons_self, rfl⟩
  refine ⟨h.numbered.of_places ?_ fun _ => id,
    ⟨houtcomes.turn, houtcomes.distinct, ?_, houtcomes.ended⟩, .idle hattached rfl hturns ?_⟩
  · intro n
    exact (places_finish _ _ _ _).trans (places_release ha n)
  · intro s hs
    rcases List.mem_append.1 hs with hs | hs
    · exact houtcomes.sent s hs
    · obtain rfl := List.mem_singleton.1 hs
      exact List.mem_append_right _ List.mem_cons_self
  · rw [htaken, List.take_length] at hwritten
    rw [List.flatMap_append, List.flatMap_singleton]
    exact hwritten

/-- Bytes that the sink takes are the next ones of the frame. -/
theorem Sound.accepts (h : Sound actions turns done o) {a : Active} (ha : o.active = some a)
    (count : Nat) (hcount : a.taken + count ≤ a.send.frame.length) :
    Sound actions turns done { o with
      written := o.written ++ (a.send.frame.drop a.taken).take count
      active := some { a with taken := a.taken + count } } := by
  obtain ⟨hattached, -, hturns, hwritten⟩ := h.holds ha
  refine ⟨h.numbered.of_places ?_ fun _ => id,
    h.outcomes.of_same rfl rfl, .busy a.send (a.taken + count) hattached rfl hcount hturns ?_⟩
  · intro n
    rw [places_hold (o := { o with
        written := o.written ++ (a.send.frame.drop a.taken).take count, active := none }) rfl]
    exact places_release ha n
  · rw [List.take_add, ← List.append_assoc, ← hwritten]

/-- A send that cannot be framed comes to its end at once. -/
theorem Sound.rejects (h : Sound actions turns done o) {number : Nat} {e : Envelope}
    {fault : Frame.Fault} (hnew : o.isKnown number = false) (hframe : e.toFrame = .error fault) :
    Sound (actions ++ [.send number e]) turns done (o.finish number (.error fault.failure)) := by
  refine ⟨h.numbered.of_begins (fun _ => rfl) hnew (fun _ => places_finish _ _ _ _) fun _ => Or.inl,
    (h.outcomes.snoc _).finish id rfl ?_,
    h.sink.of_same rfl rfl rfl fun _ => List.mem_append_left _⟩
  intro entry hentry
  obtain rfl := List.mem_singleton.1 hentry
  refine Or.inr (Or.inr ⟨e, List.mem_append_right _ List.mem_cons_self, ?_⟩)
  simp only [refusal, hframe]

/-- What begins to wait is known of as well. -/
theorem Sound.waits (h : Sound actions turns done o) {a : Action} {w : Waiter}
    (hnew : o.isKnown w.number = false) (ha : a.waiter? = some w) :
    Sound (actions ++ [a]) turns done { o with waiting := o.waiting ++ [w] } := by
  refine ⟨h.numbered.of_begins (begins_of_waiter? ha) hnew (fun n => places_wait o w n)
    ?_, (h.outcomes.snoc a).of_same rfl rfl, h.sink.of_same rfl rfl rfl fun _ => id⟩
  intro v hv
  rcases List.mem_append.1 hv with hv | hv
  · exact Or.inl hv
  · exact Or.inr (List.mem_singleton.1 hv ▸ ha)

/-- What begins nothing leaves the outcomes as they were. -/
theorem Sound.snoc (h : Sound actions turns done o) (a : Action) (ha : ∀ n, a.begins n = false) :
    Sound (actions ++ [a]) turns done o :=
  ⟨h.numbered.snoc ha, h.outcomes.snoc a, h.sink⟩

/-- Every step keeps all that is known, unless a send is given up from outside. -/
theorem Sound.step {metrics counted : Metrics} {action : Action} (h : Sound actions turns done o)
    (hstep : o.Step metrics action next counted) (haction : action.isAbandon = false) :
    ∃ more, Sound (actions ++ [action]) (turns ++ o.gained next) more next := by
  cases hstep with
  | reject number e fault hnew hframe =>
    exact ⟨done, (h.rejects hnew hframe).of_gained (gained_of_active_eq rfl)⟩
  | begins w hnew hw hpoll =>
    exact ⟨done, (h.waits hnew hw).poll (List.mem_append_right _ List.mem_cons_self) hpoll⟩
  | look number =>
    have hsame := h.snoc (.poll number) fun _ => rfl
    exact ⟨done, hsame.of_gained (gained_of_active_eq rfl)⟩
  | cancel a hactive =>
    have hbroken := (h.breaks hactive (.cancelled a.send.subject)).snoc (.poll a.send.number)
      fun _ => rfl
    exact ⟨done, hbroken.of_gained (gained_of_active_eq_none rfl)⟩
  | poll w hw hpoll => exact ⟨done, (h.poll hw hpoll).snoc (.poll w.number) fun _ => rfl⟩
  | accept a count hactive huncancelled hcount =>
    have haccepted := (h.accepts hactive count hcount).snoc (.accept count) fun _ => rfl
    exact ⟨done, haccepted.of_gained (by simp only [gained, hactive])⟩
  | flush a hactive huncancelled htaken =>
    have hflushed := (h.flushes hactive htaken).snoc .flush fun _ => rfl
    exact ⟨done ++ [a.send], hflushed.of_gained (gained_of_active_eq_none rfl)⟩
  | refuse a reason hactive =>
    have hbroken := (h.breaks hactive (.failed a.send.subject reason)).snoc (.refuse reason)
      fun _ => rfl
    exact ⟨done, hbroken.of_gained (gained_of_active_eq_none rfl)⟩
  | abandonHolder => cases haction
  | abandonWaiter => cases haction
  | turn on =>
    have hturned : Sound actions turns done { o with cancelled := on } :=
      ⟨h.numbered.of_places (fun _ => rfl) fun _ => id, h.outcomes.of_same rfl rfl,
        h.sink.of_same rfl rfl rfl fun _ => id⟩
    exact ⟨done, (hturned.snoc (.turn on) fun _ => rfl).of_gained (gained_of_active_eq rfl)⟩

/-- At first there is nothing to know. -/
theorem sound_start : Sound [] [] [] start where
  numbered := ⟨fun _ => rfl, fun _ => Nat.zero_le 1, fun _ hw => absurd hw List.not_mem_nil⟩
  outcomes := ⟨fun _ hs => absurd hs List.not_mem_nil, List.nodup_nil,
    fun _ hs => absurd hs List.not_mem_nil, fun _ _ hend => absurd hend List.not_mem_nil⟩
  sink := .idle rfl rfl rfl rfl

/-- All that is known is known after any actions that give nothing up from outside. -/
theorem History.sound_of_after? {c : History} (h : after? History.step? .start actions = some c)
    (hkept : ∀ a ∈ actions, a.isAbandon = false) :
      ∃ done, Sound actions c.turns done c.outbound := by
  refine after?_induction (motive := fun actions c => (∀ a ∈ actions, a.isAbandon = false) →
    ∃ done, Sound actions c.turns done c.outbound) (fun _ => ⟨[], sound_start⟩) ?_ h hkept
  intro actions c a next _ hsound hstep hkept
  obtain ⟨done, hsound⟩ := hsound fun b hb => hkept b (List.mem_append_left _ hb)
  obtain ⟨⟨outbound, metrics⟩, houtbound, rfl⟩ := Option.map_eq_some_iff.1 hstep
  exact hsound.step (step_of_step? houtbound) (hkept a (List.mem_append_right _ List.mem_cons_self))

end Outbound

end Courier
