import Courier.Proofs.Outbound.History

/-!
# Whole frames on the way out

The sink takes the frames of the sends that were sent, whole and in turn, and behind them at most a
part of one more. Where that part cannot be completed the sink is given up, and from then on nothing
is written and no send gets hold of it again, so a torn frame is the last thing on the wire
(`frames_stay_whole`).
-/

namespace Courier

namespace Outbound

variable {actions : List Action} {turns done : List Send} {o next : Outbound}

/-! ## A sink that was given up -/

/-- There is no sink, so nobody holds it. -/
structure Detached (o : Outbound) : Prop where
  attached : o.attached = false
  active : o.active = none

/-- What got hold of the sink is done, or holds it still, or has failed and given it up. -/
theorem Sound.mem_turns (h : Sound actions turns done o) {s : Send} (hs : s ∈ turns) :
    s ∈ done ∨ (∃ taken, o.active = some ⟨s, taken⟩) ∨
      o.attached = false ∧ ∃ failure, (s.number, .error failure) ∈ o.finished := by
  cases h.sink with
  | idle _ _ hturns => exact Or.inl (hturns ▸ hs)
  | shut _ _ hturns => exact Or.inl (hturns ▸ hs)
  | busy t taken _ hactive _ hturns =>
    rw [hturns] at hs
    rcases List.mem_append.1 hs with hs | hs
    · exact Or.inl hs
    · obtain rfl := List.mem_singleton.1 hs
      exact Or.inr (Or.inl ⟨taken, hactive⟩)
  | torn t _ failure hattached _ _ hturns hfailed =>
    rw [hturns] at hs
    rcases List.mem_append.1 hs with hs | hs
    · exact Or.inl hs
    · obtain rfl := List.mem_singleton.1 hs
      exact Or.inr (Or.inr ⟨hattached, failure, hfailed⟩)

/-- A sink that was given up is held by nobody, and all that ever held it have come to their end. -/
theorem Sound.detached (h : Sound actions turns done o) (hattached : o.attached = false) :
    Detached o ∧ ∀ s ∈ turns, ∃ result, (s.number, result) ∈ o.finished := by
  have hactive : o.active = none := by
    cases hcase : o.active with
    | none => rfl
    | some a => cases hattached.symm.trans (h.holds hcase).1
  refine ⟨⟨hattached, hactive⟩, ?_⟩
  intro s hs
  rcases h.mem_turns hs with hdone | ⟨taken, hholds⟩ | ⟨-, failure, hfailed⟩
  · exact ⟨_, h.outcomes.sent s hdone⟩
  · cases hactive.symm.trans hholds
  · exact ⟨_, hfailed⟩

/-- Nobody gets hold of a sink that was given up by looking again. -/
theorem Detached.poll (h : Detached o) {w : Waiter} (hpoll : o.Poll w next) :
    Detached next ∧ next.written = o.written := by
  cases hpoll with
  | wait => exact ⟨h, rfl⟩
  | close => exact ⟨⟨h.attached, h.active⟩, rfl⟩
  | hold _ _ _ hattached => cases h.attached.symm.trans hattached
  | shut => exact ⟨⟨rfl, h.active⟩, rfl⟩

/-- Nothing is written once the sink was given up, and it stays so. -/
theorem Detached.step {metrics counted : Metrics} {action : Action} (h : Detached o)
    (hstep : o.Step metrics action next counted) : Detached next ∧ next.written = o.written := by
  have hfree {a : Active} (ha : o.active = some a) : False := by cases h.active.symm.trans ha
  cases hstep with
  | reject => exact ⟨⟨h.attached, h.active⟩, rfl⟩
  | begins w _ _ hpoll =>
    have hwaits : Detached { o with waiting := o.waiting ++ [w] } := ⟨h.attached, h.active⟩
    exact hwaits.poll hpoll
  | look => exact ⟨h, rfl⟩
  | cancel a hactive => exact (hfree hactive).elim
  | poll w _ hpoll => exact h.poll hpoll
  | accept a _ hactive => exact (hfree hactive).elim
  | flush a hactive => exact (hfree hactive).elim
  | refuse a _ hactive => exact (hfree hactive).elim
  | abandonHolder a hactive => exact (hfree hactive).elim
  | abandonWaiter => exact ⟨⟨h.attached, h.active⟩, rfl⟩
  | turn => exact ⟨⟨h.attached, h.active⟩, rfl⟩

/-- Whatever happens to a sink that was given up, it takes nothing and nobody gets hold of it. -/
theorem Detached.after {c d : History} {later : List Action} (h : Detached c.outbound)
    (hafter : after? History.step? c later = some d) :
    Detached d.outbound ∧ d.outbound.written = c.outbound.written ∧ d.turns = c.turns := by
  refine after?_induction (motive := fun _ d => Detached d.outbound ∧
    d.outbound.written = c.outbound.written ∧ d.turns = c.turns) ⟨h, rfl, rfl⟩ ?_ hafter
  rintro _ d a next _ ⟨hdetached, hwritten, hturns⟩ hstep
  obtain ⟨⟨outbound, metrics⟩, houtbound, rfl⟩ := Option.map_eq_some_iff.1 hstep
  obtain ⟨hnext, hsame⟩ := hdetached.step (step_of_step? houtbound)
  have hgained : d.outbound.gained outbound = [] := gained_of_active_eq_none hnext.active
  refine ⟨hnext, hsame.trans hwritten, ?_⟩
  simp only [hgained, List.append_nil]
  exact hturns

/-- The first that waits for a sink that was given up comes to its end when it looks again. -/
theorem Detached.waiting_pollWaiter (h : Detached o) {w : Waiter} {rest : List Waiter}
    (hwaiting : o.waiting = w :: rest) (hrest : ∀ v ∈ rest, v.number ≠ w.number) :
    (o.pollWaiter w).waiting = rest := by
  have hdismissed : (o.dismiss w.number).waiting = rest := by
    rw [waiting_dismiss, hwaiting, List.filter_cons_of_neg (by simp),
      List.filter_eq_self.2 (by simpa using hrest)]
  have hturn : o.isTurn w.number = true := by simp [h.active, hwaiting]
  cases w with
  | send s =>
    have hnumber : o.isTurn s.number = true := hturn
    simp only [pollWaiter, hnumber, h.attached]
    split <;> exact hdismissed
  | shutdown number =>
    have hnumber : o.isTurn number = true := hturn
    simp only [pollWaiter, hnumber, if_true]
    exact hdismissed

/-- When everybody who waits for a sink that was given up looks again, in turn, nobody waits. -/
theorem Detached.polls {c : History} (h : Detached c.outbound)
    (honce : ∀ n, c.outbound.waiting.countP (·.number = n) ≤ 1) :
    ∃ d, after? History.step? c (c.outbound.waiting.map fun w => .poll w.number) = some d ∧
      d.outbound.waiting = [] := by
  induction hwaiting : c.outbound.waiting generalizing c with
  | nil => exact ⟨c, rfl, hwaiting⟩
  | cons w rest ih =>
    simp only [hwaiting, List.countP_cons] at honce
    have hrest : ∀ v ∈ rest, v.number ≠ w.number := by
      intro v hv heq
      have hpos : 0 < rest.countP (·.number = w.number) := List.countP_pos_iff.2 ⟨v,
        hv, by simpa using heq⟩
      have hle := honce w.number
      rw [if_pos (decide_eq_true rfl)] at hle
      omega
    have hstep : c.step? (.poll w.number) = some ⟨c.outbound.pollWaiter w, c.metrics,
        c.turns ++ c.outbound.gained (c.outbound.pollWaiter w)⟩ := by
      simp [History.step?, step?, poll?, h.active, hwaiting]
    have hleft := h.waiting_pollWaiter hwaiting hrest
    have hless (n : Nat) : (c.outbound.pollWaiter w).waiting.countP (·.number = n) ≤ 1 := by
      have hle := honce n
      rw [hleft]
      omega
    obtain ⟨d, hd, hnone⟩ := ih (c := ⟨c.outbound.pollWaiter w, c.metrics,
      c.turns ++ c.outbound.gained (c.outbound.pollWaiter w)⟩) (h.poll (poll_pollWaiter _ w)).1
      hless hleft
    refine ⟨d, ?_, hnone⟩
    rw [List.map_cons, after?, hstep]
    exact hd

/-! ## Refusals -/

/-- What comes to an end is what the end is noted of. -/
theorem eq_of_result?_finish {number n : Nat} {result r : Except Failure Unit}
    (hnone : o.result? n = none) (h : (o.finish number result).result? n = some r) :
    number = n ∧ result = r := by
  rw [result?_finish, hnone, Option.none_or, Option.ite_none_right_eq_some] at h
  exact ⟨h.1.symm, Option.some.inj h.2⟩

/-- What is not known does not wait. -/
theorem dismiss_of_isKnown_eq_false {number : Nat} (h : o.isKnown number = false) :
    o.dismiss number = o := by
  have hwaiting : o.waiting.filter (fun w => w.number ≠ number) = o.waiting := by
    refine List.filter_eq_self.2 fun w hw => decide_eq_true fun hnumber => ?_
    have hknown : o.isKnown number = true := by
      rw [isKnown, Bool.or_eq_true, Bool.or_eq_true]
      exact Or.inl (Or.inr (List.any_eq_true.2 ⟨w, hw, decide_eq_true hnumber⟩))
    rw [h] at hknown
    cases hknown
  rw [dismiss, hwaiting]

/-- What does not wait yet is dismissed by not waiting. -/
theorem dismiss_wait (w : Waiter) :
    { o with waiting := o.waiting ++ [w] }.dismiss w.number = o.dismiss w.number := by
  simp [dismiss, List.filter_append]

/-- What fails by looking again does nothing else than to fail. -/
theorem Poll.of_refused {w : Waiter} {number : Nat} {failure : Failure} (hpoll : o.Poll w next)
    (hnone : o.result? number = none) (hfailed : next.result? number = some (.error failure)) :
    w.number = number ∧ next = (o.dismiss number).finish number (.error failure) := by
  cases hpoll with
  | wait => cases hnone.symm.trans hfailed
  | close s =>
    obtain ⟨rfl, hresult⟩ := eq_of_result?_finish (o := o.dismiss s.number) hnone hfailed
    exact ⟨rfl, by rw [fail, hresult]⟩
  | hold => cases hnone.symm.trans hfailed
  | shut n =>
    obtain ⟨-, hresult⟩ := eq_of_result?_finish
      (o := { o.dismiss n with attached := false, shut := o.shut || o.attached }) hnone hfailed
    cases hresult

/-- A send that fails without holding the sink does nothing else than to fail. -/
theorem Step.of_refused {metrics counted : Metrics} {action : Action} {number : Nat}
    {failure : Failure}
    (hstep : o.Step metrics action next counted) (hnone : o.result? number = none)
    (hfailed : next.result? number = some (.error failure))
    (hother : ∀ a, o.active = some a → a.send.number ≠ number) :
    next = (o.dismiss number).finish number (.error failure) := by
  cases hstep with
  | reject n e fault hnew =>
    obtain ⟨rfl, hresult⟩ := eq_of_result?_finish hnone hfailed
    rw [dismiss_of_isKnown_eq_false hnew, hresult]
  | begins w hnew haction hpoll =>
    obtain ⟨rfl, rfl⟩ := hpoll.of_refused hnone hfailed
    rw [dismiss_wait]
  | cancel a hactive =>
    obtain ⟨heq, -⟩ := eq_of_result?_finish (o := o.detach) hnone hfailed
    exact absurd heq (hother a hactive)
  | poll w hw hpoll => exact (hpoll.of_refused hnone hfailed).2
  | flush a =>
    obtain ⟨-, hresult⟩ := eq_of_result?_finish (o := { o with active := none }) hnone hfailed
    cases hresult
  | refuse a _ hactive =>
    obtain ⟨heq, -⟩ := eq_of_result?_finish (o := o.detach) hnone hfailed
    exact absurd heq (hother a hactive)
  | _ => cases hnone.symm.trans hfailed

/-! ## Any actions -/

/-- Whether a part is what the sink took of the frame of the last send that got hold of it, if that
is not sent: it still holds the sink, or it failed and the sink is gone. -/
def IsRest (o : Outbound) (part : Bytes) : Option Send → Prop
  | none => part = []
  | some s => part <+: s.frame ∧ (o.active = some ⟨s, part.length⟩ ∨
      o.attached = false ∧ ∃ failure, o.result? s.number = some (.error failure))

/-- What the sink has taken are the frames of the sends that are done, and a part of one more. -/
theorem Sound.written_eq (h : Sound actions turns done o) :
    ∃ last part, turns = done ++ last.toList ∧ o.written = done.flatMap Send.frame ++ part ∧
      IsRest o part last := by
  cases h.sink with
  | idle _ _ hturns hwritten =>
    exact ⟨none, [], by simpa using hturns, by simpa using hwritten, rfl⟩
  | busy s taken _ hactive htaken hturns hwritten =>
    refine ⟨some s, s.frame.take taken, hturns, hwritten, List.take_prefix _ _, Or.inl ?_⟩
    rw [hactive, List.length_take, Nat.min_eq_left htaken]
  | torn s part failure hattached _ hpart hturns hfailed hwritten =>
    refine ⟨some s, part, hturns, hwritten, hpart, Or.inr ⟨hattached, failure, ?_⟩⟩
    exact (result?_eq_some_iff (h.numbered.places_le _) _).2 hfailed
  | shut _ _ hturns hwritten =>
    exact ⟨none, [], by simpa using hturns, by simpa using hwritten, rfl⟩

/-- What got hold of the sink was begun as a send of its frame. -/
theorem Sound.exists_send_of_mem_turns (h : Sound actions turns done o) {s : Send}
    (hs : s ∈ turns) :
    ∃ e, .send s.number e ∈ actions ∧ e.toFrame = .ok s.frame := by
  obtain ⟨a, ha, hwaiter⟩ := h.outcomes.turn s hs
  obtain ⟨e, rfl, hframe, -⟩ := (waiter?_eq_some_send_iff a s).1 hwaiter
  exact ⟨e, ha, hframe⟩

/-- What got hold of the sink and failed has given the sink up. -/
theorem Sound.detached_of_failed (h : Sound actions turns done o) {s : Send} (hs : s ∈ turns)
    {failure : Failure} (hfailed : o.result? s.number = some (.error failure)) :
    o.attached = false := by
  rcases h.mem_turns hs with hdone | ⟨taken, hactive⟩ | ⟨hattached, -⟩
  · have hok := (result?_eq_some_iff (h.numbered.places_le _) _).2 (h.outcomes.sent s hdone)
    cases hok.symm.trans hfailed
  · have hmem := (result?_eq_some_iff (h.numbered.places_le _) _).1 hfailed
    exact (h.numbered.not_finished_of_active hactive hmem).elim
  · exact hattached

/-- A shutdown that has come to its end has taken the sink away. -/
theorem Sound.detached_of_shutdown (h : Sound actions turns done o) {number : Nat}
    (hbegan : .shutdown number ∈ actions) {result : Except Failure Unit}
    (hresult : o.result? number = some result) : o.attached = false := by
  have hmem := (result?_eq_some_iff (h.numbered.places_le _) _).1 hresult
  rcases h.outcomes.ended _ _ hmem with ⟨s, hs, rfl⟩ | ⟨-, -, hattached⟩ | ⟨e, he, -⟩
  · obtain ⟨e, he, -⟩ := h.exists_send_of_mem_turns hs
    cases h.numbered.begins_unique he hbegan (decide_eq_true rfl) (decide_eq_true rfl)
  · exact hattached
  · cases h.numbered.begins_unique he hbegan (decide_eq_true rfl) (decide_eq_true rfl)

/-- A send ends well just where its frame is one of those that were sent. -/
theorem Sound.result?_eq_ok_iff (h : Sound actions turns done o) {number : Nat} {e : Envelope}
    (he : .send number e ∈ actions) :
    o.result? number = some (.ok ()) ↔ ∃ s ∈ done, s.number = number := by
  rw [result?_eq_some_iff (h.numbered.places_le _)]
  constructor
  · intro hok
    rcases h.outcomes.ended _ _ hok with ⟨s, hs, rfl⟩ | ⟨hshutdown, -⟩ | ⟨_, _, hresult⟩
    · rcases h.mem_turns hs with hdone | ⟨taken, hactive⟩ | ⟨-, failure, hfailed⟩
      · exact ⟨s, hdone, rfl⟩
      · exact (h.numbered.not_finished_of_active hactive hok).elim
      · have hsome := (result?_eq_some_iff (h.numbered.places_le _) _).2 hok
        have herror := (result?_eq_some_iff (h.numbered.places_le _) _).2 hfailed
        cases hsome.symm.trans herror
    · cases h.numbered.begins_unique he hshutdown (decide_eq_true rfl) (decide_eq_true rfl)
    · cases hresult
  · rintro ⟨s, hs, rfl⟩
    exact h.outcomes.sent s hs

/-- A send that comes to its end without ever getting hold of the sink is refused. -/
theorem Sound.result_eq_refusal (h : Sound actions turns done o) {number : Nat} {e : Envelope}
    (he : .send number e ∈ actions) (hnone : ∀ s ∈ turns, s.number ≠ number)
    {result : Except Failure Unit} (hresult : o.result? number = some result) :
    result = .error (refusal e) := by
  have hmem := (result?_eq_some_iff (h.numbered.places_le _) _).1 hresult
  rcases h.outcomes.ended _ _ hmem with ⟨s, hs, hnumber⟩ | ⟨hshutdown, -⟩ | ⟨other, hother, heq⟩
  · exact absurd hnumber (hnone s hs)
  · cases h.numbered.begins_unique he hshutdown (decide_eq_true rfl) (decide_eq_true rfl)
  · cases h.numbered.begins_unique he hother (decide_eq_true rfl) (decide_eq_true rfl)
    exact heq

/-- What was begun, does not wait and does not hold the sink has come to its end. -/
theorem Sound.result?_isSome (h : Sound actions turns done o) {a : Action} {number : Nat}
    (ha : a ∈ actions) (hbegins : a.begins number = true) (hactive : o.active = none)
    (hwaiting : o.waiting = []) : (o.result? number).isSome = true := by
  have hplaced : 0 < o.places number := by
    rw [h.numbered.places_eq]
    exact List.countP_pos_iff.2 ⟨a, ha, hbegins⟩
  have hknown := (isKnown_iff o number).2 hplaced
  simpa [isKnown, hactive, hwaiting] using hknown

/-- Once the sink was given up nothing is written and nobody gets hold of it, and a send that was
not over is refused. -/
theorem History.refused_of_detached {c d : History} {later : List Action}
    (h : after? History.step? .start actions = some c) (hkept : ∀ a ∈ actions, a.isAbandon = false)
    (hattached : c.outbound.attached = false) (hlater : ∀ a ∈ later, a.isAbandon = false)
    (hafter : after? History.step? c later = some d) :
    d.outbound.attached = false ∧ d.outbound.written = c.outbound.written ∧ d.turns = c.turns ∧
      ∀ number e result, .send number e ∈ actions ++ later → c.outbound.result? number = none →
        d.outbound.result? number = some result → result = .error (refusal e) := by
  obtain ⟨_, hsound⟩ := History.sound_of_after? h hkept
  obtain ⟨hdetached, hover⟩ := hsound.detached hattached
  obtain ⟨hfinal, hsame, hturns⟩ := hdetached.after hafter
  have hwhole := after?_trans h hafter
  obtain ⟨_, hlast⟩ := History.sound_of_after? hwhole
    fun a ha => (List.mem_append.1 ha).elim (hkept a) (hlater a)
  refine ⟨hfinal.attached, hsame, hturns, ?_⟩
  intro number e result he hopen hresult
  refine hlast.result_eq_refusal he ?_ hresult
  intro s hs hnumber
  -- All that ever held the sink were over before, so this send was none of them.
  obtain ⟨ended, hended⟩ := hover s (hturns ▸ hs)
  have hsome := (result?_eq_some_iff (hsound.numbered.places_le _) _).2 hended
  rw [hnumber, hopen] at hsome
  cases hsome

/-- Once the sink was given up, every send is over when those that wait have looked again. -/
theorem History.all_over_of_detached {c : History}
    (h : after? History.step? .start actions = some c)
    (hkept : ∀ a ∈ actions, a.isAbandon = false) (hattached : c.outbound.attached = false) :
    ∃ d, after? History.step? c (c.outbound.waiting.map fun w => .poll w.number) = some d ∧
      ∀ number e, .send number e ∈ actions → (d.outbound.result? number).isSome = true := by
  obtain ⟨_, hsound⟩ := History.sound_of_after? h hkept
  obtain ⟨hdetached, -⟩ := hsound.detached hattached
  have honce (n : Nat) : c.outbound.waiting.countP (·.number = n) ≤ 1 := by
    have hle := hsound.numbered.places_le n
    rw [places] at hle
    omega
  obtain ⟨d, hd, hwaiting⟩ := hdetached.polls honce
  have hwhole := after?_trans h hd
  have hpolls : ∀ a ∈ actions ++ c.outbound.waiting.map (fun w => Action.poll w.number),
      a.isAbandon = false := by
    intro a ha
    rcases List.mem_append.1 ha with ha | ha
    · exact hkept a ha
    · obtain ⟨w, -, rfl⟩ := List.mem_map.1 ha
      rfl
  obtain ⟨_, hlast⟩ := History.sound_of_after? hwhole hpolls
  refine ⟨d, hd, ?_⟩
  intro number e he
  exact hlast.result?_isSome (List.mem_append_left _ he) (decide_eq_true rfl)
    (hdetached.after hd).1.active hwaiting

/-- A send that fails without holding the sink changes nothing but its own end. -/
theorem History.step_of_refused {c next : History} {action : Action} {number : Nat}
    {failure : Failure}
    (hstep : c.step? action = some next) (hopen : c.outbound.result? number = none)
    (hfailed : next.outbound.result? number = some (.error failure))
    (hother : ∀ a, c.outbound.active = some a → a.send.number ≠ number) :
    next.outbound = (c.outbound.dismiss number).finish number (.error failure) ∧
      next.turns = c.turns := by
  obtain ⟨⟨outbound, metrics⟩, houtbound, rfl⟩ := Option.map_eq_some_iff.1 hstep
  have hnext := (step_of_step? houtbound).of_refused hopen hfailed hother
  have hgained : c.outbound.gained outbound = [] := gained_of_active_eq (by rw [hnext]; rfl)
  refine ⟨hnext, ?_⟩
  simp only [hgained, List.append_nil]

/-- Frames stay whole, whoever sends, whatever the sink does and however the switch is turned, as
long as no send is given up from outside.

The sink has taken the frames of the sends that ended well, in the order in which they got hold of
it, and at most a part of one more frame, whose send still holds the sink or has failed. A send that
fails when it holds the sink, and a shutdown, take the sink away: nothing is written any more,
nobody gets hold of it, every send that was not over is refused, and all are when those that wait
have looked again. A send that fails without holding the sink changes nothing but its own end. -/
theorem frames_stay_whole {actions : List Action} {c : History}
    (h : after? History.step? .start actions = some c)
    (hkept : ∀ a ∈ actions, a.isAbandon = false) :
    (∃ done last part, c.turns = done ++ last.toList ∧
      c.outbound.written = done.flatMap Send.frame ++ part ∧ IsRest c.outbound part last ∧
      ∀ number e, .send number e ∈ actions →
        (c.outbound.result? number = some (.ok ()) ↔ ∃ s ∈ done, s.number = number)) ∧
    ((c.turns.map Send.number).Nodup ∧
      ∀ s ∈ c.turns, ∃ e, .send s.number e ∈ actions ∧ e.toFrame = .ok s.frame) ∧
    (∀ s ∈ c.turns, ∀ failure, c.outbound.result? s.number = some (.error failure) →
      c.outbound.attached = false) ∧
    (∀ number result, .shutdown number ∈ actions → c.outbound.result? number = some result →
      c.outbound.attached = false) ∧
    (c.outbound.attached = false →
      (∀ later d, (∀ a ∈ later, a.isAbandon = false) → after? History.step? c later = some d →
        d.outbound.attached = false ∧ d.outbound.written = c.outbound.written ∧ d.turns = c.turns ∧
        ∀ number e result, .send number e ∈ actions ++ later → c.outbound.result? number = none →
          d.outbound.result? number = some result → result = .error (refusal e)) ∧
      ∃ d, after? History.step? c (c.outbound.waiting.map fun w => .poll w.number) = some d ∧
        ∀ number e, .send number e ∈ actions → (d.outbound.result? number).isSome = true) ∧
    (∀ action next number failure, c.step? action = some next → c.outbound.result? number = none →
      next.outbound.result? number = some (.error failure) →
      (∀ a, c.outbound.active = some a → a.send.number ≠ number) →
        next.outbound = (c.outbound.dismiss number).finish number (.error failure) ∧
          next.turns = c.turns) := by
  obtain ⟨done, hsound⟩ := History.sound_of_after? h hkept
  obtain ⟨last, part, hturns, hwritten, hrest⟩ := hsound.written_eq
  refine ⟨⟨done, last, part, hturns, hwritten, hrest, fun number e => hsound.result?_eq_ok_iff⟩,
    ⟨hsound.outcomes.distinct, fun s => hsound.exists_send_of_mem_turns⟩,
    fun s hs failure => hsound.detached_of_failed hs,
    fun number result hbegan => hsound.detached_of_shutdown hbegan, fun hattached => ⟨?_, ?_⟩, ?_⟩
  · intro later d hlater hafter
    exact History.refused_of_detached h hkept hattached hlater hafter
  · exact History.all_over_of_detached h hkept hattached
  · intro action next number failure hstep hopen hfailed hother
    exact History.step_of_refused hstep hopen hfailed hother

/-- A frame that breaks off after ten bytes is the last thing that is written, and the send that
waits behind it is refused. -/
theorem frames_stay_whole_torn :
    ∃ c, after? History.step? .start [.send 0 ⟨"TASK", "", 1⟩, .send 1 ⟨"TASK", "", 2⟩, .accept 10,
        .refuse "broken pipe"] = some c ∧
      c.outbound.written.length = 10 ∧
      ∀ later d result, (∀ a ∈ later, a.isAbandon = false) → after? History.step? c later = some d →
        d.outbound.result? 1 = some result →
          result = .error (.write .closed) ∧ d.outbound.written.length = 10 := by
  obtain ⟨c, hc⟩ : ∃ c, after? History.step? .start [.send 0 ⟨"TASK", "", 1⟩,
      .send 1 ⟨"TASK", "", 2⟩, .accept 10, .refuse "broken pipe"] = some c :=
    Option.isSome_iff_exists.1 (by decide +kernel)
  have hstate : (after? History.step? .start [.send 0 ⟨"TASK", "", 1⟩, .send 1 ⟨"TASK", "", 2⟩,
      .accept 10, .refuse "broken pipe"]).map (fun c => (c.outbound.written.length,
        c.outbound.attached, (c.outbound.result? 1).isNone)) = some (10, false, true) := by
    decide +kernel
  rw [hc] at hstate
  simp only [Option.map_some, Option.some.injEq, Prod.mk.injEq] at hstate
  obtain ⟨hwritten, hattached, hnone⟩ := hstate
  have hopen : c.outbound.result? 1 = none := Option.isNone_iff_eq_none.1 hnone
  obtain ⟨-, -, -, -, hgone, -⟩ := frames_stay_whole hc (by decide)
  refine ⟨c, hc, hwritten, ?_⟩
  intro later d result hlater hafter hresult
  obtain ⟨-, hsame, -, hrefused⟩ := (hgone hattached).1 later d hlater hafter
  have hrefusal : refusal ⟨"TASK", "", 2⟩ = .write .closed := by decide +kernel
  rw [← hrefusal, hsame]
  exact ⟨hrefused 1 _ result (List.mem_append_left _ (by simp)) hopen hresult, hwritten⟩

end Outbound

end Courier
