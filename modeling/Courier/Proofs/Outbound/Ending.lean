import Courier.Proofs.Outbound.Integrity
import Courier.Proofs.Outbound.Single

/-!
# How sends come to their end

Every number is in one place at most, and nothing fails on the way out as registering at the wrong
time does (`HasUniquePlaces`). While the switch is on, every send that looks comes to its end, and a
send that starts is refused at once (`CancelledStep`). So fewer and fewer are under way, nothing is
written, and whoever waits to shut the sink down comes to the front.
-/

namespace Courier

/-- Whether a failure is that of registering at the wrong time. -/
def Failure.isUntimely : Failure → Bool
  | .write (.registeredIn _) => true
  | _ => false

namespace Outbound

variable {o next : Outbound} {metrics counted : Metrics} {action : Action}

/-- Every number is in one place at most, and nothing has failed as registering at the wrong time
does. -/
structure HasUniquePlaces (o : Outbound) : Prop where
  places_le (number : Nat) : o.places number ≤ 1
  timely (number : Nat) (failure : Failure) (h : (number, .error failure) ∈ o.finished) :
    failure.isUntimely = false

/-- What comes to its end in a step is noted behind all that did before. -/
theorem Poll.finished {w : Waiter} (hpoll : o.Poll w next) {entry : Nat × Except Failure Unit}
    (h : entry ∈ next.finished) :
    entry ∈ o.finished ∨ entry = (w.number, .error (.write .closed)) ∨ entry.2 = .ok () := by
  cases hpoll with
  | wait => exact Or.inl h
  | hold => exact Or.inl h
  | close s =>
    rcases List.mem_append.1 h with h | h
    · exact Or.inl h
    · exact Or.inr (Or.inl (List.mem_singleton.1 h))
  | shut number =>
    rcases List.mem_append.1 h with h | h
    · exact Or.inl h
    · exact Or.inr (Or.inr (congrArg Prod.snd (List.mem_singleton.1 h)))

/-- No send fails as registering at the wrong time does. -/
theorem Step.timely (hstep : o.Step metrics action next counted) {number : Nat} {failure : Failure}
    (h : (number, .error failure) ∈ next.finished) :
    (number, .error failure) ∈ o.finished ∨ failure.isUntimely = false := by
  have hnoted {p : Outbound} {n : Nat} {result : Except Failure Unit} (hp : p.finished = o.finished)
      (hresult : ∀ f, result = .error f → f.isUntimely = false)
      (hmem : (number, .error failure) ∈ (p.finish n result).finished) :
      (number, .error failure) ∈ o.finished ∨ failure.isUntimely = false := by
    rcases List.mem_append.1 hmem with hold | hnew
    · exact Or.inl (hp ▸ hold)
    · exact Or.inr (hresult failure (congrArg Prod.snd (List.mem_singleton.1 hnew)).symm)
  have hpolled {p : Outbound} {w : Waiter} (hp : p.finished = o.finished) (hpoll : p.Poll w next) :
      (number, .error failure) ∈ o.finished ∨ failure.isUntimely = false := by
    rcases hpoll.finished h with hold | hclosed | hover
    · exact Or.inl (hp ▸ hold)
    · cases hclosed
      exact Or.inr rfl
    · cases hover
  cases hstep with
  | reject n e fault =>
    refine hnoted rfl ?_ h
    rintro f ⟨⟩
    cases fault <;> rfl
  | begins w _ _ hpoll =>
    exact hpolled (p := { o with waiting := o.waiting ++ [w] }) rfl hpoll
  | poll w _ hpoll => exact hpolled rfl hpoll
  | cancel a => exact hnoted (p := o.detach) rfl (by rintro f ⟨⟩; rfl) h
  | refuse a => exact hnoted (p := o.detach) rfl (by rintro f ⟨⟩; rfl) h
  | flush a => exact hnoted (p := { o with active := none }) rfl (by rintro f ⟨⟩) h
  | _ => exact Or.inl h

/-- Every step leaves each number in one place at most, if it begins no number that is known. -/
theorem HasUniquePlaces.step (h : o.HasUniquePlaces) (hstep : o.Step metrics action next counted)
    (hnew : ∀ n, action.begins n = true → o.isKnown n = false) : next.HasUniquePlaces where
  places_le n := by
    have hmore := hstep.places_le n
    have hle := h.places_le n
    cases hbegins : action.begins n with
    | false =>
      rw [hbegins, if_neg Bool.false_ne_true] at hmore
      omega
    | true =>
      have hnone : ¬0 < o.places n := by
        rw [← isKnown_iff, hnew n hbegins]
        exact Bool.false_ne_true
      rw [hbegins, if_pos rfl] at hmore
      omega
  timely n failure hfailed := by
    rcases hstep.timely hfailed with hold | htimely
    · exact h.timely n failure hold
    · exact htimely

/-- At first no number is anywhere. -/
theorem hasUniquePlaces_start : start.HasUniquePlaces where
  places_le _ := Nat.zero_le _
  timely _ _ h := absurd h List.not_mem_nil

/-- Whoever holds the sink does not wait for it. -/
theorem HasUniquePlaces.number_ne (h : o.HasUniquePlaces) {a : Active} (ha : o.active = some a)
    {w : Waiter}
    (hw : w ∈ o.waiting) : w.number ≠ a.send.number := by
  intro heq
  have hwaits : 0 < o.waiting.countP (·.number = a.send.number) :=
    List.countP_pos_iff.2 ⟨w, hw, decide_eq_true heq⟩
  have hholds : o.active.toList.countP (·.send.number = a.send.number) = 1 := by simp [ha]
  have hle := h.places_le a.send.number
  rw [places] at hle
  omega

/-- Nobody waits twice for the sink. -/
theorem HasUniquePlaces.eq_of_number (h : o.HasUniquePlaces) {v w : Waiter} (hv : v ∈ o.waiting)
    (hw : w ∈ o.waiting)
    (heq : v.number = w.number) : v = w := by
  have hle := h.places_le w.number
  rw [places] at hle
  exact eq_of_countP_le_one (p := fun u => u.number = w.number) (by omega) hv hw
    (decide_eq_true heq) (decide_eq_true rfl)

/-- What holds the sink or waits for it has not come to its end. -/
theorem HasUniquePlaces.result?_eq_none (h : o.HasUniquePlaces) {number : Nat}
    (hsome : (∃ a, o.active = some a ∧ a.send.number = number) ∨
      ∃ w ∈ o.waiting, w.number = number) : o.result? number = none := by
  have hle := h.places_le number
  rw [places] at hle
  have hplaced : 0 < o.active.toList.countP (·.send.number = number) +
      o.waiting.countP (·.number = number) := by
    rcases hsome with ⟨a, ha, hnumber⟩ | ⟨w, hw, hnumber⟩
    · have hholds : o.active.toList.countP (·.send.number = number) = 1 := by simp [ha, hnumber]
      omega
    · have hwaits : 0 < o.waiting.countP (·.number = number) :=
        List.countP_pos_iff.2 ⟨w, hw, decide_eq_true hnumber⟩
      omega
  cases hresult : o.result? number with
  | none => rfl
  | some result =>
    have hover : 0 < o.finished.countP (·.1 = number) := List.countP_pos_iff.2
      ⟨_, (result?_eq_some_iff (h.places_le number) result).1 hresult, decide_eq_true rfl⟩
    omega

/-! ## While the switch is on -/

/-- Whether an action turns the switch, or begins to shut the sink down. -/
def Action.isClosing : Action → Bool
  | .shutdown _ | .turn _ => true
  | _ => false

/-- What a step of the sending side can be while the switch is on. -/
inductive CancelledStep (o : Outbound) : Action → Outbound → Prop where
  | refuses (number : Nat) (e : Envelope) :
    CancelledStep o (.send number e) (o.finish number (.error (refusal e)))
  | cancels (a : Active) (hactive : o.active = some a) :
    CancelledStep o (.poll a.send.number) (o.detach.fail a.send.number (.cancelled a.send.subject))
  | closes (s : Send) (hs : .send s ∈ o.waiting) :
    CancelledStep o (.poll s.number) ((o.dismiss s.number).fail s.number .closed)
  | waits (number : Nat) (hwaits : .shutdown number ∈ o.waiting) : CancelledStep o (.poll number) o
  | shuts (number : Nat) (hwaits : .shutdown number ∈ o.waiting)
      (hturn : o.isTurn number = true) :
    CancelledStep o (.poll number)
      ({ o.dismiss number with attached := false, shut := o.shut || o.attached }.finish number
        (.ok ()))
  | releases (a : Active) (hactive : o.active = some a) :
    CancelledStep o (.abandon a.send.number) { o with active := none }
  | leaves (w : Waiter) (hw : w ∈ o.waiting) :
    CancelledStep o (.abandon w.number) (o.dismiss w.number)

/-- Nothing else can happen on the way out while the switch is on. -/
theorem Step.cancelledStep (hstep : o.Step metrics action next counted)
    (hcancelled : o.cancelled = true)
    (haction : action.isClosing = false) : o.CancelledStep action next := by
  have huncancelled (h : o.cancelled = false) : o.CancelledStep action next := by
    cases hcancelled.symm.trans h
  cases hstep with
  | reject number e fault _ hframe =>
    have hrefusal : refusal e = fault.failure := by rw [refusal, hframe]
    rw [← hrefusal]
    exact .refuses number e
  | begins w hnew hw hpoll =>
    cases action with
    | send number e =>
      simp only [Action.waiter?] at hw
      split at hw
      · rename_i frame hframe
        cases hw
        have hrefusal : refusal e = .write .closed := by rw [refusal, hframe]
        cases hpoll with
        | wait _ _ hoff => exact huncancelled (hoff _ rfl)
        | hold _ hoff => exact huncancelled hoff
        | close s =>
          have hsame := (dismiss_wait (.send ⟨number, e.subject, frame⟩)).trans
            (dismiss_of_isKnown_eq_false hnew)
          rw [Waiter.number_send] at hsame
          rw [hsame, fail, ← hrefusal]
          exact .refuses number e
      · cases hw
    | shutdown number => cases haction
    | _ => cases hw
  | look _ hoff => exact huncancelled hoff
  | cancel a hactive => exact .cancels a hactive
  | poll w hw hpoll =>
    cases hpoll with
    | wait _ _ hoff =>
      cases w with
      | send s => exact huncancelled (hoff s rfl)
      | shutdown number => exact .waits number hw
    | close s => exact .closes s hw
    | hold _ hoff => exact huncancelled hoff
    | shut number _ hfirst => exact .shuts number hw hfirst
  | accept _ _ _ hoff => exact huncancelled hoff
  | flush _ _ hoff => exact huncancelled hoff
  | refuse _ _ _ hoff => exact huncancelled hoff
  | abandonHolder a hactive => exact .releases a hactive
  | abandonWaiter w hw => exact .leaves w hw
  | turn on => cases haction

/-- Nothing is written while the switch is on, and it stays on. -/
theorem CancelledStep.written (h : o.CancelledStep action next) :
    next.written = o.written ∧ next.cancelled = o.cancelled := by
  cases h <;> exact ⟨rfl, rfl⟩

/-- Whether what waits is a send of some number. -/
def Waiter.isSend (number : Nat) : Waiter → Bool
  | .send s => s.number = number
  | .shutdown _ => false

/-- Whether a send of some number holds the sink or waits for it. -/
def isSending (o : Outbound) (number : Nat) : Bool :=
  o.active.any (·.send.number = number) || o.waiting.any (·.isSend number)

/-- A send is under way while it holds the sink, and while it waits for it. -/
theorem isSending_iff (o : Outbound) (number : Nat) :
    o.isSending number = true ↔ (∃ a, o.active = some a ∧ a.send.number = number) ∨
      ∃ s, .send s ∈ o.waiting ∧ s.number = number := by
  simp only [isSending, Bool.or_eq_true, Option.any_eq_true, List.any_eq_true, decide_eq_true_eq]
  refine or_congr Iff.rfl ⟨?_, fun ⟨s, hs, hnumber⟩ => ⟨.send s, hs, decide_eq_true hnumber⟩⟩
  rintro ⟨w, hw, hsend⟩
  cases w with
  | send s => exact ⟨s, hw, of_decide_eq_true hsend⟩
  | shutdown => cases hsend

/-- A send that is under way has a place of its own. -/
theorem exists_of_isSending {number : Nat} (h : o.isSending number = true) :
    (∃ a, o.active = some a ∧ a.send.number = number) ∨ ∃ w ∈ o.waiting, w.number = number :=
  ((isSending_iff o number).1 h).imp id fun ⟨s, hs, hnumber⟩ => ⟨.send s, hs, hnumber⟩

/-- While the switch is on no send gets under way, and one that looks or is given up is over. -/
theorem CancelledStep.sending (h : o.CancelledStep action next) (hunique : o.HasUniquePlaces)
    {number : Nat}
    (hsending : next.isSending number = true) :
    o.isSending number = true ∧ action ≠ .poll number ∧ action ≠ .abandon number := by
  rw [isSending_iff] at hsending ⊢
  -- Who looks or is given up leaves the only place of its number, so nobody left has that number.
  cases h with
  | refuses => exact ⟨hsending, Action.noConfusion, Action.noConfusion⟩
  | cancels a hactive =>
    rcases hsending with ⟨b, ⟨⟩, -⟩ | ⟨s, hs, hnumber⟩
    refine ⟨Or.inr ⟨s, hs, hnumber⟩, ?_, Action.noConfusion⟩
    rintro ⟨rfl⟩
    exact hunique.number_ne hactive hs hnumber
  | closes s hs =>
    rcases hsending with ⟨a, ha, hnumber⟩ | ⟨t, ht, hnumber⟩
    · refine ⟨Or.inl ⟨a, ha, hnumber⟩, ?_, Action.noConfusion⟩
      rintro ⟨⟩
      exact hunique.number_ne ha hs hnumber.symm
    · obtain ⟨ht, hne⟩ := List.mem_filter.1 ht
      refine ⟨Or.inr ⟨t, ht, hnumber⟩, ?_, Action.noConfusion⟩
      rintro ⟨⟩
      exact of_decide_eq_true hne hnumber
  | waits n hwaits =>
    refine ⟨hsending, ?_, Action.noConfusion⟩
    rintro ⟨rfl⟩
    rcases hsending with ⟨a, ha, hnumber⟩ | ⟨s, hs, hnumber⟩
    · exact hunique.number_ne ha hwaits hnumber.symm
    · cases hunique.eq_of_number hs hwaits hnumber
  | shuts n hwaits hturn =>
    rcases hsending with ⟨a, ha, -⟩ | ⟨t, ht, hnumber⟩
    · cases (isTurn_iff.1 hturn).1.symm.trans ha
    · obtain ⟨ht, hne⟩ := List.mem_filter.1 ht
      refine ⟨Or.inr ⟨t, ht, hnumber⟩, ?_, Action.noConfusion⟩
      rintro ⟨⟩
      exact of_decide_eq_true hne hnumber
  | releases a hactive =>
    rcases hsending with ⟨b, ⟨⟩, -⟩ | ⟨s, hs, hnumber⟩
    refine ⟨Or.inr ⟨s, hs, hnumber⟩, Action.noConfusion, ?_⟩
    rintro ⟨rfl⟩
    exact hunique.number_ne hactive hs hnumber
  | leaves w hw =>
    rcases hsending with ⟨a, ha, hnumber⟩ | ⟨t, ht, hnumber⟩
    · refine ⟨Or.inl ⟨a, ha, hnumber⟩, Action.noConfusion, ?_⟩
      rintro ⟨⟩
      exact hunique.number_ne ha hw hnumber.symm
    · obtain ⟨ht, hne⟩ := List.mem_filter.1 ht
      refine ⟨Or.inr ⟨t, ht, hnumber⟩, Action.noConfusion, ?_⟩
      rintro ⟨⟩
      exact of_decide_eq_true hne hnumber

/-- While the switch is on sends fail to write, or are refused when they start. -/
theorem CancelledStep.finished (h : o.CancelledStep action next) {number : Nat}
    {result : Except Failure Unit}
    (hmem : (number, result) ∈ next.finished) :
    (number, result) ∈ o.finished ∨ (∃ fault, result = .error (.write fault)) ∨
      (∃ e, action = .send number e) ∨ .shutdown number ∈ o.waiting := by
  have hnoted {p : Outbound} {n : Nat} {r : Except Failure Unit} (hp : p.finished = o.finished)
      (hmem : (number, result) ∈ (p.finish n r).finished) :
      (number, result) ∈ o.finished ∨ number = n ∧ result = r := by
    rcases List.mem_append.1 hmem with hold | hnew
    · exact Or.inl (hp ▸ hold)
    · exact Or.inr (Prod.mk.inj (List.mem_singleton.1 hnew))
  cases h with
  | refuses n e =>
    refine (hnoted rfl hmem).imp id ?_
    rintro ⟨rfl, -⟩
    exact Or.inr (Or.inl ⟨e, rfl⟩)
  | cancels a =>
    refine (hnoted (p := o.detach) rfl hmem).imp id ?_
    rintro ⟨-, rfl⟩
    exact Or.inl ⟨_, rfl⟩
  | closes s =>
    refine (hnoted (p := o.dismiss s.number) rfl hmem).imp id ?_
    rintro ⟨-, rfl⟩
    exact Or.inl ⟨_, rfl⟩
  | shuts n hwaits =>
    refine (hnoted (p := { o.dismiss n with
      attached := false, shut := o.shut || o.attached }) rfl hmem).imp id ?_
    rintro ⟨rfl, -⟩
    exact Or.inr (Or.inr hwaits)
  | _ => exact Or.inl hmem

/-! ## Coming to the front -/

/-- Nobody waits to shut the sink down who has not begun to. -/
theorem Step.shutdown_mem_waiting (hstep : o.Step metrics action next counted)
    (haction : action.isClosing = false) {number : Nat} (hmem : .shutdown number ∈ next.waiting) :
    .shutdown number ∈ o.waiting := by
  have hpolled {p : Outbound} {w : Waiter} (hpoll : p.Poll w next) :
      .shutdown number ∈ p.waiting := by
    cases hpoll with
    | wait => exact hmem
    | close => exact (List.mem_filter.1 hmem).1
    | hold => exact (List.mem_filter.1 hmem).1
    | shut => exact (List.mem_filter.1 hmem).1
  cases hstep with
  | begins w _ hw hpoll =>
    rcases List.mem_append.1 (hpolled hpoll) with hold | hnew
    · exact hold
    · obtain rfl := List.mem_singleton.1 hnew
      rw [(waiter?_eq_some_shutdown_iff action number).1 hw] at haction
      cases haction
  | poll w _ hpoll => exact hpolled hpoll
  | abandonWaiter => exact (List.mem_filter.1 hmem).1
  | _ => exact hmem

/-- Sends wait before whoever waits to shut the sink down, and nobody waits behind. -/
def Draining (o : Outbound) (number : Nat) : Prop :=
  ∃ sends : List Send, o.waiting = sends.map .send ++ [.shutdown number]

/-- The sink was taken away, and nobody holds it or waits for it. -/
structure Drained (o : Outbound) : Prop where
  attached : o.attached = false
  quiet : o.Quiet

/-- Whoever waits to shut the sink down does wait. -/
theorem Draining.mem_waiting {number : Nat} (h : o.Draining number) :
    .shutdown number ∈ o.waiting := by
  obtain ⟨sends, hwaiting⟩ := h
  rw [hwaiting]
  exact List.mem_append_right _ List.mem_cons_self

/-- Only one waits to shut the sink down. -/
theorem Draining.eq_of_mem {number n : Nat} (h : o.Draining number)
    (hmem : .shutdown n ∈ o.waiting) : n = number := by
  obtain ⟨sends, hwaiting⟩ := h
  rw [hwaiting] at hmem
  rcases List.mem_append.1 hmem with hmem | hmem
  · obtain ⟨s, -, hs⟩ := List.mem_map.1 hmem
    cases hs
  · cases List.mem_singleton.1 hmem
    rfl

/-- Whoever waits to shut the sink down stays behind the sends that are left. -/
theorem Draining.dismiss {number n : Nat} (h : o.Draining number) (hne : n ≠ number) :
    (o.dismiss n).Draining number := by
  obtain ⟨sends, hwaiting⟩ := h
  refine ⟨sends.filter fun s => s.number ≠ n, ?_⟩
  have hlast : ([.shutdown number] : List Waiter).filter (fun w => w.number ≠ n) =
      [.shutdown number] := by simp [hne.symm]
  rw [waiting_dismiss, hwaiting, List.filter_append, hlast, List.filter_map]
  rfl

/-- When its turn has come, no send waits before. -/
theorem Draining.waiting_of_isTurn {number : Nat} (h : o.Draining number)
    (hunique : o.HasUniquePlaces)
    (hturn : o.isTurn number = true) : o.waiting = [.shutdown number] := by
  have hmem := h.mem_waiting
  obtain ⟨sends, hwaiting⟩ := h
  cases sends with
  | nil => exact hwaiting
  | cons s rest =>
    have hs : .send s ∈ o.waiting := by
      rw [hwaiting]
      exact List.mem_cons_self
    obtain ⟨-, w, hfirst, hnumber⟩ := isTurn_iff.1 hturn
    rw [hwaiting] at hfirst
    cases hfirst
    cases hunique.eq_of_number hs hmem hnumber

/-- While the switch is on, whoever waits to shut the sink down waits on, or has done so. -/
theorem CancelledStep.draining {number : Nat} (h : o.CancelledStep action next)
    (hdraining : o.Draining number)
    (hunique : o.HasUniquePlaces) (hkept : action ≠ .abandon number) :
    next.Draining number ∨ action = .poll number ∧ next.Drained ∧
      (next.result? number).isSome = true := by
  cases h with
  | refuses => exact Or.inl hdraining
  | cancels => exact Or.inl hdraining
  | closes s hs =>
    have hne : s.number ≠ number := fun heq => by
      cases hunique.eq_of_number hs hdraining.mem_waiting heq
    exact Or.inl (hdraining.dismiss hne)
  | waits => exact Or.inl hdraining
  | shuts n hwaits hturn =>
    obtain rfl := hdraining.eq_of_mem hwaits
    have hnone : o.result? n = none :=
      hunique.result?_eq_none (Or.inr ⟨.shutdown n, hwaits, rfl⟩)
    have hactive : o.active = none := (isTurn_iff.1 hturn).1
    refine Or.inr ⟨rfl, ⟨rfl, hactive, ?_⟩, ?_⟩
    · simp [hdraining.waiting_of_isTurn hunique hturn]
    · rw [result?_finish_self (o := { o.dismiss n with
        attached := false, shut := o.shut || o.attached }) hnone]
      rfl
  | releases => exact Or.inl hdraining
  | leaves w => exact Or.inl (hdraining.dismiss fun heq => hkept (by rw [heq]))

/-- Whoever looks in order to shut the sink down waits on, or shuts it down. -/
theorem Poll.cancelledStep {number : Nat} (hpoll : o.Poll (.shutdown number) next)
    (hmem : .shutdown number ∈ o.waiting) : o.CancelledStep (.poll number) next := by
  cases hpoll with
  | wait => exact .waits number hmem
  | shut _ _ hturn => exact .shuts number hmem hturn

/-- Where only sends wait, they are a list of sends. -/
theorem exists_sends {waiting : List Waiter} (h : ∀ number, .shutdown number ∉ waiting) :
    ∃ sends : List Send, waiting = sends.map .send := by
  induction waiting with
  | nil => exact ⟨[], rfl⟩
  | cons w rest ih =>
    obtain ⟨sends, hsends⟩ := ih fun number hmem => h number (List.mem_cons_of_mem _ hmem)
    cases w with
    | send s => exact ⟨s :: sends, by rw [hsends, List.map_cons]⟩
    | shutdown number => exact absurd List.mem_cons_self (h number)

/-- A shutdown that begins waits behind the sends, and looks at once. -/
theorem Step.begins_shutdown {number : Nat} (hstep : o.Step metrics (.shutdown number) next counted)
    (hunique : o.HasUniquePlaces) (hunshut : ∀ n, .shutdown n ∉ o.waiting) :
    { o with waiting := o.waiting ++ [Waiter.shutdown number] }.Draining number ∧
      { o with waiting := o.waiting ++ [Waiter.shutdown number] }.HasUniquePlaces ∧
      { o with waiting := o.waiting ++ [Waiter.shutdown number] }.CancelledStep
        (.poll number) next := by
  cases hstep with
  | begins w hnew hw hpoll =>
    cases hw
    obtain ⟨sends, hsends⟩ := exists_sends hunshut
    refine ⟨⟨sends, by rw [hsends]⟩, ⟨fun n => ?_, hunique.timely⟩,
      hpoll.cancelledStep (List.mem_append_right _ List.mem_cons_self)⟩
    rw [places_wait]
    have hle := hunique.places_le n
    split
    · rename_i heq
      have hnone : ¬0 < o.places n := by
        rw [← isKnown_iff, ← heq, hnew]
        exact Bool.false_ne_true
      omega
    · exact hle

/-- A sink that was taken away stays so, and nobody waits for it any more. -/
theorem CancelledStep.drained (h : o.CancelledStep action next) (hdrained : o.Drained) :
    next.Drained := by
  have hfree {a : Active} (ha : o.active = some a) : next.Drained := by
    cases hdrained.quiet.active.symm.trans ha
  have hnobody {w : Waiter} (hw : w ∈ o.waiting) : next.Drained := by
    rw [hdrained.quiet.waiting] at hw
    cases hw
  cases h with
  | refuses => exact ⟨hdrained.attached, hdrained.quiet.active, hdrained.quiet.waiting⟩
  | cancels a hactive => exact hfree hactive
  | closes s hs => exact hnobody hs
  | waits n hwaits => exact hnobody hwaits
  | shuts n hwaits => exact hnobody hwaits
  | releases a hactive => exact hfree hactive
  | leaves w hw => exact hnobody hw

/-! ## What can always happen -/

/-- While the switch is on, a send that looks comes to its end as a failure to write. -/
theorem HasUniquePlaces.step?_poll (h : o.HasUniquePlaces) (hcancelled : o.cancelled = true)
    {number : Nat}
    (hsending : o.isSending number = true) (metrics : Metrics) :
    ∃ next fault, o.step? metrics (.poll number) = some (next, metrics) ∧
      next.result? number = some (.error (.write fault)) := by
  have hnone : o.result? number = none := h.result?_eq_none (exists_of_isSending hsending)
  rcases (isSending_iff o number).1 hsending with ⟨a, ha, rfl⟩ | ⟨s, hs, rfl⟩
  · refine ⟨o.detach.fail a.send.number (.cancelled a.send.subject), .cancelled a.send.subject, ?_,
      result?_finish_self (o := o.detach) hnone _⟩
    simp only [step?, poll?, ha, Option.filter_some, decide_true, if_true, hcancelled,
      Option.map_some]
  · have hother : o.active.filter (·.send.number = s.number) = none := by
      refine Option.filter_eq_none_iff.2 fun a ha hnumber => ?_
      exact h.number_ne ha hs (of_decide_eq_true hnumber).symm
    obtain ⟨w, hw⟩ := Option.isSome_iff_exists.1
      (List.find?_isSome (p := fun w => w.number = s.number) |>.2 ⟨_, hs, decide_eq_true rfl⟩)
    have hnumber : w.number = s.number := by simpa using List.find?_some hw
    obtain rfl : w = .send s := h.eq_of_number (List.mem_of_find?_eq_some hw) hs hnumber
    refine ⟨(o.dismiss s.number).fail s.number .closed, .closed, ?_,
      result?_finish_self (o := o.dismiss s.number) hnone _⟩
    simp only [step?, poll?, hother, hw, Option.map_some, pollWaiter, hcancelled, if_true]

/-- While the switch is on, a send that starts is refused at once. -/
theorem step?_send_of_cancelled (hcancelled : o.cancelled = true) {number : Nat}
    (hnew : o.isKnown number = false) (metrics : Metrics) (e : Envelope) :
    ∃ next, o.step? metrics (.send number e) = some (next, metrics) ∧
      next.result? number = some (.error (refusal e)) := by
  have hnone : o.result? number = none := result?_of_isKnown_eq_false hnew
  obtain ⟨next, hnext⟩ := exists_step?_send hnew metrics e
  refine ⟨next, hnext, ?_⟩
  cases (step_of_step? hnext).cancelledStep hcancelled rfl with
  | refuses => exact result?_finish_self hnone _

/-- When no send is under way any more, whoever waits to shut the sink down can do so. -/
theorem Draining.step?_poll {number : Nat} (h : o.Draining number)
    (hnobody : ∀ n, o.isSending n = false) (metrics : Metrics) :
    ∃ next, o.step? metrics (.poll number) = some (next, metrics) ∧
      (next.result? number).isSome = true := by
  have hactive : o.active = none := by
    cases ha : o.active with
    | none => rfl
    | some a =>
      have hsending := (isSending_iff o a.send.number).2 (Or.inl ⟨a, ha, rfl⟩)
      rw [hnobody] at hsending
      cases hsending
  have hwaiting : o.waiting = [.shutdown number] := by
    obtain ⟨sends, hwaiting⟩ := h
    cases sends with
    | nil => exact hwaiting
    | cons s rest =>
      have hs : .send s ∈ o.waiting := by
        rw [hwaiting]
        exact List.mem_cons_self
      have hsending := (isSending_iff o s.number).2 (Or.inr ⟨s, hs, rfl⟩)
      rw [hnobody] at hsending
      cases hsending
  refine ⟨o.pollWaiter (.shutdown number), ?_, ?_⟩
  · simp [step?, poll?, hactive, hwaiting]
  · simp [pollWaiter, hactive, hwaiting]

end Outbound

end Courier
