import Courier.Proofs.Frame.Parse
import Courier.Proofs.Outbound.Integrity

/-!
# Sends in the order of their start

Sends get hold of the sink in the order in which they were started. Those that were refused are left
out of it, and the others wait behind (`InTurn`). So the frames that the sink has taken are those of
the sends that ended well, in the order of their start (`Sound.framesOf_sent`).
-/

namespace Courier

namespace Outbound

variable {actions : List Action} {turns done : List Send} {o next : Outbound}

/-! ## The queue -/

/-- What got hold of the sink and what waits for it was begun in this order. -/
def InTurn (actions : List Action) (turns : List Send) (o : Outbound) : Prop :=
  (turns.map Waiter.send ++ o.waiting).Sublist (actions.filterMap Action.waiter?)

/-- What waits may wait no longer, and nobody need get hold of the sink by that. -/
theorem InTurn.of_sublist (h : InTurn actions turns o) (hwaiting : next.waiting.Sublist o.waiting)
    (hgained : o.gained next = []) : InTurn actions (turns ++ o.gained next) next := by
  rw [hgained, List.append_nil]
  exact (hwaiting.append_left _).trans h

/-- What happens without beginning anything leaves the order of what was begun. -/
theorem InTurn.snoc (h : InTurn actions turns o) (a : Action) :
    InTurn (actions ++ [a]) turns o := by
  rw [InTurn, List.filterMap_append]
  exact h.trans (List.sublist_append_left _ _)

/-- What begins to wait waits behind all others. -/
theorem InTurn.waits (h : InTurn actions turns o) {a : Action} {w : Waiter}
    (ha : a.waiter? = some w) :
    InTurn (actions ++ [a]) turns { o with waiting := o.waiting ++ [w] } := by
  have hlast : [a].filterMap Action.waiter? = [w] := by simp [ha]
  rw [InTurn, List.filterMap_append, hlast, ← List.append_assoc]
  exact h.append (List.Sublist.refl _)

/-- Whose turn it is waits in front of all others. -/
theorem Sound.waiting_of_isTurn (h : Sound actions turns done o) {w : Waiter} (hw : w ∈ o.waiting)
    (hturn : o.isTurn w.number = true) : ∃ rest, o.waiting = w :: rest := by
  have honce : o.waiting.countP (·.number = w.number) ≤ 1 := by
    have hle := h.numbered.places_le w.number
    rw [places] at hle
    omega
  cases hwaiting : o.waiting with
  | nil =>
    rw [hwaiting] at hw
    cases hw
  | cons v rest =>
    obtain ⟨-, first, hfirst, hnumber⟩ := isTurn_iff.1 hturn
    rw [hwaiting] at honce hw hfirst
    cases hfirst
    obtain rfl : v = w := eq_of_countP_le_one honce List.mem_cons_self hw
      (decide_eq_true hnumber) (decide_eq_true rfl)
    exact ⟨rest, rfl⟩

/-- Only the first that waits gets hold of the sink. -/
theorem InTurn.poll (h : InTurn actions turns o) (hsound : Sound actions turns done o) {w : Waiter}
    (hw : w ∈ o.waiting) (hpoll : o.Poll w next) :
    InTurn actions (turns ++ o.gained next) next := by
  cases hpoll with
  | wait => exact h.of_sublist (List.Sublist.refl _) (gained_of_active_eq rfl)
  | close => exact h.of_sublist List.filter_sublist (gained_of_active_eq rfl)
  | shut _ hactive => exact h.of_sublist List.filter_sublist (gained_of_active_eq_none hactive)
  | hold s _ hactive _ hturn =>
    obtain ⟨rest, hwaiting⟩ := hsound.waiting_of_isTurn hw hturn
    have hgained : o.gained { o.dismiss s.number with active := some ⟨s, 0⟩ } = [s] := by
      simp only [gained, hactive]
    have hleft : (o.dismiss s.number).waiting.Sublist rest := by
      rw [waiting_dismiss, hwaiting, List.filter_cons_of_neg (by simp)]
      exact List.filter_sublist
    rw [InTurn, hwaiting] at h
    rw [hgained, InTurn, List.map_append, List.append_assoc]
    exact ((hleft.append_left [.send s]).append_left _).trans h

/-- Every step keeps the order. -/
theorem InTurn.step {metrics counted : Metrics} {action : Action} (h : InTurn actions turns o)
    (hsound : Sound actions turns done o) (hstep : o.Step metrics action next counted) :
    InTurn (actions ++ [action]) (turns ++ o.gained next) next := by
  have hkept {n : Outbound} (hwaiting : n.waiting.Sublist o.waiting) (hgained : o.gained n = []) :
      InTurn (actions ++ [action]) (turns ++ o.gained n) n :=
    (h.of_sublist hwaiting hgained).snoc action
  have hsame : o.waiting.Sublist o.waiting := List.Sublist.refl _
  cases hstep with
  | begins w hnew hw hpoll =>
    exact (h.waits hw).poll (hsound.waits hnew hw) (List.mem_append_right _ List.mem_cons_self)
      hpoll
  | poll w hw hpoll => exact (h.poll hsound hw hpoll).snoc _
  | reject => exact hkept hsame (gained_of_active_eq rfl)
  | look => exact hkept hsame (gained_of_active_eq rfl)
  | cancel => exact hkept hsame (gained_of_active_eq_none rfl)
  | accept a count hactive => exact hkept hsame (by simp only [gained, hactive])
  | flush => exact hkept hsame (gained_of_active_eq_none rfl)
  | refuse => exact hkept hsame (gained_of_active_eq_none rfl)
  | abandonHolder => exact hkept hsame (gained_of_active_eq_none rfl)
  | abandonWaiter => exact hkept List.filter_sublist (gained_of_active_eq rfl)
  | turn => exact hkept hsame (gained_of_active_eq rfl)

/-- Sends get hold of the sink in the order of their start, whatever happens. -/
theorem History.inTurn_of_after? {c : History} (h : after? History.step? .start actions = some c)
    (hkept : ∀ a ∈ actions, a.isAbandon = false) : InTurn actions c.turns c.outbound := by
  refine after?_induction (motive := fun actions c => (∀ a ∈ actions, a.isAbandon = false) →
    InTurn actions c.turns c.outbound) ?_ ?_ h hkept
  · exact fun _ => List.Sublist.refl _
  · intro actions c a next hbefore hturn hstep hkept
    have hearlier : ∀ b ∈ actions, b.isAbandon = false := fun b hb =>
      hkept b (List.mem_append_left _ hb)
    obtain ⟨done, hsound⟩ := History.sound_of_after? hbefore hearlier
    obtain ⟨⟨outbound, metrics⟩, houtbound, rfl⟩ := Option.map_eq_some_iff.1 hstep
    exact (hturn hearlier).step hsound (step_of_step? houtbound)

/-! ## What was sent -/

/-- The send that an action starts. -/
def Action.send? : Action → Option (Nat × Envelope)
  | .send number e => some (number, e)
  | _ => none

/-- All sends that were started, in order. -/
def sends (actions : List Action) : List (Nat × Envelope) := actions.filterMap Action.send?

/-- Whether a number ended well. -/
def isOver (o : Outbound) (number : Nat) : Bool :=
  match o.result? number with
  | some (.ok ()) => true
  | _ => false

/-- The sends that ended well, in the order of their start. -/
def sent (actions : List Action) (o : Outbound) : List (Nat × Envelope) :=
  (sends actions).filter fun s => o.isOver s.1

/-- A send was started if it is among those that were. -/
theorem mem_sends_iff (actions : List Action) (number : Nat) (e : Envelope) :
    (number, e) ∈ sends actions ↔ .send number e ∈ actions := by
  simp only [sends, List.mem_filterMap]
  constructor
  · rintro ⟨a, ha, hsend⟩
    cases a with
    | send n f =>
      cases hsend
      exact ha
    | _ => cases hsend
  · exact fun h => ⟨_, h, rfl⟩

/-- What ended well has this result. -/
theorem isOver_iff (o : Outbound) (number : Nat) :
    o.isOver number = true ↔ o.result? number = some (.ok ()) := by
  unfold isOver
  split
  · rename_i hresult
    simp [hresult]
  · rename_i hother
    exact ⟨fun h => absurd h Bool.false_ne_true, fun h => absurd h hother⟩

/-- Sends that waited in some order were started in this order. -/
theorem exists_sublist_sends {waited : List Send}
    (h : (waited.map Waiter.send).Sublist (actions.filterMap Action.waiter?)) :
    ∃ started : List (Nat × Envelope), started.Sublist (sends actions) ∧
      started.map (fun s => (s.1, s.2.toFrame)) =
        waited.map fun s => (s.number, Except.ok s.frame) := by
  induction actions generalizing waited with
  | nil =>
    have hnone : waited = [] := List.map_eq_nil_iff.1 (List.sublist_nil.1 h)
    exact ⟨[], List.Sublist.refl _, by rw [hnone]; rfl⟩
  | cons a rest ih =>
    have hmore : (sends rest).Sublist (sends (a :: rest)) :=
      (List.sublist_cons_self a rest).filterMap _
    have hskip (hrest : (waited.map Waiter.send).Sublist (rest.filterMap Action.waiter?)) :
        ∃ started : List (Nat × Envelope), started.Sublist (sends (a :: rest)) ∧
          started.map (fun s => (s.1, s.2.toFrame)) =
            waited.map fun s => (s.number, Except.ok s.frame) := by
      obtain ⟨started, hstarted, hframes⟩ := ih hrest
      exact ⟨started, hstarted.trans hmore, hframes⟩
    cases hw : a.waiter? with
    | none =>
      rw [List.filterMap_cons_none hw] at h
      exact hskip h
    | some w =>
      rw [List.filterMap_cons_some hw, List.sublist_cons_iff] at h
      rcases h with hrest | ⟨others, hwaited, hrest⟩
      · exact hskip hrest
      · obtain ⟨s, later, rfl, rfl, rfl⟩ := List.map_eq_cons_iff.1 hwaited
        obtain ⟨e, rfl, hframe, -⟩ := (waiter?_eq_some_send_iff a s).1 hw
        obtain ⟨started, hstarted, hframes⟩ := ih hrest
        refine ⟨(s.number, e) :: started, hstarted.cons_cons _, ?_⟩
        rw [List.map_cons, List.map_cons, hframes, hframe]

/-- A part of some list that has just what a test lets through is what the test lets through. -/
theorem filter_eq_of_sublist {α : Type} {xs ys : List α} {p : α → Bool} (h : xs.Sublist ys)
    (hys : ys.Nodup) (hp : ∀ y ∈ ys, p y = true ↔ y ∈ xs) : ys.filter p = xs := by
  induction h with
  | slnil => rfl
  | @cons xs ys a h ih =>
    obtain ⟨ha, hys⟩ := List.nodup_cons.1 hys
    have hstopped : ¬p a = true := fun hpass =>
      ha (h.subset ((hp a List.mem_cons_self).1 hpass))
    rw [List.filter_cons_of_neg hstopped]
    exact ih hys fun y hy => hp y (List.mem_cons_of_mem _ hy)
  | @cons_cons xs ys a h ih =>
    obtain ⟨ha, hys⟩ := List.nodup_cons.1 hys
    rw [List.filter_cons_of_pos ((hp a List.mem_cons_self).2 List.mem_cons_self)]
    refine congrArg (a :: ·) (ih hys fun y hy => (hp y (List.mem_cons_of_mem _ hy)).trans ?_)
    rw [List.mem_cons, or_iff_right]
    rintro rfl
    exact ha hy

/-- No send is started twice. -/
theorem nodup_sends (h : ∀ n, actions.countP (·.begins n) ≤ 1) : (sends actions).Nodup := by
  induction actions with
  | nil => exact List.nodup_nil
  | cons a rest ih =>
    have hrest (n : Nat) : rest.countP (·.begins n) ≤ 1 :=
      Nat.le_trans ((List.sublist_cons_self a rest).countP_le) (h n)
    cases ha : a.send? with
    | none =>
      rw [sends, List.filterMap_cons_none ha]
      exact ih hrest
    | some s =>
      rw [sends, List.filterMap_cons_some ha]
      refine List.nodup_cons.2 ⟨fun hmem => ?_, ih hrest⟩
      have hagain := (mem_sends_iff rest s.1 s.2).1 hmem
      have hbegins : a.begins s.1 = true := by
        cases a with
        | send number e =>
          cases ha
          exact decide_eq_true rfl
        | _ => cases ha
      have hpos : 0 < rest.countP (·.begins s.1) :=
        List.countP_pos_iff.2 ⟨_, hagain, decide_eq_true rfl⟩
      have htwice := h s.1
      rw [List.countP_cons, if_pos hbegins] at htwice
      omega

/-- The frames of sends that were started. -/
def framesOf (started : List (Nat × Envelope)) : Bytes :=
  started.flatMap fun s => Frame.layout s.2.toBytes

/-- What was started has a frame where it got hold of the sink. -/
theorem framesOf_eq {started : List (Nat × Envelope)} {waited : List Send}
    (h : started.map (fun s => (s.1, s.2.toFrame)) =
      waited.map fun s => (s.number, Except.ok s.frame)) :
    framesOf started = waited.flatMap Send.frame := by
  induction waited generalizing started with
  | nil => rw [List.map_eq_nil_iff.1 h]; rfl
  | cons s waited ih =>
    obtain ⟨⟨number, e⟩, later, rfl, hfirst, hlater⟩ := List.map_eq_cons_iff.1 h
    have hframe : e.toFrame = .ok s.frame := (Prod.ext_iff.1 hfirst).2
    have hlayout := ((Frame.encode_eq_ok_iff _ _).1 hframe).2
    rw [List.flatMap_cons, ← ih hlater, hlayout]
    rfl

/-- A send that ended well has a frame. -/
theorem Sound.exists_frame_of_mem_sent (h : Sound actions turns done o) (hdone : done <+: turns)
    {s : Nat × Envelope} (hs : s ∈ sent actions o) : ∃ frame, s.2.toFrame = .ok frame := by
  obtain ⟨hmem, hover⟩ := List.mem_filter.1 hs
  have hsend := (mem_sends_iff actions s.1 s.2).1 hmem
  obtain ⟨t, ht, hnumber⟩ := (h.result?_eq_ok_iff hsend).1 ((isOver_iff o s.1).1 hover)
  obtain ⟨e, he, hframe⟩ := h.exists_send_of_mem_turns (hdone.subset ht)
  rw [hnumber] at he
  cases h.numbered.begins_unique hsend he (decide_eq_true rfl) (decide_eq_true rfl)
  exact ⟨_, hframe⟩

/-- The frames of the sends that ended well are those of the sends that are done, in the same
order. -/
theorem Sound.framesOf_sent (h : Sound actions turns done o)
    (horder : (done.map Waiter.send).Sublist (actions.filterMap Action.waiter?)) :
    framesOf (sent actions o) = done.flatMap Send.frame := by
  obtain ⟨started, hstarted, hframes⟩ := exists_sublist_sends horder
  have hnumbers : started.map Prod.fst = done.map Send.number := by
    have hfirst := congrArg (List.map Prod.fst) hframes
    rwa [List.map_map, List.map_map] at hfirst
  have honce (n : Nat) : actions.countP (·.begins n) ≤ 1 := by
    rw [← h.numbered.places_eq]
    exact h.numbered.places_le n
  have hsent : sent actions o = started := by
    refine filter_eq_of_sublist hstarted (nodup_sends honce) ?_
    rintro ⟨number, e⟩ hs
    have hsend := (mem_sends_iff actions number e).1 hs
    rw [isOver_iff, h.result?_eq_ok_iff hsend]
    constructor
    · rintro ⟨s, hdone, hnumber⟩
      have hmem : s.number ∈ started.map Prod.fst := hnumbers ▸ List.mem_map_of_mem hdone
      obtain ⟨⟨n, f⟩, hf, hn⟩ := List.mem_map.1 hmem
      -- The number was started once, so it is the same envelope.
      obtain rfl : n = number := hn.trans hnumber
      have hother := (mem_sends_iff actions n f).1 (hstarted.subset hf)
      cases h.numbered.begins_unique hsend hother (decide_eq_true rfl) (decide_eq_true rfl)
      exact hf
    · intro hmem
      have hnumber : number ∈ done.map Send.number := hnumbers ▸ List.mem_map_of_mem hmem
      exact List.mem_map.1 hnumber
  rw [hsent, framesOf_eq hframes]

end Outbound

end Courier
