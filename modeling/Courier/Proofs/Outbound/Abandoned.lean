import Courier.Proofs.Frame.Parse
import Courier.Proofs.Outbound.Integrity

/-!
# Sends that are given up from outside

A send that fails gives the sink up for good, since a part of its frame may have left. A send that
is given up from outside does not get that far: it lets go of the sink and leaves it to the next
one. So a frame that breaks off is the last thing on the wire unless its send was given up from
outside, and then whoever gets hold of the sink next is written right behind the part that has left
and ends well (`written_behind_abandoned`).
-/

namespace Courier

namespace Outbound

/-- The bytes that the sink has taken of a frame. -/
def Active.bytes (a : Active) : Bytes := a.send.frame.take a.taken

/-- Whether the sink has taken a part of a frame, but not all of it. -/
def Active.IsTorn (a : Active) : Prop := 0 < a.taken ∧ a.taken < a.send.frame.length

/-- How a send lets go of the sink. -/
inductive Leave where
  | flushed
  | failed
  | abandoned
deriving DecidableEq, Repr

/-- A send that held the sink, with what the sink has taken of its frame, and how it let go. -/
structure FormerHolder where
  holder : Active
  leave : Leave
deriving DecidableEq, Repr

/-- How a send lets go of the sink by an action. -/
def Action.leave : Action → Leave
  | .flush => .flushed
  | .abandon _ => .abandoned
  | _ => .failed

/-- The send that lets go of the sink between two states. -/
def released (o next : Outbound) (action : Action) : List FormerHolder :=
  match o.active, next.active with
  | some a, none => [⟨a, action.leave⟩]
  | _, _ => []

/-- The sending side, and the sends that have let go of the sink, in order. -/
structure SinkHistory where
  outbound : Outbound
  metrics : Metrics
  left : List FormerHolder

/-- The sending side with a new sink. -/
def SinkHistory.start : SinkHistory := ⟨.start, .zero, []⟩

/-- What an action leads to, if it can happen. -/
def SinkHistory.step? (t : SinkHistory) (action : Action) : Option SinkHistory :=
  (t.outbound.step? t.metrics action).map fun (outbound, metrics) =>
    ⟨outbound, metrics, t.left ++ t.outbound.released outbound action⟩

/-- What the sink has taken of the frame of the send that holds it. -/
def part (o : Outbound) : Bytes := o.active.elim [] Active.bytes

/-- Whether an action lets a send get hold of the sink, whose frame is then written behind all that
the sink has taken, and which ends well. -/
structure SinkHistory.WritesBehind (t : SinkHistory) (action : Action) (s : Send) : Prop where
  part (count : Nat) (hpos : 0 < count) (hcount : count ≤ s.frame.length) :
    ∃ u, after? step? t [action, .accept count] = some u ∧
      u.outbound.written = t.outbound.written ++ s.frame.take count
  whole (hframe : s.frame ≠ []) :
    ∃ u, after? step? t [action, .accept s.frame.length, .flush] = some u ∧
      u.outbound.written = t.outbound.written ++ s.frame ∧
      u.outbound.result? s.number = some (.ok ())

/-- What is known of the sends that have let go of the sink, and of the one that holds it. -/
structure HoldersKnown (t : SinkHistory) : Prop where
  places_le (number : Nat) : t.outbound.places number ≤ 1
  attached (hactive : t.outbound.active ≠ none) : t.outbound.attached = true
  taken_le (a : Active) (hactive : t.outbound.active = some a) : a.taken ≤ a.send.frame.length
  written_eq : t.outbound.written = t.left.flatMap (·.holder.bytes) ++ t.outbound.part
  flushed (l : FormerHolder) (hl : l ∈ t.left) (hleave : l.leave = .flushed) :
    l.holder.taken = l.holder.send.frame.length
  failed (before later : List FormerHolder) (l : FormerHolder)
    (hleft : t.left = before ++ l :: later)
    (hleave : l.leave = .failed) : later = [] ∧ Detached t.outbound

/-- What a step does to the hold of the sink. -/
inductive HolderStep (o : Outbound) (action : Action) (next : Outbound) : Prop where
  | same (hactive : next.active = o.active) (hwritten : next.written = o.written)
      (hattached : o.active ≠ none → next.attached = o.attached)
  | gets (s : Send) (hfree : o.active = none) (hactive : next.active = some ⟨s, 0⟩)
      (hattached : next.attached = true) (hwritten : next.written = o.written)
  | goesOn (a : Active) (count : Nat) (hholds : o.active = some a)
      (hactive : next.active = some { a with taken := a.taken + count })
      (hattached : next.attached = o.attached) (hcount : a.taken + count ≤ a.send.frame.length)
      (hwritten : next.written = o.written ++ (a.send.frame.drop a.taken).take count)
  | lets (a : Active) (hholds : o.active = some a) (hactive : next.active = none)
      (hwritten : next.written = o.written)
      (hflushed : action.leave = .flushed → a.taken = a.send.frame.length)
      (hfailed : action.leave = .failed → next.attached = false)

variable {actions : List Action} {action : Action} {t u : SinkHistory} {o next : Outbound}
  {metrics counted : Metrics} {a : Active} {s : Send} {number : Nat}

/-! ## Who lets go -/

/-- Nobody lets go of a sink that nobody holds. -/
theorem released_of_active_eq_none (h : o.active = none) (action : Action) :
    o.released next action = [] := by
  rw [released, h]

/-- Nobody lets go of a sink that somebody holds afterwards. -/
theorem released_of_active_eq_some (h : next.active = some a) (action : Action) :
    o.released next action = [] := by
  rw [released, h]
  cases o.active <;> rfl

/-- Nobody lets go of the sink where the same holds it as before. -/
theorem released_of_active_eq (h : next.active = o.active) (action : Action) :
    o.released next action = [] := by
  cases hactive : o.active with
  | none => exact released_of_active_eq_none hactive action
  | some a => exact released_of_active_eq_some (h.trans hactive) action

/-- Who held the sink that nobody holds any more has let go of it. -/
theorem released_of_release (h : o.active = some a) (hnext : next.active = none)
    (action : Action) : o.released next action = [⟨a, action.leave⟩] := by
  rw [released, h, hnext]

/-- A step of the history is a step of the sending side, and says who lets go. -/
theorem SinkHistory.step_of_step? (h : t.step? action = some u) :
    t.outbound.Step t.metrics action u.outbound u.metrics ∧
      u.left = t.left ++ t.outbound.released u.outbound action := by
  obtain ⟨⟨outbound, metrics⟩, houtbound, rfl⟩ := Option.map_eq_some_iff.1 h
  exact ⟨Outbound.step_of_step? houtbound, rfl⟩

/-! ## Who holds the sink -/

/-- Looking again may get hold of the sink, and does nothing else to it. -/
theorem Poll.toHolderStep {w : Waiter} {waits : Outbound} (hpoll : waits.Poll w next)
    (hactive : waits.active = o.active) (hattached : waits.attached = o.attached)
    (hwritten : waits.written = o.written) : o.HolderStep action next := by
  cases hpoll with
  | wait => exact .same hactive hwritten fun _ => hattached
  | close => exact .same hactive hwritten fun _ => hattached
  | hold s _ hfree hstill => exact .gets s (hactive.symm.trans hfree) rfl hstill hwritten
  | shut _ hfree =>
    exact .same hactive hwritten fun hholds => absurd (hactive.symm.trans hfree) hholds

/-- Nothing else happens to the hold of the sink. -/
theorem Step.toHolderStep (hstep : o.Step metrics action next counted) :
    o.HolderStep action next := by
  cases hstep with
  | reject => exact .same rfl rfl fun _ => rfl
  | begins w _ _ hpoll => exact hpoll.toHolderStep rfl rfl rfl
  | look => exact .same rfl rfl fun _ => rfl
  | cancel a hholds => exact .lets a hholds rfl rfl Leave.noConfusion fun _ => rfl
  | poll w _ hpoll => exact hpoll.toHolderStep rfl rfl rfl
  | accept a count hholds _ hcount => exact .goesOn a count hholds rfl rfl hcount rfl
  | flush a hholds _ htaken => exact .lets a hholds rfl rfl (fun _ => htaken) Leave.noConfusion
  | refuse a reason hholds => exact .lets a hholds rfl rfl Leave.noConfusion fun _ => rfl
  | abandonHolder a hholds => exact .lets a hholds rfl rfl Leave.noConfusion Leave.noConfusion
  | abandonWaiter => exact .same rfl rfl fun _ => rfl
  | turn => exact .same rfl rfl fun _ => rfl

/-- What begins was not known. -/
theorem Step.isKnown_eq_false (hstep : o.Step metrics action next counted)
    (hbegins : action.begins number = true) : o.isKnown number = false := by
  cases hstep with
  | reject n e fault hnew =>
    obtain rfl : n = number := of_decide_eq_true hbegins
    exact hnew
  | begins w hnew haction =>
    rw [begins_of_waiter? haction] at hbegins
    obtain rfl : w.number = number := of_decide_eq_true hbegins
    exact hnew
  | _ => cases hbegins

/-- A number that is in one place at most stays so. -/
theorem Step.places_le_one (hstep : o.Step metrics action next counted)
    (h : o.places number ≤ 1) : next.places number ≤ 1 := by
  have hmore := hstep.places_le number
  split at hmore
  · have hfree : ¬0 < o.places number := by
      rw [← isKnown_iff, hstep.isKnown_eq_false ‹_›]
      exact Bool.false_ne_true
    omega
  · omega

/-! ## What is known of the sends that held the sink -/

/-- At first there is nothing to know. -/
theorem holdersKnown_start : HoldersKnown .start where
  places_le _ := Nat.zero_le 1
  attached _ := rfl
  taken_le _ hactive := by cases hactive
  written_eq := rfl
  flushed _ hl := absurd hl List.not_mem_nil
  failed _ _ _ hleft := by simp [SinkHistory.start] at hleft

/-- Where somebody holds the sink nobody has failed. -/
theorem HoldersKnown.leave_ne_failed (h : HoldersKnown t) (ha : t.outbound.active = some a)
    (l : FormerHolder)
    (hl : l ∈ t.left) : l.leave ≠ .failed := by
  intro hleave
  obtain ⟨before, later, hleft⟩ := List.append_of_mem hl
  cases (h.failed before later l hleft hleave).2.active.symm.trans ha

/-- What is known of the sends that held the sink goes on to be known where nobody lets go. -/
theorem HoldersKnown.of_kept (h : HoldersKnown t)
    (hstep : t.outbound.Step t.metrics action u.outbound u.metrics) (hleft : u.left = t.left)
    (hattached : u.outbound.active ≠ none → u.outbound.attached = true)
    (htaken : ∀ a, u.outbound.active = some a → a.taken ≤ a.send.frame.length)
    (hwritten : u.outbound.written = t.left.flatMap (·.holder.bytes) ++ u.outbound.part) :
    HoldersKnown u where
  places_le n := hstep.places_le_one (h.places_le n)
  attached := hattached
  taken_le := htaken
  written_eq := by rw [hleft, hwritten]
  flushed := hleft ▸ h.flushed
  failed before later l hsplit hleave := by
    obtain ⟨hlast, hdetached⟩ := h.failed before later l (hleft ▸ hsplit) hleave
    exact ⟨hlast, (hdetached.step hstep).1⟩

/-- What is known of the sends that held the sink goes on to be known where one lets go. -/
theorem HoldersKnown.of_let (h : HoldersKnown t)
    (hstep : t.outbound.Step t.metrics action u.outbound u.metrics)
    (hleft : u.left = t.left ++ [⟨a, action.leave⟩]) (hholds : t.outbound.active = some a)
    (hactive : u.outbound.active = none) (hsame : u.outbound.written = t.outbound.written)
    (hflushed : action.leave = .flushed → a.taken = a.send.frame.length)
    (hfailed : action.leave = .failed → u.outbound.attached = false) : HoldersKnown u where
  places_le n := hstep.places_le_one (h.places_le n)
  attached hstill := absurd hactive hstill
  taken_le b hb := by cases hactive.symm.trans hb
  written_eq := by
    rw [hsame, h.written_eq, hleft, part, part, hactive, hholds, List.flatMap_append,
      List.flatMap_singleton]
    exact (List.append_nil _).symm
  flushed l hl hleave := by
    rw [hleft] at hl
    rcases List.mem_append.1 hl with hl | hl
    · exact h.flushed l hl hleave
    · obtain rfl := List.mem_singleton.1 hl
      exact hflushed hleave
  failed before later l hsplit hleave := by
    rw [hleft] at hsplit
    rcases List.eq_nil_or_concat later with rfl | ⟨first, last, rfl⟩
    · obtain ⟨-, hl⟩ := List.append_inj' hsplit rfl
      obtain rfl := List.singleton_inj.1 hl
      exact ⟨rfl, hfailed hleave, hactive⟩
    · -- Whoever held the sink before has not failed, since the sink was still there.
      have hmem : l ∈ t.left := by
        rw [List.concat_eq_append, ← List.cons_append, ← List.append_assoc] at hsplit
        rw [(List.append_inj' hsplit rfl).1]
        exact List.mem_append_right _ List.mem_cons_self
      exact absurd hleave (h.leave_ne_failed hholds l hmem)

/-- Every step keeps all that is known. -/
theorem HoldersKnown.step (h : HoldersKnown t) (hstep : t.step? action = some u) :
    HoldersKnown u := by
  obtain ⟨hstep, hleft⟩ := SinkHistory.step_of_step? hstep
  have hwritten := h.written_eq
  cases hstep.toHolderStep with
  | same hactive hsame hattached =>
    rw [released_of_active_eq hactive, List.append_nil] at hleft
    refine h.of_kept hstep hleft ?_ ?_ ?_
    · rw [hactive]
      exact fun hholds => (hattached hholds).trans (h.attached hholds)
    · rw [hactive]
      exact h.taken_le
    · rw [hsame, part, hactive]
      exact hwritten
  | gets s hfree hactive hattached hsame =>
    rw [released_of_active_eq_none hfree, List.append_nil] at hleft
    refine h.of_kept hstep hleft (fun _ => hattached) ?_ ?_
    · rintro a ha
      obtain rfl := Option.some.inj (hactive.symm.trans ha)
      exact Nat.zero_le _
    · rw [hsame, hwritten, part, part, hactive, hfree]
      rfl
  | goesOn a count hholds hactive hattached hcount hmore =>
    rw [released_of_active_eq_some hactive, List.append_nil] at hleft
    refine h.of_kept hstep hleft (fun _ => ?_) ?_ ?_
    · exact hattached.trans (h.attached (by simp [hholds]))
    · rintro b hb
      obtain rfl := Option.some.inj (hactive.symm.trans hb)
      exact hcount
    · rw [hmore, hwritten, part, part, hactive, hholds, List.append_assoc]
      exact congrArg _ List.take_add.symm
  | lets a hholds hactive hsame hflushed hfailed =>
    rw [released_of_release hholds hactive] at hleft
    exact h.of_let hstep hleft hholds hactive hsame hflushed hfailed

/-- All that is known is known after any actions. -/
theorem holdersKnown_of_after? (h : after? SinkHistory.step? .start actions = some t) :
    HoldersKnown t :=
  after?_induction (motive := fun _ t => HoldersKnown t) holdersKnown_start
    (fun _ _ _ _ _ hknown hstep => hknown.step hstep) h

/-- A part of a frame that is not the last thing on the wire was left by a send that was given up
from outside. -/
theorem HoldersKnown.abandoned_of_followed (h : HoldersKnown t) {before later : List FormerHolder}
    {l : FormerHolder}
    (hleft : t.left = before ++ l :: later) (htorn : l.holder.IsTorn)
    (hfollowed : later.flatMap (·.holder.bytes) ++ t.outbound.part ≠ []) :
    l.leave = .abandoned := by
  have hl : l ∈ t.left := hleft ▸ List.mem_append_right _ List.mem_cons_self
  cases hleave : l.leave with
  | flushed => exact absurd (h.flushed l hl hleave) (Nat.ne_of_lt htorn.2)
  | failed =>
    obtain ⟨rfl, hdetached⟩ := h.failed before later l hleft hleave
    rw [part, hdetached.active] at hfollowed
    exact absurd rfl hfollowed
  | abandoned => rfl

/-! ## What is written next -/

/-- Whoever waits first gets hold of a sink that nobody holds. -/
theorem pollWaiter_of_first {rest : List Waiter} (hfree : o.active = none)
    (hattached : o.attached = true) (huncancelled : o.cancelled = false)
    (hwaiting : o.waiting = .send s :: rest) :
    o.pollWaiter (.send s) = { o.dismiss s.number with active := some ⟨s, 0⟩ } := by
  have hturn : o.isTurn s.number = true := by simp [hfree, hwaiting]
  simp [pollWaiter, huncancelled, hturn, hattached]

/-- A send that has got hold of the sink has its frame written, if nothing comes in between. -/
theorem HoldersKnown.takes (h : HoldersKnown t) (hstep : t.step? action = some u)
    (hactive : u.outbound.active = some ⟨s, 0⟩) (huncancelled : u.outbound.cancelled = false)
    (hwritten : u.outbound.written = t.outbound.written) : t.WritesBehind action s := by
  have hrunning : u.outbound.running? = some ⟨s, 0⟩ :=
    running?_eq_some_iff.2 ⟨hactive, huncancelled⟩
  have haccept (count : Nat) (hpos : 0 < count) (hcount : count ≤ s.frame.length) :
      ∃ v, u.step? (.accept count) = some v ∧ v.outbound = { u.outbound with
        written := u.outbound.written ++ s.frame.take count, active := some ⟨s, count⟩ } := by
    simp [SinkHistory.step?, Outbound.step?, hrunning, hpos, hcount]
  constructor
  · intro count hpos hcount
    obtain ⟨v, hv, houtbound⟩ := haccept count hpos hcount
    refine ⟨v, after?_cons hstep (after?_cons hv rfl), ?_⟩
    rw [houtbound, hwritten]
  · intro hframe
    obtain ⟨v, hv, houtbound⟩ :=
      haccept s.frame.length (List.length_pos_iff.2 hframe) (Nat.le_refl _)
    have hholds : v.outbound.running? = some ⟨s, s.frame.length⟩ :=
      running?_eq_some_iff.2 (by simp [houtbound, huncancelled])
    obtain ⟨w, hw, hends⟩ : ∃ w, v.step? .flush = some w ∧ w.outbound =
        { v.outbound with active := none }.finish s.number (.ok ()) := by
      simp [SinkHistory.step?, Outbound.step?, hholds]
    have hknown := ((h.step hstep).step hv).step hw
    refine ⟨w, after?_cons hstep (after?_cons hv (after?_cons hw rfl)), ?_, ?_⟩
    · rw [hends, ← hwritten]
      simp [houtbound]
    · rw [result?_eq_some_iff (hknown.places_le _), hends]
      exact List.mem_append_right _ List.mem_cons_self

/-- A send that waits first gets hold of the sink when it looks again. -/
theorem HoldersKnown.takes_poll (h : HoldersKnown t) {rest : List Waiter}
    (hfree : t.outbound.active = none) (hattached : t.outbound.attached = true)
    (huncancelled : t.outbound.cancelled = false)
    (hwaiting : t.outbound.waiting = .send s :: rest) :
    t.WritesBehind (.poll s.number) s := by
  obtain ⟨u, hu, houtbound⟩ : ∃ u, t.step? (.poll s.number) = some u ∧
      u.outbound = { t.outbound.dismiss s.number with active := some ⟨s, 0⟩ } := by
    have hpoll : t.outbound.poll? s.number = some (t.outbound.pollWaiter (.send s)) := by
      simp [poll?, hfree, hwaiting]
    rw [pollWaiter_of_first hfree hattached huncancelled hwaiting] at hpoll
    simp [SinkHistory.step?, Outbound.step?, hpoll]
  refine h.takes hu ?_ ?_ ?_ <;> rw [houtbound]
  · exact huncancelled
  · rfl

/-- A send that starts where nobody waits gets hold of the sink at once. -/
theorem HoldersKnown.takes_send (h : HoldersKnown t) {e : Envelope} {frame : Bytes}
    (hfree : t.outbound.active = none) (hattached : t.outbound.attached = true)
    (huncancelled : t.outbound.cancelled = false) (hwaiting : t.outbound.waiting = [])
    (hnew : t.outbound.isKnown number = false) (hframe : e.toFrame = .ok frame) :
    t.WritesBehind (.send number e) ⟨number, e.subject, frame⟩ := by
  obtain ⟨u, hu, houtbound⟩ : ∃ u, t.step? (.send number e) = some u ∧
      u.outbound = { ({ t.outbound with waiting := t.outbound.waiting ++
        [.send ⟨number, e.subject, frame⟩] } : Outbound).dismiss number with
          active := some ⟨⟨number, e.subject, frame⟩, 0⟩ } := by
    have hgets := pollWaiter_of_first (s := ⟨number, e.subject, frame⟩)
      (o := { t.outbound with waiting := t.outbound.waiting ++
        [.send ⟨number, e.subject, frame⟩] }) hfree hattached huncancelled
      (by rw [hwaiting, List.nil_append])
    simp [SinkHistory.step?, Outbound.step?, hnew, hframe, enqueue, hgets]
  refine h.takes hu ?_ ?_ ?_ <;> rw [houtbound]
  · exact huncancelled
  · rfl

/-- A send that is given up from outside while it holds the sink leaves it as it is. -/
theorem SinkHistory.step?_abandon (ha : t.outbound.active = some a) :
    t.step? (.abandon a.send.number) =
      some ⟨{ t.outbound with active := none }, t.metrics, t.left ++ [⟨a, .abandoned⟩]⟩ := by
  have hlets : t.outbound.released { t.outbound with active := none } (.abandon a.send.number) =
      [⟨a, .abandoned⟩] := released_of_release ha rfl _
  simp [SinkHistory.step?, Outbound.step?, ha, hlets]

/-- Only behind a send that was given up from outside is a part of a frame followed by anything, and
behind each of those it can be.

The sink has taken from each send that held it a part of its frame: all of it where the send was
flushed. Where one failed there is no sink any more, and nothing else is written. So a part of a
frame that is followed by something was left by a send that was given up from outside. Such a send
keeps the sink attached, whatever the sink has taken of its frame: while the switch is off, the
first send that waits then, or any new one where nobody waits, has its frame written right behind
that part, and ends well. -/
theorem written_behind_abandoned (h : after? SinkHistory.step? .start actions = some t) :
    t.outbound.written = t.left.flatMap (·.holder.bytes) ++ t.outbound.part ∧
    (∀ l ∈ t.left, l.leave = .flushed → l.holder.bytes = l.holder.send.frame) ∧
    (∀ before l later, t.left = before ++ l :: later → l.leave = .failed →
      later = [] ∧ t.outbound.active = none ∧ t.outbound.attached = false) ∧
    (∀ before l later, t.left = before ++ l :: later → l.holder.IsTorn →
      later.flatMap (·.holder.bytes) ++ t.outbound.part ≠ [] → l.leave = .abandoned) ∧
    ∀ a, t.outbound.active = some a → t.outbound.cancelled = false →
      ∃ u, t.step? (.abandon a.send.number) = some u ∧ u.left = t.left ++ [⟨a, .abandoned⟩] ∧
        u.outbound.attached = true ∧ u.outbound.written = t.outbound.written ∧
        (∀ s rest, u.outbound.waiting = .send s :: rest → u.WritesBehind (.poll s.number) s) ∧
        (u.outbound.waiting = [] → ∀ number e frame, u.outbound.isKnown number = false →
          e.toFrame = .ok frame → u.WritesBehind (.send number e) ⟨number, e.subject, frame⟩) := by
  have hknown := holdersKnown_of_after? h
  refine ⟨hknown.written_eq, ?_, ?_, fun _ _ _ => hknown.abandoned_of_followed, ?_⟩
  · intro l hl hleave
    rw [Active.bytes, hknown.flushed l hl hleave, List.take_length]
  · intro before l later hleft hleave
    obtain ⟨hlast, hdetached⟩ := hknown.failed before later l hleft hleave
    exact ⟨hlast, hdetached.active, hdetached.attached⟩
  · intro a ha huncancelled
    have hattached := hknown.attached (by simp [ha])
    have hstep := SinkHistory.step?_abandon ha
    have hnext := hknown.step hstep
    exact ⟨_, hstep, rfl, hattached, rfl, fun s rest => hnext.takes_poll rfl hattached huncancelled,
      fun hwaiting number e frame => hnext.takes_send rfl hattached huncancelled hwaiting⟩

/-- Where a send is given up after ten bytes, the one that waits behind it gets hold of the sink. -/
theorem written_behind_abandoned_waiting :
    ∃ t u s, after? SinkHistory.step? .start [.send 0 ⟨"TASK", "", 1⟩, .send 1 ⟨"TASK", "", 2⟩,
        .accept 10] = some t ∧
      t.step? (.abandon 0) = some u ∧ u.outbound.written.length = 10 ∧ s.number = 1 ∧
      u.WritesBehind (.poll 1) s := by
  obtain ⟨t, ht⟩ : ∃ t, after? SinkHistory.step? .start [.send 0 ⟨"TASK", "", 1⟩,
      .send 1 ⟨"TASK", "", 2⟩, .accept 10] = some t :=
    Option.isSome_iff_exists.1 (by decide +kernel)
  have hstate : (after? SinkHistory.step? .start [.send 0 ⟨"TASK", "", 1⟩, .send 1 ⟨"TASK", "", 2⟩,
      .accept 10]).map (fun t => (t.outbound.written.length, t.outbound.cancelled,
        t.outbound.active.map (·.send.number), (t.step? (.abandon 0)).map (·.outbound.waiting))) =
      some (10, false, some 0,
        some [.send ⟨1, "TASK", Frame.layout (Envelope.toBytes ⟨"TASK", "", 2⟩)⟩]) := by
    decide +kernel
  rw [ht] at hstate
  simp only [Option.map_some, Option.some.injEq, Prod.mk.injEq] at hstate
  obtain ⟨hwritten, huncancelled, hholds, hwaiting⟩ := hstate
  obtain ⟨a, ha, hnumber⟩ := Option.map_eq_some_iff.1 hholds
  obtain ⟨-, -, -, -, habandon⟩ := written_behind_abandoned ht
  obtain ⟨u, hu, -, -, hsame, hpoll, -⟩ := habandon a ha huncancelled
  rw [hnumber] at hu
  rw [hu, Option.map_some, Option.some.injEq] at hwaiting
  exact ⟨t, u, _, ht, hu, hsame ▸ hwritten, rfl, hpoll _ _ hwaiting⟩

/-- A send that is given up after ten bytes has torn its frame, and the next one writes its own
right behind that part and ends well. -/
theorem torn_frame_followed :
    ∃ t first second, after? SinkHistory.step? .start
      [.send 0 ⟨"TASK", "", 1⟩, .accept 10, .abandon 0,
        .send 1 ⟨"TASK", "", 2⟩, .accept 39, .flush] = some t ∧
      Envelope.toFrame ⟨"TASK", "", 1⟩ = .ok first ∧ 10 < first.length ∧
      Envelope.toFrame ⟨"TASK", "", 2⟩ = .ok second ∧
      t.outbound.written = first.take 10 ++ second ∧ t.outbound.cancelled = false ∧
      t.outbound.result? 1 = some (.ok ()) := by
  obtain ⟨t, ht⟩ : ∃ t, after? SinkHistory.step? .start
    [.send 0 ⟨"TASK", "", 1⟩, .accept 10, .abandon 0,
        .send 1 ⟨"TASK", "", 2⟩, .accept 39, .flush] = some t :=
    Option.isSome_iff_exists.1 (by decide +kernel)
  have hstate : (after? SinkHistory.step? .start [.send 0 ⟨"TASK", "", 1⟩, .accept 10, .abandon 0,
      .send 1 ⟨"TASK", "", 2⟩, .accept 39, .flush]).map (fun t => (t.outbound.written,
        t.outbound.cancelled, (t.outbound.result? 1).map (·.toBool))) =
      some ((Frame.layout (Envelope.toBytes ⟨"TASK", "", 1⟩)).take 10 ++
        Frame.layout (Envelope.toBytes ⟨"TASK", "", 2⟩), false, some true) := by
    decide +kernel
  rw [ht] at hstate
  simp only [Option.map_some, Option.some.injEq, Prod.mk.injEq] at hstate
  obtain ⟨hwritten, huncancelled, hended⟩ := hstate
  obtain ⟨result, hresult, hgood⟩ := Option.map_eq_some_iff.1 hended
  refine ⟨t, _, _, ht, ?_, ?_, ?_, hwritten, huncancelled, ?_⟩
  · exact Frame.encode_eq_layout (by decide +kernel)
  · decide +kernel
  · exact Frame.encode_eq_layout (by decide +kernel)
  · cases result with
    | error failure => cases hgood
    | ok => exact hresult

end Outbound

end Courier
