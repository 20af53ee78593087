import Courier.Outbound

/-!
# Steps of the way out

What an action comes to depends on who holds the sink, on who waits for it and on the switch. All
that can happen is said once here, in `Step` and, for looking again at what is waited for, in
`Poll`.
-/

namespace Courier

namespace Outbound

/-- What waits for the sink after an action that begins something. -/
def Action.waiter? : Action → Option Waiter
  | .send number e =>
    match e.toFrame with
    | .ok frame => some (.send ⟨number, e.subject, frame⟩)
    | .error _ => none
  | .shutdown number => some (.shutdown number)
  | _ => none

/-- Whether an action begins something of some number. -/
def Action.begins (number : Nat) : Action → Bool
  | .send n _ | .shutdown n => n = number
  | _ => false

/-- What can come of looking again at what is waited for. -/
inductive Poll (o : Outbound) : Waiter → Outbound → Prop where
  | wait (w : Waiter) (hturn : o.isTurn w.number = false)
      (huncancelled : ∀ s, w = .send s → o.cancelled = false) : Poll o w o
  | close (s : Send) (hclosed : o.cancelled = true ∨ o.attached = false) :
    Poll o (.send s) ((o.dismiss s.number).fail s.number .closed)
  | hold (s : Send) (huncancelled : o.cancelled = false) (hactive : o.active = none)
      (hattached : o.attached = true) (hturn : o.isTurn s.number = true) :
    Poll o (.send s) { o.dismiss s.number with active := some ⟨s, 0⟩ }
  | shut (number : Nat) (hactive : o.active = none) (hturn : o.isTurn number = true) :
    Poll o (.shutdown number)
      ({ o.dismiss number with attached := false, shut := o.shut || o.attached }.finish number
        (.ok ()))

/-- What a step of the sending side can be. -/
inductive Step (o : Outbound) (metrics : Metrics) : Action → Outbound → Metrics → Prop where
  | reject (number : Nat) (e : Envelope) (fault : Frame.Fault) (hnew : o.isKnown number = false)
      (hframe : e.toFrame = .error fault) :
    Step o metrics (.send number e) (o.finish number (.error fault.failure)) metrics
  | begins {action : Action} {next : Outbound} (w : Waiter) (hnew : o.isKnown w.number = false)
      (haction : action.waiter? = some w)
      (hpoll : { o with waiting := o.waiting ++ [w] }.Poll w next) :
    Step o metrics action next metrics
  | look (number : Nat) (huncancelled : o.cancelled = false) :
    Step o metrics (.poll number) o metrics
  | cancel (a : Active) (hactive : o.active = some a) (hcancelled : o.cancelled = true) :
    Step o metrics (.poll a.send.number)
      (o.detach.fail a.send.number (.cancelled a.send.subject)) metrics
  | poll {next : Outbound} (w : Waiter) (hw : w ∈ o.waiting) (hpoll : o.Poll w next) :
    Step o metrics (.poll w.number) next metrics
  | accept (a : Active) (count : Nat) (hactive : o.active = some a)
      (huncancelled : o.cancelled = false)
      (hcount : a.taken + count ≤ a.send.frame.length) :
    Step o metrics (.accept count)
      { o with
        written := o.written ++ (a.send.frame.drop a.taken).take count
        active := some { a with taken := a.taken + count } } metrics
  | flush (a : Active) (hactive : o.active = some a) (huncancelled : o.cancelled = false)
      (htaken : a.taken = a.send.frame.length) :
    Step o metrics .flush ({ o with active := none }.finish a.send.number (.ok ()))
      (metrics.countSent a.send.frame.length)
  | refuse (a : Active) (reason : String) (hactive : o.active = some a)
      (huncancelled : o.cancelled = false) :
    Step o metrics (.refuse reason)
      (o.detach.fail a.send.number (.failed a.send.subject reason)) metrics
  | abandonHolder (a : Active) (hactive : o.active = some a) :
    Step o metrics (.abandon a.send.number) { o with active := none } metrics
  | abandonWaiter (w : Waiter) (hw : w ∈ o.waiting) :
    Step o metrics (.abandon w.number) (o.dismiss w.number) metrics
  | turn (on : Bool) : Step o metrics (.turn on) { o with cancelled := on } metrics

/-- Nothing else can come of looking again. -/
theorem poll_pollWaiter (o : Outbound) (w : Waiter) : o.Poll w (o.pollWaiter w) := by
  cases w with
  | send s =>
    simp only [pollWaiter]
    split
    · exact .close s (Or.inl ‹_›)
    · rename_i huncancelled
      have hoff : o.cancelled = false := eq_false_of_ne_true huncancelled
      split
      · rename_i hturn
        exact .wait (.send s) ((Bool.not_eq_true' _).mp hturn) fun _ _ => hoff
      · rename_i hturn
        split
        · rename_i hattached
          have hfirst : o.isTurn s.number = true := by simpa using hturn
          exact .hold s hoff (isTurn_iff.1 hfirst).1 hattached hfirst
        · rename_i hgone
          exact .close s (Or.inr (eq_false_of_ne_true hgone))
  | shutdown number =>
    simp only [pollWaiter]
    split
    · rename_i hturn
      exact .shut number (isTurn_iff.1 hturn).1 hturn
    · rename_i hturn
      exact .wait _ (eq_false_of_ne_true hturn) (by rintro s ⟨⟩)

/-- Nothing else can happen to the sending side. -/
theorem step_of_step? {o next : Outbound} {metrics counted : Metrics} {action : Action}
    (h : o.step? metrics action = some (next, counted)) : o.Step metrics action next counted := by
  cases action with
  | send number e =>
    simp only [step?] at h
    split at h
    · cases h
    · rename_i hnew
      have hfree : o.isKnown number = false := eq_false_of_ne_true hnew
      split at h
      · rename_i fault hframe
        cases h
        exact .reject number e fault hfree hframe
      · rename_i frame hframe
        cases h
        refine .begins (.send ⟨number, e.subject, frame⟩) hfree ?_ (poll_pollWaiter _ _)
        simp only [Action.waiter?, hframe]
  | shutdown number =>
    simp only [step?] at h
    split at h
    · cases h
    · rename_i hnew
      cases h
      exact .begins (.shutdown number) (eq_false_of_ne_true hnew) rfl (poll_pollWaiter _ _)
  | poll number =>
    obtain ⟨after, hpoll, hafter⟩ := Option.map_eq_some_iff.1 h
    obtain ⟨rfl, rfl⟩ := Prod.ext_iff.1 hafter
    simp only [poll?] at hpoll
    split at hpoll
    · rename_i a hfilter
      obtain ⟨hactive, hnumber⟩ := Option.filter_eq_some_iff.1 hfilter
      obtain rfl : a.send.number = number := by simpa using hnumber
      cases hpoll
      split
      · exact .cancel a hactive ‹_›
      · rename_i huncancelled
        exact .look _ (eq_false_of_ne_true huncancelled)
    · obtain ⟨w, hfind, rfl⟩ := Option.map_eq_some_iff.1 hpoll
      obtain rfl : w.number = number := by simpa using List.find?_some hfind
      exact .poll w (List.mem_of_find?_eq_some hfind) (poll_pollWaiter o w)
  | accept count =>
    simp only [step?] at h
    split at h
    · cases h
    · rename_i a hrunning
      obtain ⟨hactive, huncancelled⟩ := running?_eq_some_iff.1 hrunning
      simp only [Option.ite_none_right_eq_some, Bool.and_eq_true, decide_eq_true_eq] at h
      obtain ⟨⟨-, hcount⟩, h⟩ := h
      cases h
      exact .accept a count hactive huncancelled hcount
  | flush =>
    simp only [step?] at h
    split at h
    · cases h
    · rename_i a hrunning
      obtain ⟨hactive, huncancelled⟩ := running?_eq_some_iff.1 hrunning
      simp only [Option.ite_none_right_eq_some] at h
      obtain ⟨htaken, h⟩ := h
      cases h
      exact .flush a hactive huncancelled htaken
  | refuse reason =>
    obtain ⟨a, hrunning, hafter⟩ := Option.map_eq_some_iff.1 h
    obtain ⟨hactive, huncancelled⟩ := running?_eq_some_iff.1 hrunning
    cases hafter
    exact .refuse a reason hactive huncancelled
  | abandon number =>
    simp only [step?] at h
    split at h
    · rename_i hholds
      obtain ⟨a, hactive, hnumber⟩ := (Option.any_eq_true _ _).1 hholds
      obtain rfl : a.send.number = number := by simpa using hnumber
      cases h
      exact .abandonHolder a hactive
    · split at h
      · rename_i hwaits
        obtain ⟨w, hw, hnumber⟩ := List.any_eq_true.1 hwaits
        obtain rfl : w.number = number := by simpa using hnumber
        cases h
        exact .abandonWaiter w hw
      · cases h
  | turn on =>
    cases h
    exact .turn on

end Outbound

end Courier
