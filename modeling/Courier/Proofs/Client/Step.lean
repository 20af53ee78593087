import Courier.Client.Run

/-!
# What the steps of a run come to

Receiving and the connection go on within the session. Besides, the pump goes on, the runner notices
something or closes the session, and the switch changes. All that a step can do is told here once
(`Step`).
-/

namespace Courier

namespace Run

/-- What an action means for receiving. -/
def Action.inbound? : Action → Option Inbound.Action
  | .read chunk => some (.read chunk)
  | .readEnd => some .readEnd
  | .readFailure reason => some (.readFailure reason)
  | .receive => some .resume
  | _ => none

/-- What an action means for the session, where the runner may wait for it. -/
def Action.session? : Action → Option Session.Action
  | .connected peer => some (.connected peer)
  | .refused reason => some (.refused reason)
  | .timedOut => some .timedOut
  | .accept count => some (.accept count)
  | .flush => some .flush
  | .refuse reason => some (.refuse reason)
  | .poll => some .poll
  | _ => none

/-- All that a step can do. -/
inductive Step (r : Run) : Action → Run → Prop where
  | inbound {action : Action} {a : Inbound.Action} {next : Run} (haction : action.inbound? = some a)
      (hnext : r.onSession? (.inbound a) = some next) : Step r action next
  | session {action : Action} {a : Session.Action} {after : Run}
      (haction : action.session? = some a) (hafter : r.onSession? a = some after) :
      Step r action after.settle
  | pump {next : Run} (hnext : r.pump? = some next) : Step r .pump next
  | noticeSwitch {next : Run} (hserving : r.stage = .serving)
      (hnext : r.noticeSwitch? = some next) : Step r .noticeSwitch next
  | noticeReceiver {next : Run} (hserving : r.stage = .serving)
      (hnext : r.noticeReceiver? = some next) : Step r .noticeReceiver next
  | noticePump {next : Run} (hserving : r.stage = .serving) (hnext : r.noticePump? = some next) :
      Step r .noticePump next
  | heartbeat (hserving : r.stage = .serving) : Step r .heartbeat r.lookAtSwitch
  | close {outcome : Except Failure Unit} (hstopping : r.stage = .stopping outcome) :
      Step r .close (r.close outcome)
  | set (on : Bool) (hheld : r.switch.gone = false) :
      Step r (.set on) { r with switch := r.switch.set on }
  | drop : Step r .drop { r with switch := { r.switch with gone := true } }

variable {r next : Run} {action : Action}

/-- What a runner does only while it serves. -/
theorem whileServing?_eq_some {after : Option Run} (h : r.whileServing? after = some next) :
    r.stage = .serving ∧ after = some next := by
  unfold whileServing? at h
  split at h
  · exact ⟨‹_›, h⟩
  · cases h

/-- A step that can be taken does one of these. -/
theorem step_of_step? (h : r.step? action = some next) : r.Step action next := by
  have hsession {a : Session.Action} (haction : action.session? = some a)
      (hmap : (r.onSession? a).map settle = some next) : r.Step action next := by
    obtain ⟨after, hafter, rfl⟩ := Option.map_eq_some_iff.1 hmap
    exact .session haction hafter
  cases action with
  | connected peer => exact hsession rfl h
  | refused reason => exact hsession rfl h
  | timedOut => exact hsession rfl h
  | read chunk => exact .inbound rfl h
  | readEnd => exact .inbound rfl h
  | readFailure reason => exact .inbound rfl h
  | receive => exact .inbound rfl h
  | accept count => exact hsession rfl h
  | flush => exact hsession rfl h
  | refuse reason => exact hsession rfl h
  | pump => exact .pump h
  | poll => exact hsession rfl h
  | noticeSwitch =>
    obtain ⟨hserving, hnext⟩ := whileServing?_eq_some h
    exact .noticeSwitch hserving hnext
  | noticeReceiver =>
    obtain ⟨hserving, hnext⟩ := whileServing?_eq_some h
    exact .noticeReceiver hserving hnext
  | noticePump =>
    obtain ⟨hserving, hnext⟩ := whileServing?_eq_some h
    exact .noticePump hserving hnext
  | heartbeat =>
    obtain ⟨hserving, hnext⟩ := whileServing?_eq_some h
    cases hnext
    exact .heartbeat hserving
  | close =>
    simp only [step?] at h
    split at h
    · cases h
      exact .close ‹_›
    · cases h
  | set on =>
    simp only [step?, Option.ite_none_left_eq_some, Option.some.injEq, Bool.not_eq_true] at h
    obtain ⟨hheld, rfl⟩ := h
    exact .set on hheld
  | drop =>
    cases h
    exact .drop

/-- What an action means for receiving is all that it does. -/
theorem onSession?_of_inbound? {a : Inbound.Action} (haction : action.inbound? = some a)
    (h : r.step? action = some next) : r.onSession? (.inbound a) = some next := by
  cases action <;> cases haction <;> exact h

/-- What means something for the session or for receiving notices nothing. -/
theorem not_notice (h : action.session?.isSome = true ∨ action.inbound?.isSome = true) :
    action ≠ .noticeReceiver ∧ action ≠ .noticePump := by
  constructor <;> rintro rfl <;> rcases h with h | h <;> cases h

end Run

end Courier
