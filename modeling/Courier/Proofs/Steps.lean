/-!
# Steps

Everything that goes on over time in this library is a machine with partial steps: an action leads
from a state to the next one, if it can happen there at all. What holds of a machine whatever
happens to it is shown for one step, and then for all of them.
-/

namespace Courier

variable {State Action : Type}

/-- The state after some actions, one after the other, if each of them can happen. -/
def after? (step? : State → Action → Option State) (s : State) : List Action → Option State
  | [] => some s
  | a :: rest => (step? s a).bind fun next => after? step? next rest

/-- Actions that follow others go on from the state that these lead to. -/
theorem after?_append (step? : State → Action → Option State) (s : State)
    (first later : List Action) :
    after? step? s (first ++ later) =
      (after? step? s first).bind fun t => after? step? t later := by
  induction first generalizing s with
  | nil => rfl
  | cons a rest ih =>
    cases h : step? s a with
    | none => simp [after?, h]
    | some next => simp [after?, h, ih]

/-- An action and others behind it lead on from one state to the next. -/
theorem after?_cons {step? : State → Action → Option State} {s t u : State} {a : Action}
    {rest : List Action} (hstep : step? s a = some t) (hrest : after? step? t rest = some u) :
    after? step? s (a :: rest) = some u := by
  rw [after?, hstep, Option.bind_some, hrest]

/-- Actions that follow others lead to where these go on to. -/
theorem after?_trans {step? : State → Action → Option State} {s t u : State}
    {first later : List Action} (h : after? step? s first = some t)
    (hlater : after? step? t later = some u) : after? step? s (first ++ later) = some u := by
  rw [after?_append, h, Option.bind_some, hlater]

/-- One more action leads on from where the others have led to. -/
theorem after?_snoc {step? : State → Action → Option State} {s t u : State} {actions : List Action}
    {a : Action} (h : after? step? s actions = some t) (hstep : step? t a = some u) :
    after? step? s (actions ++ [a]) = some u := after?_trans h (after?_cons hstep rfl)

/-- The last of some actions happens in the state that the others lead to. -/
theorem after?_snoc_eq_some_iff (step? : State → Action → Option State) (s t : State)
    (actions : List Action) (a : Action) :
    after? step? s (actions ++ [a]) = some t ↔
      ∃ u, after? step? s actions = some u ∧ step? u a = some t := by
  simp [after?_append, after?, Option.bind_eq_some_iff]

/-- What holds at first and is kept by every step holds after any actions. -/
theorem after?_induction {step? : State → Action → Option State} {start : State}
    {motive : List Action → State → Prop} (hstart : motive [] start)
    (hstep : ∀ actions s a t, after? step? start actions = some s → motive actions s →
      step? s a = some t → motive (actions ++ [a]) t)
    {actions : List Action} {s : State} (h : after? step? start actions = some s) :
    motive actions s := by
  induction hn : actions.length generalizing actions s with
  | zero =>
    obtain rfl := List.length_eq_zero_iff.1 hn
    cases h
    exact hstart
  | succ n ih =>
    obtain ⟨first, last, rfl⟩ := List.eq_nil_or_concat actions |>.resolve_left
      (by rintro rfl; simp at hn)
    rw [List.concat_eq_append, after?_snoc_eq_some_iff] at h
    obtain ⟨u, hfirst, hlast⟩ := h
    rw [List.concat_eq_append] at hn ⊢
    exact hstep first u last s hfirst (ih hfirst (by simpa using hn)) hlast

end Courier
