import Courier.Outbound

/-!
# Who is where on the way out

Every send and shutdown has a number of its own. While nobody is given up from outside, each number
that was begun is in exactly one place: it holds the sink, waits for it, or has come to its end.
-/

namespace Courier

/-- Where at most one element has a property, two that have it are the same. -/
theorem eq_of_countP_le_one {α : Type} {p : α → Bool} {xs : List α} {a b : α} (h : xs.countP p ≤ 1)
    (ha : a ∈ xs) (hb : b ∈ xs) (hpa : p a = true) (hpb : p b = true) : a = b := by
  induction xs with
  | nil => cases ha
  | cons x rest ih =>
    have hpos {c : α} (hc : c ∈ rest) (hpc : p c = true) : 0 < rest.countP p :=
      List.countP_pos_iff.2 ⟨c, hc, hpc⟩
    rw [List.countP_cons] at h
    rcases List.mem_cons.1 ha with hax | harest <;> rcases List.mem_cons.1 hb with hbx | hbrest
    · exact hax.trans hbx.symm
    · have hmore := hpos hbrest hpb
      rw [← hax, if_pos hpa] at h
      omega
    · have hmore := hpos harest hpa
      rw [← hbx, if_pos hpb] at h
      omega
    · exact ih (by omega) harest hbrest

namespace Outbound

/-- In how many places a number is. -/
def places (o : Outbound) (number : Nat) : Nat :=
  o.active.toList.countP (·.send.number = number) + o.waiting.countP (·.number = number) +
    o.finished.countP (·.1 = number)

/-- A number is taken where it is in some place. -/
theorem isKnown_iff (o : Outbound) (number : Nat) :
    o.isKnown number = true ↔ 0 < o.places number := by
  have hfinished : (o.result? number).isSome = true ↔ 0 < o.finished.countP (·.1 = number) := by
    rw [List.countP_pos_iff, result?, List.lookup_isSome_iff]
    simp only [beq_iff_eq, decide_eq_true_eq]
    exact exists_congr fun entry => and_congr_right fun _ => eq_comm
  have hwaiting : o.waiting.any (·.number = number) = true ↔
      0 < o.waiting.countP (·.number = number) := by
    rw [List.countP_pos_iff, List.any_eq_true]
  have hactive : o.active.any (·.send.number = number) = true ↔
      0 < o.active.toList.countP (·.send.number = number) := by
    rw [List.countP_pos_iff]
    cases o.active <;> simp
  rw [isKnown, Bool.or_eq_true, Bool.or_eq_true, hfinished, hwaiting, hactive, places]
  omega

/-- What became of a number is noted once at most. -/
theorem result?_eq_some_iff {o : Outbound} {number : Nat} (h : o.places number ≤ 1)
    (result : Except Failure Unit) :
    o.result? number = some result ↔ (number, result) ∈ o.finished := by
  have honce : o.finished.countP (·.1 = number) ≤ 1 := by
    rw [places] at h
    omega
  have hmem {r : Except Failure Unit} (hr : o.result? number = some r) :
      (number, r) ∈ o.finished := by
    obtain ⟨before, after, hfinished, -⟩ := List.lookup_eq_some_iff.1 hr
    rw [hfinished]
    exact List.mem_append_right _ List.mem_cons_self
  refine ⟨hmem, ?_⟩
  intro hresult
  cases hlookup : o.result? number with
  | none =>
    have hnone := List.lookup_eq_none_iff.1 hlookup _ hresult
    simp at hnone
  | some other =>
    have heq := eq_of_countP_le_one honce (hmem hlookup) hresult (by simp) (by simp)
    injection heq with _ hother
    rw [hother]

/-- What comes to its end is in one more place. -/
@[simp] theorem places_finish (o : Outbound) (number : Nat) (result : Except Failure Unit)
    (n : Nat) : (o.finish number result).places n = o.places n + if number = n then 1 else 0 := by
  simp only [places, finish, List.countP_append, List.countP_singleton, decide_eq_true_eq]
  omega

/-- What begins to wait is in one more place. -/
@[simp] theorem places_wait (o : Outbound) (w : Waiter) (n : Nat) :
    { o with waiting := o.waiting ++ [w] }.places n =
      o.places n + if w.number = n then 1 else 0 := by
  simp only [places, List.countP_append, List.countP_singleton, decide_eq_true_eq]
  omega

/-- What waits no longer is in one place less. -/
theorem places_dismiss {o : Outbound} {w : Waiter} (hw : w ∈ o.waiting) (h : o.places w.number ≤ 1)
    (n : Nat) : (o.dismiss w.number).places n + (if w.number = n then 1 else 0) = o.places n := by
  have hwaits : 0 < o.waiting.countP (·.number = w.number) :=
    List.countP_pos_iff.2 ⟨w, hw, by simp⟩
  have hrest : (o.waiting.filter fun v => v.number ≠ w.number).countP (·.number = n) =
      if w.number = n then 0 else o.waiting.countP (·.number = n) := by
    rw [List.countP_filter]
    split
    · rename_i hn
      subst hn
      exact List.countP_eq_zero.2 fun v _ => by simp
    · rename_i hn
      apply List.countP_congr
      intro v _
      simp only [Bool.and_eq_true, decide_eq_true_eq]
      exact ⟨And.left, fun hv => ⟨hv, fun hvw => hn (hvw.symm.trans hv)⟩⟩
  simp only [places, dismiss] at h ⊢
  rw [hrest]
  split
  · rename_i hn
    subst hn
    omega
  · omega

/-- What waits no longer was in some place. -/
theorem places_dismiss_le {o : Outbound} {w : Waiter} (hw : w ∈ o.waiting) (n : Nat) :
    (o.dismiss w.number).places n + (if w.number = n then 1 else 0) ≤ o.places n := by
  simp only [places, dismiss]
  split
  · rename_i hn
    subst hn
    have hwaits : 0 < o.waiting.countP (·.number = w.number) :=
      List.countP_pos_iff.2 ⟨w, hw, by simp⟩
    have hgone : (o.waiting.filter fun v => v.number ≠ w.number).countP (·.number = w.number) = 0 :=
      List.countP_eq_zero.2 fun v hv => by simpa using (List.mem_filter.1 hv).2
    omega
  · have hless : (o.waiting.filter fun v => v.number ≠ w.number).countP (·.number = n) ≤
        o.waiting.countP (·.number = n) := List.filter_sublist.countP_le
    omega

/-- What gives up the sink is in one place less. -/
theorem places_detach {o : Outbound} {a : Active} (ha : o.active = some a) (n : Nat) :
    o.detach.places n + (if a.send.number = n then 1 else 0) = o.places n := by
  simp only [places, detach, ha, Option.toList, List.countP_singleton, List.countP_nil,
    decide_eq_true_eq]
  omega

/-- Letting go of the sink without giving it up leaves one place as well. -/
theorem places_release {o : Outbound} {a : Active} (ha : o.active = some a) (n : Nat) :
    { o with active := none }.places n + (if a.send.number = n then 1 else 0) = o.places n :=
  places_detach ha n

/-- What takes hold of the sink is in one more place. -/
theorem places_hold {o : Outbound} (ha : o.active = none) (a : Active) (n : Nat) :
    { o with active := some a }.places n = o.places n + if a.send.number = n then 1 else 0 := by
  simp only [places, ha, Option.toList, List.countP_singleton, List.countP_nil, decide_eq_true_eq]
  omega

end Outbound

end Courier
