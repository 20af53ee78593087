import Courier.Config.Load

/-!
# What accepted configurations keep

A configuration that is accepted keeps every rule (`Keeps`). What a reader sees to, whatever it
reads, is followed through the readers that it is made of (`Yields`).
-/

namespace Courier

open Yaml

/-- What is found in a result is found where there is one. -/
theorem exists_ok_of_any {ε α : Type} {x : Except ε α} {p : α → Bool}
    (h : x.toOption.any p = true) : ∃ a, x = .ok a ∧ p a = true := by
  cases x with
  | error e => cases h
  | ok a => exact ⟨a, rfl, h⟩

/-! ## Reading -/

namespace Yaml.Reading

variable {α β : Type} {P : α → Prop} {Q : β → Prop}

/-- Whatever a reader reads has some property. -/
def Yields (P : α → Prop) (read : Reading α) : Prop :=
  ∀ ⦃anchors : Anchors⦄ ⦃followed : Nat⦄ ⦃a : α⦄ ⦃n : Nat⦄,
    read anchors followed = .ok (a, n) → P a

/-- What is there already needs no reading. -/
theorem yields_pure {a : α} (h : P a) : Yields P (pure a) := by
  rintro _ _ _ _ ⟨⟩
  exact h

/-- What is read with the help of something else has the property if it has it for all that the
other thing can be. -/
theorem yields_bind {read : Reading α} {next : α → Reading β} (h : Yields P read)
    (hnext : ∀ a, P a → Yields Q (next a)) : Yields Q (read >>= next) := by
  intro anchors followed b n hread
  simp only [bind, ReaderT.bind, StateT.bind, Except.bind] at hread
  split at hread
  · cases hread
  · rename_i result hresult
    exact hnext result.1 (h hresult) hread

/-- Nothing is known of what any reader reads. -/
theorem yields_trivial (read : Reading α) : Yields (fun _ => True) read := fun _ _ _ _ _ => trivial

end Yaml.Reading

open Yaml.Reading

namespace Config

/-! ## Rules -/

/-- A rule that is kept is not broken. -/
theorem require_eq_none_iff {kept : Bool} {rule : Violation} :
    require kept rule = none ↔ kept = true := by
  cases kept <;> simp [require]

/-- Paths break no rule just if they are absolute and none is there twice. -/
theorem pathViolation?_eq_none_iff (earlier paths : List String) :
    pathViolation? earlier paths = none ↔
      (∀ path ∈ paths, path.toList.head? = some '/') ∧ paths.Nodup ∧
        ∀ path ∈ paths, path ∉ earlier := by
  induction paths generalizing earlier with
  | nil => simp [pathViolation?]
  | cons path rest ih =>
    simp only [pathViolation?]
    split
    · rename_i hrelative
      simp [hrelative]
    · rename_i habsolute
      split
      · rename_i hrepeated
        simp [hrepeated]
      · rename_i hnew
        rw [ih]
        simp only [List.nodup_cons, List.mem_cons, not_or, forall_eq_or_imp]
        constructor
        · rintro ⟨habsolutes, hnodup, hothers⟩
          exact ⟨⟨Decidable.not_not.1 habsolute, habsolutes⟩,
            ⟨fun hin => (hothers path hin).1 rfl, hnodup⟩,
            hnew, fun other hother => (hothers other hother).2⟩
        · rintro ⟨⟨-, habsolutes⟩, ⟨hout, hnodup⟩, -, hothers⟩
          refine ⟨habsolutes, hnodup, fun other hother => ⟨?_, hothers other hother⟩⟩
          rintro rfl
          exact hout hother

/-- Documents break no rule just if all their paths are served. -/
theorem documentViolation?_eq_none_iff (paths : List String)
    (documents : List (String × Json.Value)) :
    documentViolation? paths documents = none ↔ ∀ entry ∈ documents, entry.1 ∈ paths := by
  simp [documentViolation?]

/-- What the rules of a configuration see to. -/
structure Keeps (c : Config) : Prop where
  nodup : c.client.paths.Nodup
  served : ∀ entry ∈ c.client.documents, entry.1 ∈ c.client.paths
  beats : 100 ≤ c.session.heartbeat
  queue : 1 ≤ c.session.queue

/-- A configuration that breaks no rule keeps them all. -/
theorem keeps_of_violation? {c : Config} (h : c.violation? = none) : c.Keeps := by
  simp only [violation?, Client.violation?, Limits.violation?, Option.or_eq_none_iff,
    require_eq_none_iff, pathViolation?_eq_none_iff, documentViolation?_eq_none_iff, isPeriod,
    Bool.and_eq_true, decide_eq_true_eq] at h
  obtain ⟨-, -, ⟨-, -, ⟨-, hnodup, -⟩, hserved⟩, -, ⟨hbeats, -⟩, hqueue⟩ := h
  exact ⟨hnodup, hserved, hbeats, hqueue⟩

/-- A configuration that is accepted keeps every rule. -/
theorem keeps_of_ofText {text : String} {c : Config} (h : ofText text = .ok c) : c.Keeps := by
  rw [ofText, ofDocument] at h
  cases hread : (Document.read text).readAs ofNode with
  | error fault =>
    rw [hread] at h
    cases h
  | ok config =>
    rw [hread] at h
    simp only [validate] at h
    cases hviolation : config.violation? with
    | some rule =>
      rw [hviolation] at h
      cases h
    | none =>
      rw [hviolation] at h
      cases h
      exact keeps_of_violation? hviolation

end Config

end Courier
