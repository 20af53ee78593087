import Courier.Proofs.Outbound.History
import Courier.Proofs.Session.Step

/-!
# What a session has to show

Calls return one after the other, and what they have returned tells what a session must have: a sink
if it was connected, the receiving side if that was started, and the paths that were registered
(`Account`). While a call waits the session is in the phase that belongs to the call (`Sound`).
-/

namespace Courier

namespace Phase

/-- A phase stays, or the next one comes. -/
def Follows (p q : Phase) : Prop := q = p ∨ p.Next q

/-- No phase comes back. -/
theorem Follows.rank_le {p q : Phase} (h : Follows p q) : p.rank ≤ q.rank := by
  rcases h with rfl | h
  · exact Nat.le_refl _
  · exact Nat.le_of_lt h.rank_lt

end Phase

namespace Session

/-- For which call that was made a call waits. -/
inductive Waits : Option Call → List Action → Prop where
  | nothing : Waits none []
  | connect (host : String) (port : Nat) :
    Waits (some (.connect host port)) [.connect host port]
  | register (request : Int64) (clientId : String) (paths : List String) (send : Nat) :
    Waits (some (.register request paths send)) [.register clientId paths]
  | waitReceiver : Waits (some .waitReceiver) [.waitReceiver]
  | closeWriter (shutdown : Nat) : Waits (some (.closeWriter shutdown)) [.close]
  | closeReceiver : Waits (some .closeReceiver) [.close]

/-- In which phases a call may wait. -/
def MayWaitIn (call : Option Call) (phase : Phase) : Prop :=
  match call with
  | some (.connect _ _) => phase = .connecting
  | some (.register _ _ _) => phase = .registering
  | _ => phase ≠ .connecting ∧ phase ≠ .registering

/-! ## What calls have returned -/

/-- A call, and what it has returned. -/
abbrev Entry := Action × Return

/-- Whether a connection was made. -/
def isConnection : Entry → Bool
  | (.connect _ _, .done) => true
  | _ => false

/-- Whether receiving was started. -/
def isStart : Entry → Bool
  | (.startReceiving, .done) => true
  | _ => false

/-- The paths that were registered. -/
def announced? : Entry → Option (List String)
  | (.register _ paths, .registered _) => some paths
  | _ => none

/-- What a session has to show for the calls that have returned, and for the registrations that were
sent. -/
structure Account (s : Session) (done : List Action) (registrations : List Envelope) : Prop where
  length_eq : done.length = s.returned.length
  paths_eq : s.paths = ((done.zip s.returned).findSome? announced?).getD []
  connections : (done.zip s.returned).countP isConnection = s.outbound.isSome.toNat
  starts : (done.zip s.returned).countP isStart = s.inbound.isSome.toNat
  announced : (done.zip s.returned).countP (fun e => (announced? e).isSome) ≤ 1
  unannounced : s.phase.rank < Phase.rank .streaming →
    ∀ e ∈ done.zip s.returned, announced? e = none
  unregistered : s.phase.rank < Phase.rank .registering → registrations = []
  once : registrations.length ≤ 1
  unconnected : s.phase.rank < Phase.rank .connected → s.outbound = none
  receiving : s.inbound.isSome = true ∨ s.unawaited = true →
    s.reader = false ∧ Phase.rank .streaming ≤ s.phase.rank
  fresh (o : Outbound) (ho : s.outbound = some o) (n : Nat) (hn : o.isKnown n = true) : n < s.sends

variable {s t next : Session} {metrics counted : Metrics} {done made : List Action}
  {registrations : List Envelope}

/-- A session has the same to show when nothing returns, and its phase does not come back. -/
theorem Account.of_same (h : Account s done registrations) (hphase : s.phase.rank ≤ t.phase.rank)
    (hreturned : t.returned = s.returned) (hpaths : t.paths = s.paths)
    (houtbound : t.outbound.isSome = s.outbound.isSome)
    (hinbound : t.inbound.isSome = s.inbound.isSome) (hreader : t.reader = true → s.reader = true)
    (hunawaited : t.unawaited = true → s.unawaited = true)
    (hfresh : ∀ o, t.outbound = some o → ∀ n, o.isKnown n = true → n < t.sends) :
    Account t done registrations where
  length_eq := hreturned ▸ h.length_eq
  paths_eq := hreturned ▸ hpaths ▸ h.paths_eq
  connections := hreturned ▸ houtbound ▸ h.connections
  starts := hreturned ▸ hinbound ▸ h.starts
  announced := hreturned ▸ h.announced
  unannounced hearly := hreturned ▸ h.unannounced (Nat.lt_of_le_of_lt hphase hearly)
  unregistered hearly := h.unregistered (Nat.lt_of_le_of_lt hphase hearly)
  once := h.once
  unconnected hearly := by
    have hnone := h.unconnected (Nat.lt_of_le_of_lt hphase hearly)
    rwa [hnone, Option.isSome_none, Option.isSome_eq_false_iff, Option.isNone_iff_eq_none]
      at houtbound
  receiving hstarted := by
    rw [hinbound] at hstarted
    obtain ⟨hgone, hlate⟩ := h.receiving (hstarted.imp id hunawaited)
    refine ⟨?_, Nat.le_trans hlate hphase⟩
    cases hcase : t.reader with
    | false => rfl
    | true =>
      rw [hreader hcase] at hgone
      cases hgone
  fresh := hfresh

/-- A session has to show what has just returned. -/
theorem Account.returns (h : Account s done registrations) {a : Action} {r : Return}
    (hreturned : t.returned = s.returned ++ [r]) (hphase : s.phase.rank ≤ t.phase.rank)
    (hpaths : t.paths = (announced? (a, r)).getD s.paths)
    (houtbound : t.outbound.isSome.toNat = s.outbound.isSome.toNat + (isConnection (a, r)).toNat)
    (hinbound : t.inbound.isSome.toNat = s.inbound.isSome.toNat + (isStart (a, r)).toNat)
    (hannounced : announced? (a, r) ≠ none →
      s.phase.rank < Phase.rank .streaming ∧ Phase.rank .streaming ≤ t.phase.rank)
    (hunconnected : t.phase.rank < Phase.rank .connected → t.outbound = none)
    (hreceiving : t.inbound.isSome = true ∨ t.unawaited = true →
      t.reader = false ∧ Phase.rank .streaming ≤ t.phase.rank)
    (hfresh : ∀ o, t.outbound = some o → ∀ n, o.isKnown n = true → n < t.sends) :
    Account t (done ++ [a]) registrations := by
  have hlog : (done ++ [a]).zip t.returned = done.zip s.returned ++ [(a, r)] := by
    rw [hreturned, List.zip_append h.length_eq]
    rfl
  have hnone (hnew : announced? (a, r) ≠ none) :
      ∀ e ∈ done.zip s.returned, announced? e = none := h.unannounced (hannounced hnew).1
  exact {
    length_eq := by simp [hreturned, h.length_eq]
    paths_eq := by
      rw [hlog, List.findSome?_append, hpaths, h.paths_eq]
      cases hnew : announced? (a, r) with
      | none => simp [hnew]
      | some paths =>
        have hold := List.findSome?_eq_none_iff.2
          (hnone (by rw [hnew]; exact Option.some_ne_none _))
        simp [hnew, hold]
    connections := by
      rw [hlog, List.countP_append, h.connections, houtbound, List.countP_singleton]
      cases isConnection (a, r) <;> rfl
    starts := by
      rw [hlog, List.countP_append, h.starts, hinbound, List.countP_singleton]
      cases isStart (a, r) <;> rfl
    announced := by
      rw [hlog, List.countP_append, List.countP_singleton]
      cases hnew : announced? (a, r) with
      | none => exact h.announced
      | some paths =>
        have hold : (done.zip s.returned).countP (fun e => (announced? e).isSome) = 0 :=
          List.countP_eq_zero.2 fun e he => by
            simp [hnone (by rw [hnew]; exact Option.some_ne_none _) e he]
        rw [hold]
        exact Nat.le_refl _
    unannounced := by
      intro hearly e he
      rw [hlog] at he
      rcases List.mem_append.1 he with he | he
      · exact h.unannounced (Nat.lt_of_le_of_lt hphase hearly) e he
      · rw [List.mem_singleton.1 he]
        cases hnew : announced? (a, r) with
        | none => rfl
        | some paths =>
          have hlate := (hannounced (by rw [hnew]; exact Option.some_ne_none _)).2
          exact absurd hearly (Nat.not_lt.2 hlate)
    unregistered := fun hearly => h.unregistered (Nat.lt_of_le_of_lt hphase hearly)
    once := h.once
    unconnected := hunconnected
    receiving := hreceiving
    fresh := hfresh }

/-- Returning from a call tells nothing more where nothing was reached by it. -/
theorem Account.answer (h : Account s done registrations) {a : Action} {r : Return}
    (hconnection : isConnection (a, r) = false) (hstart : isStart (a, r) = false)
    (hannounced : announced? (a, r) = none) : Account (s.answer r) (done ++ [a]) registrations := by
  refine h.returns rfl (Nat.le_refl _) ?_ ?_ ?_ ?_ h.unconnected h.receiving h.fresh
  · rw [hannounced]
    rfl
  · rw [hconnection]
    rfl
  · rw [hstart]
    rfl
  · exact fun hnew => absurd hannounced hnew

/-- What holds of a session after some calls were made, whatever happened meanwhile. -/
structure Sound (s : Session) (made : List Action) (registrations : List Envelope) : Prop where
  calls : ∃ done waiting, made = done ++ waiting ∧ Waits s.call waiting ∧
    Account s done registrations
  mayWaitIn : MayWaitIn s.call s.phase
  ready : s.phase = .connected → s.call = none → s.writer = true ∧ s.outbound.isSome = true

/-- A session that is not connected has nothing to show. -/
theorem sound_start (options : Options) : Sound (start options) [] [] where
  calls := ⟨[], [], rfl, .nothing, {
    length_eq := rfl
    paths_eq := rfl
    connections := rfl
    starts := rfl
    announced := Nat.zero_le _
    unannounced := fun _ e he => absurd he List.not_mem_nil
    unregistered := fun _ => rfl
    once := Nat.zero_le _
    unconnected := fun _ => rfl
    receiving := by rintro (h | h) <;> cases h
    fresh := by
      intro o ho
      cases ho }⟩
  mayWaitIn := ⟨Phase.noConfusion, Phase.noConfusion⟩
  ready := by
    intro hphase
    cases hphase

/-- Where no call waits, all calls have returned. -/
theorem Sound.account (h : Sound s made registrations) (hcall : s.call = none) :
    Account s made registrations := by
  obtain ⟨done, waiting, rfl, hwaits, haccount⟩ := h.calls
  rw [hcall] at hwaits
  cases hwaits
  rwa [List.append_nil]

/-- The number of the next send was not used yet. -/
theorem Sound.isKnown_sends (h : Sound s made registrations) {o : Outbound}
    (ho : s.outbound = some o) : o.isKnown s.sends = false := by
  obtain ⟨done, waiting, -, -, haccount⟩ := h.calls
  cases hknown : o.isKnown s.sends with
  | false => rfl
  | true => exact absurd (haccount.fresh o ho _ hknown) (Nat.lt_irrefl _)

/-- A session whose call has returned is sound, between two phases it is not. -/
theorem sound_of_account (h : Account s made registrations) (hcall : s.call = none)
    (hphase : s.phase ≠ .connecting ∧ s.phase ≠ .registering)
    (hready : s.phase = .connected → s.writer = true ∧ s.outbound.isSome = true) :
    Sound s made registrations where
  calls := ⟨made, [], (List.append_nil _).symm, hcall ▸ .nothing, h⟩
  mayWaitIn := by
    rw [hcall]
    exact hphase
  ready hconnected _ := hready hconnected

/-- A session in which a call waits is sound. -/
theorem sound_of_waits {c : Call} {a : Action} (h : Account s done registrations)
    (hcall : s.call = some c) (hwaits : Waits (some c) [a])
    (hmayWait : MayWaitIn (some c) s.phase) :
    Sound s (done ++ [a]) registrations where
  calls := ⟨done, [a], rfl, hcall ▸ hwaits, h⟩
  mayWaitIn := hcall ▸ hmayWait
  ready _ hnone := by
    rw [hcall] at hnone
    cases hnone

/-- A call that waits is the last that was made. -/
theorem Sound.exists_of_call (h : Sound s made registrations) {c : Call} (hcall : s.call = some c) :
    ∃ done a, made = done ++ [a] ∧ Waits (some c) [a] ∧ Account s done registrations ∧
      MayWaitIn (some c) s.phase := by
  obtain ⟨done, waiting, rfl, hwaits, haccount⟩ := h.calls
  have hmayWait := h.mayWaitIn
  rw [hcall] at hwaits hmayWait
  generalize hc : some c = call at hwaits hmayWait
  cases hwaits with
  | nothing => cases hc
  | _ => exact ⟨done, _, rfl, by constructor, haccount, hmayWait⟩

end Session

end Courier
