import Courier.Failure
import Courier.Proofs.Config.Accepted
import Mathlib

/-!
# Which rule is reported

The rules of a configuration come in a fixed order (`rules`), and a configuration is refused because
of the first one that it breaks (`First`). Each check finds just what its rule reports, so all
checks together, one behind the other, find what the first broken rule reports
(`validate_reports_first`). Among the paths this is the first entry that is relative or equals an
earlier one; among the documents, which are kept in order, it is the least path that is not served.
-/

namespace Courier.Config

/-! ## The rules -/

/-- All that is asked of the values of a configuration. -/
structure Sound (c : Config) : Prop where
  version : c.version = 1
  host : ∃ ch ∈ c.coordinator.host.toList, Text.isBlankChar ch = false
  port : c.coordinator.port ≠ 0
  connectTimeout : 100 ≤ c.coordinator.connectTimeout ∧ c.coordinator.connectTimeout ≤ 60000
  id : ∃ ch ∈ c.client.id.toList, Text.isBlankChar ch = false
  paths : c.client.paths ≠ []
  absolute : ∀ path ∈ c.client.paths, path.toList.head? = some '/'
  distinct : c.client.paths.Nodup
  served : ∀ entry ∈ c.client.documents, entry.1 ∈ c.client.paths
  frameLimit : 64 ≤ c.session.frameLimit ∧ c.session.frameLimit ≤ 4294967295
  heartbeat : 100 ≤ c.session.heartbeat ∧ c.session.heartbeat ≤ 60000
  queue : 1 ≤ c.session.queue

/-- Whether an entry is relative, or equal to an earlier one. -/
def Offends (earlier : List String) (path : String) : Prop :=
  path.toList.head? ≠ some '/' ∨ path ∈ earlier

/-- The first entry of a list that offends, behind entries of which nothing is asked. -/
def FirstOffender (earlier paths : List String) (path : String) : Prop :=
  ∃ i, paths[i]? = some path ∧ Offends (earlier ++ paths.take i) path ∧
    ∀ j < i, ∀ other, paths[j]? = some other → ¬Offends (earlier ++ paths.take j) other

/-- What is reported of an entry that offends: that it is relative, if it is, also where it is
repeated. -/
def offence (path : String) : Violation :=
  if path.toList.head? ≠ some '/' then .relativePath path else .repeatedPath path

/-- What is reported of paths: the offence of the first entry that offends. -/
def ReportsPath (paths : List String) (v : Violation) : Prop :=
  ∃ path, FirstOffender [] paths path ∧ v = offence path

/-- What is reported of documents: the least of their paths that is not served. -/
def ReportsDocument (c : Client) (v : Violation) : Prop :=
  ∃ path, v = .unregisteredPath path ∧ path ∈ c.documents.map Prod.fst ∧ path ∉ c.paths ∧
    ∀ other ∈ c.documents.map Prod.fst, other ∉ c.paths → path ≤ other

/-- The rules in their order, each by what it reports where it is broken. -/
def rules (c : Config) : List (Violation → Prop) := [
  fun v => v = .unknownVersion c.version ∧ c.version ≠ 1,
  fun v => v = .blankHost ∧ ∀ ch ∈ c.coordinator.host.toList, Text.isBlankChar ch = true,
  fun v => v = .zeroPort ∧ c.coordinator.port = 0,
  fun v => v = .connectTimeoutOutOfRange ∧
    ¬(100 ≤ c.coordinator.connectTimeout ∧ c.coordinator.connectTimeout ≤ 60000),
  fun v => v = .blankId ∧ ∀ ch ∈ c.client.id.toList, Text.isBlankChar ch = true,
  fun v => v = .noPaths ∧ c.client.paths = [],
  ReportsPath c.client.paths,
  ReportsDocument c.client,
  fun v => v = .frameLimitOutOfRange ∧
    ¬(64 ≤ c.session.frameLimit ∧ c.session.frameLimit ≤ 4294967295),
  fun v => v = .heartbeatOutOfRange ∧
    ¬(100 ≤ c.session.heartbeat ∧ c.session.heartbeat ≤ 60000),
  fun v => v = .noQueue ∧ c.session.queue = 0]

/-- What the first of some rules that is broken reports. -/
def First : List (Violation → Prop) → Violation → Prop
  | [], _ => False
  | rule :: later, v => rule v ∨ (∀ w, ¬rule w) ∧ First later v

/-! ## Checks -/

/-- A check that finds just what is reported. -/
def Finds (found : Option Violation) (reported : Violation → Prop) : Prop :=
  ∀ v, found = some v ↔ reported v

variable {found others : Option Violation} {rule : Violation → Prop}
  {later : List (Violation → Prop)}

/-- A check that finds what is reported finds nothing just if nothing is reported. -/
theorem Finds.eq_none_iff (h : Finds found rule) : found = none ↔ ∀ v, ¬rule v := by
  rw [Option.eq_none_iff_forall_ne_some]
  exact forall_congr' fun v => not_congr (h v)

/-- No check at all finds nothing. -/
theorem finds_nil : Finds none (First []) := by
  intro v
  exact iff_of_false (Option.some_ne_none v).symm id

/-- A check in front of others finds what the first broken rule reports. -/
theorem Finds.or (h : Finds found rule) (hothers : Finds others (First later)) :
    Finds (found.or others) (First (rule :: later)) := by
  intro v
  rw [Option.or_eq_some_iff, h v, h.eq_none_iff, hothers v]
  rfl

/-- A requirement finds its rule where it is not kept. -/
theorem finds_require {kept : Bool} {broken : Prop} (h : kept = false ↔ broken)
    (violation : Violation) :
    Finds (require kept violation) fun v => v = violation ∧ broken := by
  intro v
  rw [← h]
  cases kept with
  | false => simp [require, eq_comm]
  | true => simp [require]

/-- A text is blank just if all its characters are. -/
theorem not_isBlank_eq_false_iff (text : String) :
    (!Text.isBlank text) = false ↔ ∀ ch ∈ text.toList, Text.isBlankChar ch = true := by
  rw [Bool.not_eq_false', Text.isBlank, List.all_eq_true]

/-! ## Paths -/

section Paths

variable {earlier rest : List String} {path other : String}

/-- An entry that offends is the first one to do so in front of others. -/
theorem firstOffender_of_offends (h : Offends earlier path) :
    FirstOffender earlier (path :: rest) other ↔ other = path := by
  have hhere : Offends (earlier ++ (path :: rest).take 0) path := by
    rwa [List.take_zero, List.append_nil]
  constructor
  · rintro ⟨i, hother, -, hfirst⟩
    cases i with
    | zero => exact (Option.some.inj hother).symm
    | succ i => exact absurd hhere (hfirst 0 (Nat.succ_pos i) path rfl)
  · rintro rfl
    exact ⟨0, rfl, hhere, fun j hj => absurd hj (Nat.not_lt_zero j)⟩

/-- Behind an entry that does not offend the first offender is looked for among the others. -/
theorem firstOffender_of_not_offends (h : ¬Offends earlier path) :
    FirstOffender earlier (path :: rest) other ↔ FirstOffender (path :: earlier) rest other := by
  have hsame (i : Nat) (p : String) : Offends (earlier ++ (path :: rest).take (i + 1)) p ↔
      Offends ((path :: earlier) ++ rest.take i) p :=
    or_congr Iff.rfl (by rw [List.take_succ_cons]; exact List.perm_middle.mem_iff)
  constructor
  · rintro ⟨i, hother, hoffends, hfirst⟩
    cases i with
    | zero =>
      cases hother
      rw [List.take_zero, List.append_nil] at hoffends
      exact absurd hoffends h
    | succ i =>
      refine ⟨i, hother, (hsame i other).1 hoffends, ?_⟩
      intro j hj p hp
      exact fun hp' => hfirst (j + 1) (Nat.succ_lt_succ hj) p hp ((hsame j p).2 hp')
  · rintro ⟨i, hother, hoffends, hfirst⟩
    refine ⟨i + 1, hother, (hsame i other).2 hoffends, ?_⟩
    intro j hj p hp
    cases j with
    | zero =>
      cases hp
      rwa [List.take_zero, List.append_nil]
    | succ j => exact fun hp' => hfirst j (Nat.lt_of_succ_lt_succ hj) p hp ((hsame j p).1 hp')

/-- What is found among paths behind earlier ones: the offence of the first entry that offends. -/
theorem pathViolation?_eq_some_iff (earlier paths : List String) (v : Violation) :
    pathViolation? earlier paths = some v ↔
      ∃ path, FirstOffender earlier paths path ∧ v = offence path := by
  induction paths generalizing earlier with
  | nil => simp [pathViolation?, FirstOffender]
  | cons path rest ih =>
    by_cases hoffends : Offends earlier path
    · have hfound : pathViolation? earlier (path :: rest) = some (offence path) := by
        rw [pathViolation?, offence]
        split
        · rfl
        · rename_i habsolute
          rw [if_pos (hoffends.resolve_left habsolute)]
      simp only [hfound, firstOffender_of_offends hoffends, exists_eq_left, Option.some.injEq]
      exact eq_comm
    · have hlater : pathViolation? earlier (path :: rest) =
          pathViolation? (path :: earlier) rest := by
        rw [pathViolation?, if_neg fun hrelative => hoffends (Or.inl hrelative),
          if_neg fun hrepeated => hoffends (Or.inr hrepeated)]
      simp only [hlater, ih, firstOffender_of_not_offends hoffends]

/-- The check of the paths finds what is reported of them. -/
theorem finds_path (paths : List String) : Finds (pathViolation? [] paths) (ReportsPath paths) :=
  pathViolation?_eq_some_iff [] paths

end Paths

/-! ## Documents -/

/-- What is found among the documents, which are in order, is the least path that is not served. -/
theorem reportsDocument_of_documentViolation? {c : Client} {v : Violation}
    (hfound : documentViolation? c.paths c.documents = some v) : ReportsDocument c v := by
  obtain ⟨entry, hentry, rfl⟩ := Option.map_eq_some_iff.1 hfound
  obtain ⟨hunserved, before, after, hdocuments, hserved⟩ := List.find?_eq_some_iff_append.1 hentry
  refine ⟨entry.1, rfl, List.mem_map_of_mem (List.mem_of_find?_eq_some hentry),
    of_decide_eq_true hunserved, ?_⟩
  intro other hother hmissing
  obtain ⟨document, hmem, rfl⟩ := List.mem_map.1 hother
  rw [hdocuments, List.mem_append, List.mem_cons] at hmem
  have hascending := c.ascending_documents
  rw [hdocuments] at hascending
  have hlater := (List.pairwise_cons.1 (List.pairwise_append.1 hascending).2.1).1
  rcases hmem with hbefore | rfl | hafter
  · have := hserved document hbefore
    simp_all
  · exact String.le_refl _
  · exact String.not_lt.1 (String.lt_asymm (hlater document hafter))

/-- The check of the documents finds what is reported of them. -/
theorem finds_document (c : Client) :
    Finds (documentViolation? c.paths c.documents) (ReportsDocument c) := by
  intro v
  constructor
  · exact reportsDocument_of_documentViolation?
  · rintro ⟨path, rfl, hmem, hmissing, hleast⟩
    cases hfound : documentViolation? c.paths c.documents with
    | none =>
      obtain ⟨document, hdocument, rfl⟩ := List.mem_map.1 hmem
      exact absurd ((documentViolation?_eq_none_iff _ _).1 hfound document hdocument) hmissing
    | some w =>
      obtain ⟨other, rfl, hmem', hmissing', hleast'⟩ := reportsDocument_of_documentViolation? hfound
      rw [String.le_antisymm (hleast' path hmem hmissing) (hleast other hmem' hmissing')]

/-! ## The whole -/

/-- All checks together find what the first broken rule reports. -/
theorem finds_rules (c : Config) : Finds c.violation? (First (rules c)) := by
  simp only [violation?, Coordinator.violation?, Client.violation?, Limits.violation?,
    Option.or_assoc]
  rw [← Option.or_none (o := require (1 ≤ c.session.queue) .noQueue)]
  have hperiod (t : Nat) : isPeriod t = false ↔ ¬(100 ≤ t ∧ t ≤ 60000) := by
    rw [isPeriod, ← Bool.decide_and, decide_eq_false_iff_not]
  refine (finds_require ?_ _).or <| (finds_require (not_isBlank_eq_false_iff _) _).or <|
    (finds_require ?_ _).or <| (finds_require (hperiod _) _).or <|
    (finds_require (not_isBlank_eq_false_iff _) _).or <| (finds_require ?_ _).or <|
    (finds_path _).or <| (finds_document _).or <| (finds_require ?_ _).or <|
    (finds_require (hperiod _) _).or <| (finds_require ?_ _).or finds_nil
  · rw [decide_eq_false_iff_not]
    rfl
  · rw [decide_eq_false_iff_not, Decidable.not_not]
  · rw [Bool.not_eq_false', List.isEmpty_iff]
  · rw [← Bool.decide_and, decide_eq_false_iff_not]
    rfl
  · rw [decide_eq_false_iff_not, Nat.not_le, Nat.lt_one_iff]

/-- No check finds anything just if all is as it is asked. -/
theorem violation?_eq_none_iff (c : Config) : c.violation? = none ↔ Sound c := by
  have hsome (text : String) : (!Text.isBlank text) = true ↔
      ∃ ch ∈ text.toList, Text.isBlankChar ch = false := by
    rw [Bool.not_eq_true', Text.isBlank, List.all_eq_false]
    simp only [Bool.not_eq_true]
  simp only [violation?, Coordinator.violation?, Client.violation?, Limits.violation?,
    Option.or_eq_none_iff, require_eq_none_iff, pathViolation?_eq_none_iff,
    documentViolation?_eq_none_iff, isPeriod, Bool.and_eq_true, decide_eq_true_eq, hsome,
    Bool.not_eq_true', List.isEmpty_eq_false_iff]
  constructor
  · rintro ⟨hversion, ⟨hhost, hport, htimeout⟩, ⟨hid, hpaths, ⟨habsolute, hdistinct, -⟩, hserved⟩,
      hlimit, hheartbeat, hqueue⟩
    exact ⟨hversion, hhost, hport, htimeout, hid, hpaths, habsolute, hdistinct, hserved, hlimit,
      hheartbeat, hqueue⟩
  · intro h
    exact ⟨h.version, ⟨h.host, h.port, h.connectTimeout⟩,
      ⟨h.id, h.paths, ⟨h.absolute, h.distinct, fun _ _ => List.not_mem_nil⟩, h.served⟩,
      h.frameLimit, h.heartbeat, h.queue⟩

/-! ## Wording -/

/-- The fixed parts of the wordings of violations. -/
def stems : List String := [
  "unsupported config version: ", "coordinator.host must not be empty",
  "coordinator.port must not be 0", "coordinator.connect_timeout_ms must be between 100 and 60000",
  "client.id must not be empty", "client.paths must not be empty",
  "client.paths entry must start with '/': ", "client.paths contains duplicate: ",
  "client.static_responses refers to unregistered path: ",
  "session.max_frame_bytes must be between 64 and 4294967295",
  "session.heartbeat_interval_ms must be between 100 and 60000",
  "session.inbound_queue must be at least 1"]

/-- The number of a violation among the fixed parts. -/
def Violation.place : Violation → Fin 12
  | .unknownVersion _ => 0
  | .blankHost => 1
  | .zeroPort => 2
  | .connectTimeoutOutOfRange => 3
  | .blankId => 4
  | .noPaths => 5
  | .relativePath _ => 6
  | .repeatedPath _ => 7
  | .unregisteredPath _ => 8
  | .frameLimitOutOfRange => 9
  | .heartbeatOutOfRange => 10
  | .noQueue => 11

/-- What the wording of a violation names behind its fixed part. -/
def Violation.detail : Violation → String
  | .unknownVersion version => toString version
  | .relativePath path | .repeatedPath path | .unregisteredPath path => path
  | _ => ""

/-- The wording of a violation is its fixed part and what it names. -/
theorem Violation.message_eq (v : Violation) : v.message = stems[v.place] ++ v.detail := by
  cases v with
  | unknownVersion | relativePath | repeatedPath | unregisteredPath => rfl
  | _ => exact String.append_empty.symm

/-- The wording begins with letters that tell the rule. -/
theorem Violation.place_eq_of_message {v w : Violation} (h : v.message = w.message) :
    v.place = w.place := by
  have hlong : ∀ i : Fin 12, 14 ≤ stems[i].toList.length := by decide
  have hdiffer : ∀ i j : Fin 12,
      stems[i].toList.take 14 = stems[j].toList.take 14 → i = j := by decide
  have hletters (u : Violation) : u.message.toList.take 14 = stems[u.place].toList.take 14 := by
    rw [message_eq, String.toList_append, List.take_append_of_le_length (hlong u.place)]
  exact hdiffer _ _ ((hletters v).symm.trans (h ▸ hletters w))

/-- Violations are worded differently, so the wording tells the rule and what it names. -/
theorem Violation.message_injective {v w : Violation} (h : v.message = w.message) : v = w := by
  have hplace := place_eq_of_message h
  have hdetail : v.detail = w.detail := by
    rw [message_eq v, message_eq w, hplace] at h
    exact (String.append_right_inj _).1 h
  cases v with
  | unknownVersion m =>
    cases w with
    | unknownVersion n => rw [Nat.repr_injective hdetail]
    | _ => cases hplace
  | relativePath p =>
    cases w with
    | relativePath q => exact congrArg _ hdetail
    | _ => cases hplace
  | repeatedPath p =>
    cases w with
    | repeatedPath q => exact congrArg _ hdetail
    | _ => cases hplace
  | unregisteredPath p =>
    cases w with
    | unregisteredPath q => exact congrArg _ hdetail
    | _ => cases hplace
  | _ =>
    cases w with
    | _ => first | rfl | cases hplace

/-- A configuration is accepted as it is just if all is as it is asked. Otherwise it is refused with
what the first broken rule reports, in words that tell this report from every other. -/
theorem validate_reports_first (c : Config) :
    (∀ d, c.validate = .ok d ↔ d = c ∧ Sound c) ∧
    (∀ fault, c.validate = .error fault ↔ ∃ v, fault = .violation v ∧ First (rules c) v) ∧
    ∀ v w : Violation, (Failure.invalidConfig (.violation v)).message =
      (Failure.invalidConfig (.violation w)).message → v = w := by
  have hfirst := finds_rules c
  refine ⟨?_, ?_, ?_⟩
  · intro d
    rw [← violation?_eq_none_iff, validate]
    cases hfound : c.violation? with
    | none => simp [eq_comm]
    | some v => simp
  · intro fault
    rw [validate]
    cases hfound : c.violation? with
    | none => simpa using fun v _ => hfirst.eq_none_iff.1 hfound v
    | some v =>
      constructor
      · rintro ⟨⟩
        exact ⟨v, rfl, (hfirst v).1 hfound⟩
      · rintro ⟨w, rfl, hw⟩
        cases hfound.symm.trans ((hfirst w).2 hw)
        rfl
  · intro v w h
    exact Violation.message_injective ((String.append_right_inj _).1 h)

/-- A configuration that breaks four rules, two of them among its paths, is refused because of the
path that is repeated in front of a relative one. -/
theorem validate_reports_first_several_broken :
    let documents : OrderedMap Json.Value := (OrderedMap.empty.insert "/d" .null).insert "/c" .null
    First (rules ⟨1, .standard, ⟨"é", ["/b", "/b", "b"], documents⟩, ⟨64, 100, 0⟩⟩)
      (.repeatedPath "/b") := by
  intro documents
  have hfound : violation? ⟨1, .standard, ⟨"é", ["/b", "/b", "b"], documents⟩, ⟨64, 100, 0⟩⟩ =
      some (.repeatedPath "/b") := by decide
  obtain ⟨v, hv, hfirst⟩ := ((validate_reports_first _).2.1 _).1 (by rw [validate, hfound])
  cases hv
  exact hfirst

end Courier.Config
