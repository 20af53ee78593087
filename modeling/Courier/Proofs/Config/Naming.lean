import Courier.Proofs.Yaml.Section
import Mathlib.Tactic.Tauto

/-!
# Names of documents

The documents that a client serves alone may have any names. A configuration is read as the same
under other names, but for these names (`alike_ofNode_keyed`), and of the names only one rule is
left to ask (`violation?_of_documents`).
-/

namespace Courier.Config

open Yaml Yaml.Reading

/-- A scalar that is a key. -/
structure Key where
  tag : Option Tag
  style : Style
  text : String

/-- Entries with keys that are scalars. -/
def keyed (keys : List Key) (values : List Node) : List (Node × Node) :=
  List.zipWith (fun key value => (.scalar key.tag key.style key.text, value)) keys values

/-- Put values under names, one after another. -/
def collect (names : List String) (values : List Json.Value) (documents : OrderedMap Json.Value) :
    OrderedMap Json.Value :=
  (names.zip values).foldl (fun documents entry => documents.insert entry.1 entry.2) documents

/-- The same values under different names. -/
def Renamed (keys keys' : List Key) (documents documents' : OrderedMap Json.Value) : Prop :=
  ∃ values : List Json.Value, values.length = keys.length ∧
    documents = collect (keys.map Key.text) values .empty ∧
      documents' = collect (keys'.map Key.text) values .empty

section Names

variable {A : Anchors} {keys keys' : List Key} {values : List Node}

/-- The members of a mapping of any shape are read alike under any names. -/
theorem alike_readMembers_keyed (read : Node → Reading Json.Value)
    (hkeys : keys.length = values.length) (hkeys' : keys'.length = values.length)
    (expected : String) (documents documents' : OrderedMap Json.Value) :
    Alike A A (fun found found' => ∃ read : List Json.Value, read.length = keys.length ∧
        found = collect (keys.map Key.text) read documents ∧
          found' = collect (keys'.map Key.text) read documents')
      (Node.readMembers read expected (keyed keys values) documents)
      (Node.readMembers read expected (keyed keys' values) documents') := by
  induction values generalizing keys keys' expected documents documents' with
  | nil =>
    cases List.length_eq_zero_iff.1 hkeys
    cases List.length_eq_zero_iff.1 hkeys'
    exact alike_pure ⟨[], rfl, rfl, rfl⟩
  | cons value rest ih =>
    obtain ⟨key, keys, rfl⟩ := List.exists_cons_of_length_eq_add_one hkeys
    obtain ⟨key', keys', rfl⟩ := List.exists_cons_of_length_eq_add_one hkeys'
    have hnext : ∀ (k : Key) (ks : List Key) (ds : OrderedMap Json.Value),
        Node.readMembers read expected (keyed (k :: ks) (value :: rest)) ds =
          read value >>= fun document =>
            Node.readMembers read Node.anyText (keyed ks rest) (ds.insert k.text document) :=
      fun _ _ _ => rfl
    rw [hnext, hnext]
    refine (alike_refl (read value)).bind_eq fun document => ?_
    refine (ih (Nat.succ.inj hkeys) (Nat.succ.inj hkeys') _ _ _).mono ?_
    rintro _ _ ⟨documents, hlength, rfl, rfl⟩
    exact ⟨document :: documents, congrArg Nat.succ hlength, rfl, rfl⟩

/-- The documents that a client serves alone are read alike under any names. -/
theorem alike_readDocuments_keyed (hkeys : keys.length = values.length)
    (hkeys' : keys'.length = values.length) (depth : Nat) (tag : Option Tag) :
    Alike A A (Renamed keys keys') ((Node.mapping tag (keyed keys values)).readDocuments depth)
      ((Node.mapping tag (keyed keys' values)).readDocuments depth) :=
  alike_readMembers_keyed (Node.readValue depth) hkeys hkeys' _ .empty .empty

/-- What is given of a client twice, the same but for the names of the documents. -/
def Client.Given.Renamed (keys keys' : List Key) (given given' : Client.Given) : Prop :=
  ∃ documents documents', Config.Renamed keys keys' documents documents' ∧
    given.served = some documents ∧ given' = { given with served := some documents' }

/-- Clients that are the same but for the names of the documents. -/
def Client.Renamed (keys keys' : List Key) (c c' : Client) : Prop :=
  Config.Renamed keys keys' c.served c'.served ∧ c' = { c with served := c'.served }

/-- Configurations that are the same but for the names of the documents. -/
def SameButNames (keys keys' : List Key) (c c' : Config) : Prop :=
  Client.Renamed keys keys' c.client c'.client ∧ c' = { c with client := c'.client }

/-- What is given of a configuration twice, the same but for the names of the documents. -/
def Given.Renamed (keys keys' : List Key) (given given' : Given) : Prop :=
  ∃ c c', Client.Renamed keys keys' c c' ∧ given.client = some c ∧
    given' = { given with client := some c' }

/-- A client is read as the same, but for the names of the documents that it serves alone. -/
theorem Client.alike_ofNode_keyed {node node' : Node} (hkeys : keys.length = values.length)
    (hkeys' : keys'.length = values.length)
    (h : node.Differ A.nodes (keyed keys values) (keyed keys' values) ["static_responses"] node') :
    Alike A A (Client.Renamed keys keys') (ofNode node) (ofNode node') := by
  cases h with
  | under tag before after hkey hvalue =>
    cases hvalue with
    | here tag' =>
      refine Alike.bind (Member.alike_readAll_entry (R := Given.Renamed keys keys') hkey ?_ ?_
        before after _) ?_
      · rintro m hfind draft
        cases hfind
        refine (alike_readDocuments_keyed hkeys hkeys' documentDepth tag').bind ?_
        exact fun documents documents' _ _ _ h => alike_pure ⟨documents, documents', h, rfl, rfl⟩
      · simp only [members, List.forall_mem_cons]
        refine ⟨?_, ?_, ?_, List.forall_mem_nil _⟩
        · rintro draft _ ⟨ds, ds', h, hds, rfl⟩
          refine ⟨rfl, fun _ node => (alike_refl _).bind_eq fun id => alike_pure ?_⟩
          exact ⟨ds, ds', h, hds, rfl⟩
        · rintro draft _ ⟨ds, ds', h, hds, rfl⟩
          refine ⟨rfl, fun _ node => (alike_refl _).bind_eq fun paths => alike_pure ?_⟩
          exact ⟨ds, ds', h, hds, rfl⟩
        · rintro draft _ ⟨ds, ds', h, hds, rfl⟩
          simp [member, hds]
      · rintro draft _ - - - ⟨ds, ds', h, hds, rfl⟩
        refine (alike_refl _).bind_eq fun id => (alike_refl _).bind_eq fun paths => alike_pure ?_
        simpa [Client.Renamed, hds] using h

/-- A configuration is read as the same, but for the names of the documents that the client serves
alone. -/
theorem alike_ofNode_keyed {root root' : Node} (hkeys : keys.length = values.length)
    (hkeys' : keys'.length = values.length)
    (h : root.Differ A.nodes (keyed keys values) (keyed keys' values)
      ["client", "static_responses"] root') :
    Alike A A (SameButNames keys keys') (ofNode root) (ofNode root') := by
  cases h with
  | under tag before after hkey hvalue =>
    refine Alike.bind (Member.alike_readAll_entry (R := Given.Renamed keys keys') hkey ?_ ?_
      before after _) ?_
    · rintro m hfind draft
      cases hfind
      refine (Client.alike_ofNode_keyed hkeys hkeys' hvalue).bind ?_
      exact fun c c' _ _ _ h => alike_pure ⟨c, c', h, rfl, rfl⟩
    · simp only [members, List.forall_mem_cons]
      refine ⟨?_, ?_, ?_, ?_, List.forall_mem_nil _⟩
      · rintro draft _ ⟨c, c', h, hc, rfl⟩
        refine ⟨rfl, fun _ node => (alike_refl _).bind_eq fun version => alike_pure ?_⟩
        exact ⟨c, c', h, hc, rfl⟩
      · rintro draft _ ⟨c, c', h, hc, rfl⟩
        refine ⟨rfl, fun _ node => (alike_refl _).bind_eq fun coordinator => alike_pure ?_⟩
        exact ⟨c, c', h, hc, rfl⟩
      · rintro draft _ ⟨c, c', h, hc, rfl⟩
        simp [member, hc]
      · rintro draft _ ⟨c, c', h, hc, rfl⟩
        refine ⟨rfl, fun _ node => (alike_refl _).bind_eq fun limits => alike_pure ?_⟩
        exact ⟨c, c', h, hc, rfl⟩
    · rintro draft _ - - - ⟨c, c', h, hc, rfl⟩
      refine (alike_refl _).bind_eq fun version => ?_
      have hclient : Alike A A (Client.Renamed keys keys') (needed "client" draft.client)
          (needed "client" (some c')) := by
        rw [hc]
        exact alike_pure h
      exact hclient.bind fun c c' _ _ _ h => alike_pure ⟨h, rfl⟩

/-- What stands under a name after an insertion stood there before, or under the new name. -/
theorem mem_names_insertEntry {α : Type} (key name : String) (value : α)
    (entries : List (String × α)) :
    name ∈ (insertEntry key value entries).map Prod.fst ↔
      name = key ∨ name ∈ entries.map Prod.fst := by
  induction entries with
  | nil => simp [insertEntry]
  | cons entry rest ih =>
    simp only [insertEntry]
    split
    · simp
    · split
      · rw [List.map_cons, List.mem_cons, ih, List.map_cons, List.mem_cons]
        tauto
      · rename_i hlow hhigh
        have hsame : entry.1 = key :=
          String.le_antisymm (String.not_lt.1 hlow) (String.not_lt.1 hhigh)
        simp [hsame]

/-- Values are collected under all the names. -/
theorem mem_names_collect (name : String) {names : List String} {values : List Json.Value}
    (h : values.length = names.length) (documents : OrderedMap Json.Value) :
    name ∈ (collect names values documents).entries.map Prod.fst ↔
      name ∈ names ∨ name ∈ documents.entries.map Prod.fst := by
  induction names generalizing values documents with
  | nil => simp [collect]
  | cons first rest ih =>
    obtain ⟨value, values, rfl⟩ := List.exists_cons_of_length_eq_add_one h
    have hnext : collect (first :: rest) (value :: values) documents =
        collect rest values (documents.insert first value) := rfl
    rw [hnext, ih (Nat.succ.inj h), OrderedMap.entries_insert, mem_names_insertEntry, List.mem_cons]
    tauto

end Names

/-! ## The rule about names -/

/-- Of a configuration that keeps the rules, other documents can only break the rule about them. -/
theorem violation?_of_documents {c : Config} (h : c.violation? = none)
    (served : OrderedMap Json.Value) :
    { c with client := { c.client with served } }.violation? =
      documentViolation? c.client.paths served.entries := by
  simp only [violation?, Client.violation?, Client.documents, Option.or_eq_none_iff] at h ⊢
  obtain ⟨hversion, hcoordinator, ⟨hid, hpaths, hpath, -⟩, hsession⟩ := h
  simp only [hversion, hcoordinator, hid, hpaths, hpath, hsession, Option.none_or, Option.or_none]

/-- A document that is not among the paths is named. -/
theorem exists_of_documentViolation? {paths : List String} {documents : List (String × Json.Value)}
    {rule : Violation} (h : documentViolation? paths documents = some rule) :
    ∃ name ∈ documents.map Prod.fst, name ∉ paths ∧ rule = .unregisteredPath name := by
  obtain ⟨entry, hentry, rfl⟩ := Option.map_eq_some_iff.1 h
  refine ⟨entry.1, List.mem_map_of_mem (List.mem_of_find?_eq_some hentry), ?_, rfl⟩
  simpa using List.find?_some hentry

end Courier.Config
