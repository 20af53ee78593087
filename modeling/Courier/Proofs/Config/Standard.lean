import Courier.Proofs.Yaml.Section
import Mathlib.Logic.Relation

/-!
# Standard values

What a section of a configuration leaves out has a standard value. Each member that may be left out
writes a field of its own, and finishing the section puts the same value there as a node that spells
it out (`Omits`), so a configuration is read alike in both cases (`alike_ofNode_of_spellsOut`).
-/

namespace Courier.Config

open Yaml Yaml.Reading

/-- The mappings of a document that have known keys. -/
inductive Section where
  | whole
  | coordinator
  | client
  | session

/-- The keys under which a section is found. -/
def Section.path : Section → List String
  | .whole => []
  | .coordinator => ["coordinator"]
  | .client => ["client"]
  | .session => ["session"]

/-- A value that stands for what a document leaves out. -/
inductive Standard where
  | text (t : String)
  | word (n : Nat)
  | nothing

/-- A node gives a standard value: a text in any style, a word in any digits, and nothing as an
empty mapping or as no node. -/
inductive Standard.GivenBy : Standard → Node → Prop
  | text (tag : Option Tag) (style : Style) (t : String) : GivenBy (.text t) (.scalar tag style t)
  | word (tag : Option Tag) {digits : String} {n : Nat} (h : unsigned? digits.toList = some n) :
      GivenBy (.word n) (.scalar tag .plain digits)
  | empty (tag : Option Tag) : GivenBy .nothing (.mapping tag [])
  | blank (tag : Option Tag) : GivenBy .nothing (.scalar tag .plain "")

/-- What a section may leave out, and what stands for it. -/
def Section.standards : Section → List (String × Standard)
  | .whole => [("coordinator", .nothing), ("session", .nothing)]
  | .coordinator =>
    [("host", .text "localhost"), ("port", .word 8081), ("connect_timeout_ms", .word 5000)]
  | .client => [("static_responses", .nothing)]
  | .session => [("max_frame_bytes", .word 16777216), ("heartbeat_interval_ms", .word 1000),
      ("inbound_queue", .word 1024)]

/-- Entries of a section to which one standard value is added, under a key that is not there. -/
inductive Adds (nodes : List (Nat × Node)) (s : Section) :
    List (Node × Node) → List (Node × Node) → Prop
  | entry {name : String} {standard : Standard} {node : Node} (tag : Option Tag) (style : Style)
      {before after : List (Node × Node)} (h : (name, standard) ∈ s.standards)
      (hnode : standard.GivenBy node)
      (hfresh : ∀ entry ∈ before ++ after, entry.1.text? nodes ≠ some name) :
      Adds nodes s (before ++ after) (before ++ (.scalar tag style name, node) :: after)

/-- A document that spells one standard value out that another one leaves out. -/
def SpellsOut (nodes : List (Nat × Node)) (root root' : Node) : Prop :=
  ∃ s entries entries', Adds nodes s entries entries' ∧
    root.Differ nodes entries entries' s.path root'

section Standard

variable {A : Anchors} {σ τ : Type}

/-- A section is finished alike with a value for a member and without it. -/
def Omits (members : List (Member σ)) (finish : σ → Reading τ) (nothing : σ) (name : String)
    (node : Node) : Prop :=
  ∃ one supply, one.name = name ∧ Supplies members one node supply ∧ one.given nothing = false ∧
    ∀ draft, one.given draft = false → finish (supply draft) = finish draft

/-- A section that leaves a standard value out is read like one that spells it out. -/
theorem alike_of_adds {s : Section} {members : List (Member σ)} {finish : σ → Reading τ}
    {nothing : σ} {entries entries' : List (Node × Node)} (h : Adds A.nodes s entries entries')
    (homits : ∀ name standard node, (name, standard) ∈ s.standards → standard.GivenBy node →
      Omits members finish nothing name node) (what : String) (tag : Option Tag) :
    Alike A A Eq ((Node.mapping tag entries).readSection what members nothing >>= finish)
      ((Node.mapping tag entries').readSection what members nothing >>= finish) := by
  cases h with
  | entry tag' style h hnode hfresh =>
    obtain ⟨one, supply, rfl, hsupplies, hnothing, hfinish⟩ := homits _ _ _ h hnode
    refine (Member.alike_readAll_supplied hsupplies hfresh tag' style hnothing).bind ?_
    rintro draft _ - - - ⟨hdraft, rfl⟩
    rw [hfinish draft hdraft]
    exact alike_refl _

/-- A text that is given is read. -/
theorem Standard.GivenBy.readText_eq {t : String} {node : Node} (h : (Standard.text t).GivenBy node)
    (expected : String) : node.readText expected = pure t := by
  cases h with
  | text tag style => rfl

/-- A word that is given is read where there are enough bits. -/
theorem Standard.GivenBy.readWord_eq {n bits : Nat} {node : Node}
    (h : (Standard.word n).GivenBy node) (hn : n < Nat.pow 2 bits) (hbits : bits ≤ 64)
    (expected : String) :
    node.readWord expected bits = pure n := by
  cases h with
  | word tag h =>
    have hword : n < 2 ^ 64 := Nat.lt_of_lt_of_le hn (Nat.pow_le_pow_right (by decide) hbits)
    have hfollow : ∀ style text, (Node.scalar tag style text).follow =
        (pure (.scalar tag style text) : Reading Node) := fun _ _ => rfl
    simp only [Node.readWord, hfollow, pure_bind, h]
    rw [if_neg, if_pos hn]
    simpa [Node.isIntegerStyle] using hword

/-- Where nothing is given, there are no entries. -/
theorem Standard.GivenBy.readEntries_eq {node : Node} (h : Standard.nothing.GivenBy node)
    (expected : String) : node.readEntries expected = pure [] := by
  cases h with
  | empty tag => rfl
  | blank tag => rfl

/-- Where nothing is given, a section is read as nothing given. -/
theorem Standard.GivenBy.readSection_eq {members : List (Member σ)} {none : σ} {node : Node}
    (h : Standard.nothing.GivenBy node) (what : String) :
    node.readSection what members none = pure none := by
  simp [Node.readSection, h.readEntries_eq, Member.readAll]

/-- A member of its own fields stands apart from another one that is given a value. -/
theorem apart_member {α : Type} {one : Member σ} {supply : σ → σ} {name : String}
    {get : σ → Option α} {put : σ → α → σ} {read : Node → Reading α}
    (hget : ∀ draft, get (supply draft) = get draft)
    (hput : ∀ draft a, put (supply draft) a = supply (put draft a))
    (hkept : ∀ draft a, one.given (put draft a) = one.given draft) :
    Apart one supply (member name get put read) where
  given draft := by simp only [member, hget]
  read node draft := by
    have hput' : put (supply draft) = fun a => supply (put draft a) := funext (hput draft)
    simp [member, hput']
  kept node draft := yields_bind (yields_trivial _) fun a _ => yields_pure (hkept draft a)

/-- A section can leave out a member that stands apart from all others, if the value that a node
gives it is the one that the section is finished with. -/
theorem omits_of_member {α : Type} {members : List (Member σ)} {finish : σ → Reading τ}
    {nothing : σ} {name : String} {get : σ → Option α} {put : σ → α → σ} {read : Node → Reading α}
    {node : Node} {a : α}
    (hfound : members.find? (fun m => m.name = name) = some (member name get put read))
    (hread : read node = pure a)
    (hapart : ∀ m ∈ members, m.name ≠ name →
      Apart (member name get put read) (fun draft => put draft a) m)
    (hnothing : get nothing = none)
    (hfinish : ∀ draft, get draft = none → finish (put draft a) = finish draft) :
    Omits members finish nothing name node := by
  refine ⟨member name get put read, fun draft => put draft a, rfl, ⟨hfound, ?_, hapart⟩, ?_, ?_⟩
  · intro draft
    simp [member, hread]
  · simp [member, hnothing]
  · intro draft hdraft
    exact hfinish draft (by simpa [member] using hdraft)

/-- The members of a coordinator can be left out. -/
theorem Coordinator.omits {name : String} {standard : Standard} {node : Node}
    (h : (name, standard) ∈ Section.coordinator.standards) (hnode : standard.GivenBy node) :
    Omits Coordinator.members (fun given => pure given.complete) ⟨none, none, none⟩ name node := by
  simp only [Section.standards, List.mem_cons, List.not_mem_nil, Prod.mk.injEq, or_false] at h
  rcases h with ⟨rfl, rfl⟩ | ⟨rfl, rfl⟩ | ⟨rfl, rfl⟩
  · refine omits_of_member rfl (hnode.readText_eq _) ?_ rfl ?_
    · simp only [Coordinator.members, List.forall_mem_cons]
      refine ⟨fun h => absurd rfl h, fun _ => ?_, fun _ => ?_, List.forall_mem_nil _⟩
      all_goals exact apart_member (fun _ => rfl) (fun _ _ => rfl) fun _ _ => rfl
    · intro draft hdraft
      simp [Given.complete, hdraft, Coordinator.standard]
  · refine omits_of_member rfl (hnode.readWord_eq (by decide) (by decide) _) ?_ rfl ?_
    · simp only [Coordinator.members, List.forall_mem_cons]
      refine ⟨fun _ => ?_, fun h => absurd rfl h, fun _ => ?_, List.forall_mem_nil _⟩
      all_goals exact apart_member (fun _ => rfl) (fun _ _ => rfl) fun _ _ => rfl
    · intro draft hdraft
      simp [Given.complete, hdraft, Coordinator.standard]
  · refine omits_of_member rfl (hnode.readWord_eq (by decide) (by decide) _) ?_ rfl ?_
    · simp only [Coordinator.members, List.forall_mem_cons]
      refine ⟨fun _ => ?_, fun _ => ?_, fun h => absurd rfl h, List.forall_mem_nil _⟩
      all_goals exact apart_member (fun _ => rfl) (fun _ _ => rfl) fun _ _ => rfl
    · intro draft hdraft
      simp [Given.complete, hdraft, Coordinator.standard]

/-- The documents of a client can be left out. -/
theorem Client.omits {name : String} {standard : Standard} {node : Node}
    (h : (name, standard) ∈ Section.client.standards) (hnode : standard.GivenBy node) :
    Omits Client.members Client.Given.complete ⟨none, none, none⟩ name node := by
  simp only [Section.standards, List.mem_singleton, Prod.mk.injEq] at h
  obtain ⟨rfl, rfl⟩ := h
  have hread : node.readDocuments documentDepth = pure .empty := by
    simp [Node.readDocuments, hnode.readEntries_eq, Node.readMembers]
  refine omits_of_member rfl hread ?_ rfl ?_
  · simp only [Client.members, List.forall_mem_cons]
    refine ⟨fun _ => ?_, fun _ => ?_, fun h => absurd rfl h, List.forall_mem_nil _⟩
    all_goals exact apart_member (fun _ => rfl) (fun _ _ => rfl) fun _ _ => rfl
  · intro draft hdraft
    simp [Given.complete, hdraft]

/-- The limits can be left out. -/
theorem Limits.omits {name : String} {standard : Standard} {node : Node}
    (h : (name, standard) ∈ Section.session.standards) (hnode : standard.GivenBy node) :
    Omits Limits.members (fun given => pure given.complete) ⟨none, none, none⟩ name node := by
  simp only [Section.standards, List.mem_cons, List.not_mem_nil, Prod.mk.injEq, or_false] at h
  rcases h with ⟨rfl, rfl⟩ | ⟨rfl, rfl⟩ | ⟨rfl, rfl⟩
  · refine omits_of_member rfl (hnode.readWord_eq (by decide) (by decide) _) ?_ rfl ?_
    · simp only [Limits.members, List.forall_mem_cons]
      refine ⟨fun h => absurd rfl h, fun _ => ?_, fun _ => ?_, List.forall_mem_nil _⟩
      all_goals exact apart_member (fun _ => rfl) (fun _ _ => rfl) fun _ _ => rfl
    · intro draft hdraft
      simp [Given.complete, hdraft, Limits.standard, Frame.defaultLimit]
  · refine omits_of_member rfl (hnode.readWord_eq (by decide) (by decide) _) ?_ rfl ?_
    · simp only [Limits.members, List.forall_mem_cons]
      refine ⟨fun _ => ?_, fun h => absurd rfl h, fun _ => ?_, List.forall_mem_nil _⟩
      all_goals exact apart_member (fun _ => rfl) (fun _ _ => rfl) fun _ _ => rfl
    · intro draft hdraft
      simp [Given.complete, hdraft, Limits.standard]
  · refine omits_of_member rfl (hnode.readWord_eq (by decide) (by decide) _) ?_ rfl ?_
    · simp only [Limits.members, List.forall_mem_cons]
      refine ⟨fun _ => ?_, fun _ => ?_, fun h => absurd rfl h, List.forall_mem_nil _⟩
      all_goals exact apart_member (fun _ => rfl) (fun _ _ => rfl) fun _ _ => rfl
    · intro draft hdraft
      simp [Given.complete, hdraft, Limits.standard]

/-- The coordinator and the limits can be left out as a whole. -/
theorem omits_sections {name : String} {standard : Standard} {node : Node}
    (h : (name, standard) ∈ Section.whole.standards) (hnode : standard.GivenBy node) :
    Omits members Given.complete ⟨none, none, none, none⟩ name node := by
  simp only [Section.standards, List.mem_cons, List.not_mem_nil, Prod.mk.injEq, or_false] at h
  rcases h with ⟨rfl, rfl⟩ | ⟨rfl, rfl⟩
  · have hread : Coordinator.ofNode node = pure Coordinator.standard := by
      rw [Coordinator.ofNode, hnode.readSection_eq, pure_bind]
      rfl
    refine omits_of_member rfl hread ?_ rfl ?_
    · simp only [members, List.forall_mem_cons]
      refine ⟨fun _ => ?_, fun h => absurd rfl h, fun _ => ?_, fun _ => ?_, List.forall_mem_nil _⟩
      all_goals exact apart_member (fun _ => rfl) (fun _ _ => rfl) fun _ _ => rfl
    · intro draft hdraft
      simp [Given.complete, hdraft]
  · have hread : Limits.ofNode node = pure Limits.standard := by
      rw [Limits.ofNode, hnode.readSection_eq, pure_bind]
      rfl
    refine omits_of_member rfl hread ?_ rfl ?_
    · simp only [members, List.forall_mem_cons]
      refine ⟨fun _ => ?_, fun _ => ?_, fun _ => ?_, fun h => absurd rfl h, List.forall_mem_nil _⟩
      all_goals exact apart_member (fun _ => rfl) (fun _ _ => rfl) fun _ _ => rfl
    · intro draft hdraft
      simp [Given.complete, hdraft]

/-- A configuration is read alike where the values under one key are. -/
theorem alike_ofNode_entry {key value value' : Node} {name : String}
    (hkey : key.text? A.nodes = some name)
    (hvalue : ∀ m, members.find? (fun m => m.name = name) = some m → ∀ draft,
      Alike A A Eq (m.read value draft) (m.read value' draft))
    (tag : Option Tag) (before after : List (Node × Node)) :
    Alike A A Eq (ofNode (.mapping tag (before ++ (key, value) :: after)))
      (ofNode (.mapping tag (before ++ (key, value') :: after))) := by
  refine Alike.bind_eq (Member.alike_readAll_entry hkey hvalue ?_ before after _) fun _ =>
    alike_refl _
  rintro m - draft _ rfl
  exact ⟨rfl, fun _ node => alike_refl _⟩

/-- A configuration is read alike where the section under one key spells a standard value out that
this section can leave out. -/
theorem alike_ofNode_of_adds {α ρ : Type} {s : Section} {inner : List (Member ρ)} {nothing : ρ}
    {finish : ρ → Reading α} {what name : String} {get : Given → Option α}
    {put : Given → α → Given} {root root' : Node} {entries entries' : List (Node × Node)}
    (hmember : members.find? (fun m => m.name = name) =
      some (member name get put fun node => node.readSection what inner nothing >>= finish))
    (homits : ∀ name standard node, (name, standard) ∈ s.standards → standard.GivenBy node →
      Omits inner finish nothing name node)
    (hadds : Adds A.nodes s entries entries')
    (hdiffer : root.Differ A.nodes entries entries' [name] root') :
    Alike A A Eq (ofNode root) (ofNode root') := by
  cases hdiffer with
  | under tag before after hkey hvalue =>
    cases hvalue with
    | here tag' =>
      refine alike_ofNode_entry hkey ?_ tag before after
      rintro m hfind draft
      cases hmember.symm.trans hfind
      exact (alike_of_adds hadds homits what tag').bind_eq fun _ => alike_pure rfl

/-- A configuration is read alike where standard values are spelled out. -/
theorem alike_ofNode_of_spellsOut {root root' : Node} (h : SpellsOut A.nodes root root') :
    Alike A A Eq (ofNode root) (ofNode root') := by
  obtain ⟨s, entries, entries', hadds, hdiffer⟩ := h
  cases s with
  | whole =>
    cases hdiffer with
    | here tag => exact alike_of_adds hadds (fun _ _ _ => omits_sections) _ tag
  | coordinator => exact alike_ofNode_of_adds rfl (fun _ _ _ => Coordinator.omits) hadds hdiffer
  | client => exact alike_ofNode_of_adds rfl (fun _ _ _ => Client.omits) hadds hdiffer
  | session => exact alike_ofNode_of_adds rfl (fun _ _ _ => Limits.omits) hadds hdiffer

/-- Roots that are connected by spelling standard values out are read alike. -/
theorem alike_ofNode_of_eqvGen {root root' : Node}
    (h : Relation.EqvGen (SpellsOut A.nodes) root root') :
    Alike A A Eq (ofNode root) (ofNode root') := by
  induction h with
  | rel root root' h => exact alike_ofNode_of_spellsOut h
  | refl root => exact alike_refl _
  | symm root root' _ ih => exact alike_eq_iff.2 fun n => (alike_eq_iff.1 ih n).symm
  | trans root middle root' _ _ ih ih' =>
    exact alike_eq_iff.2 fun n => (alike_eq_iff.1 ih n).trans (alike_eq_iff.1 ih' n)

/-- What is given of a configuration has no coordinator and no limits where no key is for them. -/
theorem alike_readAll_absent {entries : List (Node × Node)}
    (habsent : ∀ entry ∈ entries, ∀ standard ∈ Section.whole.standards,
      entry.1.text? A.nodes ≠ some standard.1) :
    Alike A A (fun given given' => given' = given ∧ given.coordinator = none ∧ given.session = none)
      (Member.readAll members entries ⟨none, none, none, none⟩)
      (Member.readAll members entries ⟨none, none, none, none⟩) := by
  refine Member.alike_readAll (fun _ _ => alike_refl _) ?_ ⟨rfl, rfl, rfl⟩
  rintro entry hentry m hm ⟨followed, n, hname⟩ _ draft ⟨rfl, hcoordinator, hsession⟩
  have htext := Node.readText_ok hname
  simp only [members, List.mem_cons, List.not_mem_nil, or_false] at hm
  refine ⟨rfl, fun _ => ?_⟩
  rcases hm with rfl | rfl | rfl | rfl
  · exact (alike_refl _).bind_eq fun _ => alike_pure ⟨rfl, hcoordinator, hsession⟩
  · have hstandard : ("coordinator", .nothing) ∈ Section.whole.standards := by
      simp [Section.standards]
    exact absurd htext (habsent entry hentry _ hstandard)
  · exact (alike_refl _).bind_eq fun _ => alike_pure ⟨rfl, hcoordinator, hsession⟩
  · have hstandard : ("session", .nothing) ∈ Section.whole.standards := by
      simp [Section.standards]
    exact absurd htext (habsent entry hentry _ hstandard)

end Standard

end Courier.Config
