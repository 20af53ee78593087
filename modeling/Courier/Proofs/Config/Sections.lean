import Courier.Proofs.Config.Naming
import Courier.Proofs.Config.Standard
import Courier.Session

/-!
# Sections of a configuration

Loading refuses every key that a section does not know, whatever else there is in the document.
Only the documents that the client serves alone may have any names, of which the rules alone are
the judges. What a section leaves out has its standard value: a document loads to the same
configuration whether it spells standard values out or not.

The main statement is `sections_strict_and_standard`.
-/

namespace Courier.Config

open Yaml Yaml.Reading

/-! ## Unknown keys -/

/-- The keys that a section knows. -/
def Section.names : Section → List String
  | .whole => ["version", "coordinator", "client", "session"]
  | .coordinator => ["host", "port", "connect_timeout_ms"]
  | .client => ["id", "paths", "static_responses"]
  | .session => ["max_frame_bytes", "heartbeat_interval_ms", "inbound_queue"]

section Strict

variable {A : Anchors} {followed : Nat}

/-- The keys of a section that is read are among the names of its members. -/
theorem known_of_readSection {σ : Type} {members : List (Member σ)} {node : Node}
    {tag : Option Tag} {entries : List (Node × Node)} {name : String} {nothing : σ}
    {result : σ × Nat} (hnode : node.target? A.nodes = some (.mapping tag entries))
    (h : node.readSection name members nothing A followed = .ok result) :
    ∀ entry ∈ entries, ∃ name ∈ members.map Member.name, entry.1.text? A.nodes = some name := by
  intro entry hentry
  obtain ⟨m, name, hfind, htext, -⟩ := Node.readSection_ok hnode h entry hentry
  have hm : m.name = name := by simpa using List.find?_some hfind
  exact ⟨name, List.mem_map.2 ⟨m, List.mem_of_find?_eq_some hfind, hm⟩, htext⟩

/-- The keys of a section inside a section that is read are among the names of its members. -/
theorem known_of_holds {σ τ α : Type} {members : List (Member σ)} {inner : List (Member τ)}
    {root : Node} {entries : List (Node × Node)} {what what' name : String} {nothing : σ}
    {nothing' : τ} {result : σ × Nat} {get : σ → Option α} {put : σ → α → σ}
    {finish : τ → Reading α} (hholds : root.Holds A.nodes entries [name])
    (h : root.readSection what members nothing A followed = .ok result)
    (hmember : members.find? (fun m => m.name = name) =
      some (member name get put fun node => node.readSection what' inner nothing' >>= finish)) :
    ∀ entry ∈ entries, ∃ key ∈ inner.map Member.name, entry.1.text? A.nodes = some key := by
  cases hholds with
  | under hroot hentry hkey hvalue =>
    cases hvalue with
    | here hnode =>
      obtain ⟨m, found, hfind, htext, draft, n, result, hread⟩ :=
        Node.readSection_ok hroot h _ hentry
      cases hkey.symm.trans htext
      cases hmember.symm.trans hfind
      obtain ⟨a, _, hvalue, -⟩ := bind_ok hread
      obtain ⟨given, _, hgiven, -⟩ := bind_ok hvalue
      exact known_of_readSection hnode hgiven

/-- A configuration is read of sections that have no unknown keys. -/
theorem known_of_ofNode {root : Node} {result : Config × Nat}
    (h : ofNode root A followed = .ok result) (s : Section) {entries : List (Node × Node)}
    (hholds : root.Holds A.nodes entries s.path) :
    ∀ entry ∈ entries, ∃ name ∈ s.names, entry.1.text? A.nodes = some name := by
  obtain ⟨given, n, hsection, -⟩ := bind_ok h
  cases s with
  | whole =>
    cases hholds with
    | here hroot => exact known_of_readSection hroot hsection
  | coordinator => exact known_of_holds hholds hsection rfl
  | client => exact known_of_holds hholds hsection rfl
  | session => exact known_of_holds hholds hsection rfl

end Strict

/-! ## Trees without aliases -/

section Tree

variable {A A' : Anchors}

/-- A member is read alike if its values are. -/
theorem alike_member {σ α : Type} {name : String} {get : σ → Option α} {put : σ → α → σ}
    {read : Node → Reading α} {value : Node} (h : Alike A A' Eq (read value) (read value))
    (draft : σ) :
    Alike A A' Eq ((member name get put read).read value draft)
      ((member name get put read).read value draft) :=
  h.bind_eq fun _ => alike_pure rfl

/-- A value that is needed is there or not, whatever the anchors. -/
theorem alike_needed {α : Type} (name : String) (value : Option α) :
    Alike A A' Eq (needed name value) (needed name value) := by
  cases value with
  | none => exact alike_fail _
  | some a => exact alike_pure rfl

/-- A coordinator without aliases is read alike. -/
theorem Coordinator.alike_ofNode {node : Node} (h : node.Tree) :
    Alike A A' Eq (ofNode node) (ofNode node) := by
  refine (h.alike_readSection ?_ _ _).bind_eq fun _ => alike_pure rfl
  simp only [members, List.forall_mem_cons]
  refine ⟨fun value hvalue draft => ?_, fun value hvalue draft => ?_, fun value hvalue draft => ?_,
    List.forall_mem_nil _⟩
  · exact alike_member (hvalue.alike_readText _) draft
  · exact alike_member (hvalue.alike_readWord _ _) draft
  · exact alike_member (hvalue.alike_readWord _ _) draft

/-- A client without aliases is read alike. -/
theorem Client.alike_ofNode {node : Node} (h : node.Tree) :
    Alike A A' Eq (ofNode node) (ofNode node) := by
  refine (h.alike_readSection ?_ _ _).bind_eq fun given => ?_
  · simp only [members, List.forall_mem_cons]
    refine ⟨fun value hvalue draft => ?_, fun value hvalue draft => ?_,
      fun value hvalue draft => ?_, List.forall_mem_nil _⟩
    · exact alike_member (hvalue.alike_readText _) draft
    · exact alike_member (hvalue.alike_readList fun item hitem => hitem.alike_readText _) draft
    · exact alike_member (hvalue.alike_readDocuments _) draft
  · refine (alike_needed _ _).bind_eq fun id => ?_
    exact (alike_needed _ _).bind_eq fun paths => alike_pure rfl

/-- Limits without aliases are read alike. -/
theorem Limits.alike_ofNode {node : Node} (h : node.Tree) :
    Alike A A' Eq (ofNode node) (ofNode node) := by
  refine (h.alike_readSection ?_ _ _).bind_eq fun _ => alike_pure rfl
  simp only [members, List.forall_mem_cons]
  refine ⟨fun value hvalue draft => ?_, fun value hvalue draft => ?_, fun value hvalue draft => ?_,
    List.forall_mem_nil _⟩
  · exact alike_member (hvalue.alike_readWord _ _) draft
  · exact alike_member (hvalue.alike_readWord _ _) draft
  · exact alike_member (hvalue.alike_readWord _ _) draft

/-- A configuration without aliases is read alike. -/
theorem alike_ofNode {node : Node} (h : node.Tree) :
    Alike A A' Eq (ofNode node) (ofNode node) := by
  refine (h.alike_readSection ?_ _ _).bind_eq fun given => ?_
  · simp only [members, List.forall_mem_cons]
    refine ⟨fun value hvalue draft => ?_, fun value hvalue draft => ?_,
      fun value hvalue draft => ?_, fun value hvalue draft => ?_, List.forall_mem_nil _⟩
    · exact alike_member (hvalue.alike_readWord _ _) draft
    · exact alike_member (Coordinator.alike_ofNode hvalue) draft
    · exact alike_member (Client.alike_ofNode hvalue) draft
    · exact alike_member (Limits.alike_ofNode hvalue) draft
  · refine (alike_needed _ _).bind_eq fun version => ?_
    exact (alike_needed _ _).bind_eq fun client => alike_pure rfl

end Tree

/-! ## Loading -/

/-- Documents whose roots are read alike, and that go on alike, are read alike as a whole. -/
theorem readAs_of_alike {α β : Type} {R : α → β → Prop} {d d' : Document}
    {read : Node → Reading α} {read' : Node → Reading β}
    (hroot : Alike ⟨d.anchors, d.size * 100⟩ ⟨d'.anchors, d'.size * 100⟩ R (read d.root)
      (read' d'.root))
    (hconclusion : d'.conclusion = d.conclusion) :
    (∃ fault, d.readAs read = .error fault ∧ d'.readAs read' = .error fault) ∨
      ∃ a b, R a b ∧ d.readAs read = .ok a ∧ d'.readAs read' = .ok b := by
  have hmatch := hroot 0
  simp only [Document.readAs, Bind.bind, Except.bind, hconclusion]
  generalize read d.root _ 0 = outcome at hmatch ⊢
  generalize read' d'.root _ 0 = outcome' at hmatch ⊢
  cases hmatch with
  | fault fault => exact .inl ⟨fault, rfl, rfl⟩
  | value n h =>
    cases d.conclusion with
    | textEnd => exact .inr ⟨_, _, h, rfl, rfl⟩
    | anotherDocument => exact .inl ⟨_, rfl, rfl⟩
    | broken flaw => exact .inl ⟨_, rfl, rfl⟩

/-- Documents that are read alike load alike. -/
theorem ofDocument_eq_of_alike {d d' : Document}
    (hroot : Alike ⟨d.anchors, d.size * 100⟩ ⟨d'.anchors, d'.size * 100⟩ Eq (ofNode d.root)
      (ofNode d'.root))
    (hconclusion : d'.conclusion = d.conclusion) : ofDocument d' = ofDocument d := by
  rw [ofDocument, ofDocument]
  rcases readAs_of_alike hroot hconclusion with ⟨fault, h, h'⟩ | ⟨a, _, rfl, h, h'⟩
  · rw [h, h']
  · rw [h, h']

/-- A configuration is loaded if it is read and keeps the rules. -/
theorem ofDocument_eq_ok_iff {d : Document} {c : Config} :
    ofDocument d = .ok c ↔ d.readAs ofNode = .ok c ∧ c.violation? = none := by
  rw [ofDocument]
  cases hread : d.readAs ofNode with
  | error fault => simp
  | ok config =>
    simp only [validate]
    constructor
    · intro h
      cases hviolation : config.violation? with
      | none =>
        rw [hviolation] at h
        cases h
        exact ⟨rfl, hviolation⟩
      | some rule =>
        rw [hviolation] at h
        cases h
    · rintro ⟨⟨⟩, hviolation⟩
      rw [hviolation]

/-- What is read of a document is read of its root. -/
theorem exists_of_readAs {α : Type} {d : Document} {read : Node → Reading α} {a : α}
    (h : d.readAs read = .ok a) : ∃ n, read d.root ⟨d.anchors, d.size * 100⟩ 0 = .ok (a, n) := by
  simp only [Document.readAs, Bind.bind, Except.bind] at h
  cases hroot : read d.root ⟨d.anchors, d.size * 100⟩ 0 with
  | error fault =>
    rw [hroot] at h
    cases h
  | ok result =>
    rw [hroot] at h
    cases hconclusion : d.conclusion with
    | textEnd =>
      simp only [hconclusion] at h
      cases h
      exact ⟨result.2, rfl⟩
    | anotherDocument => simp [hconclusion] at h
    | broken flaw => simp [hconclusion] at h

/-- A document with an unknown key in a section is refused. -/
theorem ofDocument_of_unknown_key {d : Document} {s : Section} {entries : List (Node × Node)}
    (hholds : d.root.Holds d.anchors entries s.path) {entry : Node × Node}
    (hentry : entry ∈ entries) (hunknown : ∀ name ∈ s.names, entry.1.text? d.anchors ≠ some name) :
    ∃ fault, ofDocument d = .error (.yaml fault) := by
  rw [ofDocument]
  cases hread : d.readAs ofNode with
  | error fault => exact ⟨fault, rfl⟩
  | ok c =>
    obtain ⟨n, hroot⟩ := exists_of_readAs hread
    obtain ⟨name, hname, htext⟩ := known_of_ofNode hroot s hholds entry hentry
    exact absurd htext (hunknown name hname)

/-- A document loads alike whatever standard values it spells out. -/
theorem ofDocument_of_spellsOut {d d' : Document} (hanchors : d'.anchors = d.anchors)
    (hconclusion : d'.conclusion = d.conclusion) (hsize : d'.size = d.size ∨ d.root.Tree)
    (h : Relation.EqvGen (SpellsOut d.anchors) d.root d'.root) : ofDocument d' = ofDocument d := by
  have hspelled : Alike ⟨d.anchors, d'.size * 100⟩ ⟨d.anchors, d'.size * 100⟩ Eq (ofNode d.root)
      (ofNode d'.root) := alike_ofNode_of_eqvGen h
  have hsized : Alike ⟨d.anchors, d.size * 100⟩ ⟨d.anchors, d'.size * 100⟩ Eq (ofNode d.root)
      (ofNode d.root) := by
    rcases hsize with hsize | htree
    · rw [hsize]
      exact alike_refl _
    · exact alike_ofNode htree
  refine ofDocument_eq_of_alike ?_ hconclusion
  rw [hanchors]
  exact alike_eq_iff.2 fun n => (alike_eq_iff.1 hsized n).trans (alike_eq_iff.1 hspelled n)

section Names

variable {d : Document} {root : Node} {keys keys' : List Key} {values : List Node}

/-- Whether a document can be read does not depend on the names of the documents in it. -/
theorem readAs_of_keyed (hkeys : keys.length = values.length)
    (hkeys' : keys'.length = values.length)
    (h : d.root.Differ d.anchors (keyed keys values) (keyed keys' values)
      ["client", "static_responses"] root) :
    (∃ fault, d.readAs ofNode = .error fault ∧
        { d with root := root }.readAs ofNode = .error fault) ∨
      ∃ c c', SameButNames keys keys' c c' ∧ d.readAs ofNode = .ok c ∧
        { d with root := root }.readAs ofNode = .ok c' :=
  readAs_of_alike (alike_ofNode_keyed hkeys hkeys' h) rfl

/-- A document that loads loads under other names of the documents in it, if all of them are paths
of the client. Otherwise it is refused because of one that is not. -/
theorem ofDocument_of_keyed {c : Config} (hkeys : keys.length = values.length)
    (hkeys' : keys'.length = values.length)
    (h : d.root.Differ d.anchors (keyed keys values) (keyed keys' values)
      ["client", "static_responses"] root) (hc : ofDocument d = .ok c) :
    ((∀ key ∈ keys', key.text ∈ c.client.paths) ∧
        ∃ c', SameButNames keys keys' c c' ∧ ofDocument { d with root := root } = .ok c') ∨
      ∃ key ∈ keys', key.text ∉ c.client.paths ∧
        ofDocument { d with root := root } = .error (.violation (.unregisteredPath key.text)) := by
  obtain ⟨hread, hviolation⟩ := ofDocument_eq_ok_iff.1 hc
  rcases readAs_of_keyed hkeys hkeys' h with
    ⟨fault, hfault, -⟩ | ⟨_, c', ⟨hrenamed, hsame⟩, hc, hread'⟩
  · cases hread.symm.trans hfault
  cases hread.symm.trans hc
  have hclient := hrenamed.2
  have hnames : ∀ name,
      name ∈ c'.client.documents.map Prod.fst ↔ ∃ key ∈ keys', key.text = name := by
    intro name
    obtain ⟨⟨read, hlength, -, hdocuments⟩, -⟩ := hrenamed
    rw [Client.documents, hdocuments, mem_names_collect name (by simp [hlength, hkeys, hkeys'])]
    simp
  have hrule : c'.violation? = documentViolation? c.client.paths c'.client.documents := by
    rw [Client.documents, ← violation?_of_documents hviolation, ← hclient, ← hsame]
  cases hfound : c'.violation? with
  | none =>
    refine .inl ⟨fun key hkey => ?_, c', ⟨hrenamed, hsame⟩, ofDocument_eq_ok_iff.2 ⟨hread', hfound⟩⟩
    have hserved := (documentViolation?_eq_none_iff _ _).1 (hrule.symm.trans hfound)
    obtain ⟨entry, hentry, hname⟩ := List.mem_map.1 ((hnames key.text).2 ⟨key, hkey, rfl⟩)
    exact hname ▸ hserved entry hentry
  | some rule =>
    obtain ⟨name, hname, hout, rfl⟩ := exists_of_documentViolation? (hrule.symm.trans hfound)
    obtain ⟨key, hkey, rfl⟩ := (hnames name).1 hname
    refine .inr ⟨key, hkey, hout, ?_⟩
    rw [ofDocument, hread']
    simp only [validate, hfound]

end Names

/-- A configuration without coordinator and limits has the standard ones. -/
theorem standard_of_ofDocument {d : Document} {entries : List (Node × Node)} {c : Config}
    (hroot : d.root.Holds d.anchors entries [])
    (habsent : ∀ entry ∈ entries, ∀ standard ∈ Section.whole.standards,
      entry.1.text? d.anchors ≠ some standard.1) (h : ofDocument d = .ok c) :
    c.coordinator = .standard ∧ c.session = .standard := by
  obtain ⟨n, hnode⟩ := exists_of_readAs (ofDocument_eq_ok_iff.1 h).1
  obtain ⟨given, m, hsection, hcomplete⟩ := bind_ok hnode
  obtain ⟨found, k, hentries, hall⟩ := bind_ok hsection
  cases hroot with
  | here hroot =>
    cases Node.readEntries_ok hroot hentries
    have hmatch := alike_readAll_absent (A := ⟨d.anchors, d.size * 100⟩) habsent k
    rw [hall] at hmatch
    cases hmatch with
    | value _ hgiven =>
      obtain ⟨-, hcoordinator, hsession⟩ := hgiven
      obtain ⟨version, _, -, hcomplete⟩ := bind_ok hcomplete
      obtain ⟨client, _, -, hcomplete⟩ := bind_ok hcomplete
      cases hcomplete
      simp [hcoordinator, hsession]

/-- Loading is strict about keys and consistent about what is left out. A key that a section does
not know is refused beside all else. The documents that the client serves alone are read under any
names, and of the names only the rules are asked. A document loads to the same configuration, or is
refused for the same reason, whether it leaves standard values and sections out, gives a section as
an empty mapping or spells the standard values out; and a session has the standard limits where
neither a coordinator nor limits are configured. -/
theorem sections_strict_and_standard :
    (∀ (d : Document) (s : Section) (entries : List (Node × Node)) (entry : Node × Node),
      d.root.Holds d.anchors entries s.path → entry ∈ entries →
        (∀ name ∈ s.names, entry.1.text? d.anchors ≠ some name) →
          ∃ fault, ofDocument d = .error (.yaml fault)) ∧
    (∀ (d : Document) (root : Node) (keys keys' : List Key) (values : List Node),
      keys.length = values.length → keys'.length = values.length →
        d.root.Differ d.anchors (keyed keys values) (keyed keys' values)
          ["client", "static_responses"] root →
          ((∃ fault, d.readAs ofNode = .error fault ∧
              { d with root := root }.readAs ofNode = .error fault) ∨
            ∃ c c', SameButNames keys keys' c c' ∧ d.readAs ofNode = .ok c ∧
              { d with root := root }.readAs ofNode = .ok c') ∧
          ∀ c, ofDocument d = .ok c →
            ((∀ key ∈ keys', key.text ∈ c.client.paths) ∧
              ∃ c', SameButNames keys keys' c c' ∧ ofDocument { d with root := root } = .ok c') ∨
            ∃ key ∈ keys', key.text ∉ c.client.paths ∧
              ofDocument { d with root := root } =
                .error (.violation (.unregisteredPath key.text))) ∧
    (∀ d d' : Document, d'.anchors = d.anchors → d'.conclusion = d.conclusion →
      d'.size = d.size ∨ d.root.Tree →
        Relation.EqvGen (SpellsOut d.anchors) d.root d'.root → ofDocument d' = ofDocument d) ∧
    ∀ (d : Document) (entries : List (Node × Node)) (c : Config),
      d.root.Holds d.anchors entries [] →
        (∀ entry ∈ entries, ∀ standard ∈ Section.whole.standards,
          entry.1.text? d.anchors ≠ some standard.1) →
          ofDocument d = .ok c → c.coordinator = .standard ∧ c.session = .standard ∧
            Session.Options.ofConfig c = .standard := by
  refine ⟨?_, ?_, ?_, ?_⟩
  · intro d s entries entry hholds hentry hunknown
    exact ofDocument_of_unknown_key hholds hentry hunknown
  · intro d root keys keys' values hkeys hkeys' h
    exact ⟨readAs_of_keyed hkeys hkeys' h, fun c hc => ofDocument_of_keyed hkeys hkeys' h hc⟩
  · intro d d' hanchors hconclusion hsize h
    exact ofDocument_of_spellsOut hanchors hconclusion hsize h
  · intro d entries c hroot habsent h
    obtain ⟨hcoordinator, hsession⟩ := standard_of_ofDocument hroot habsent h
    refine ⟨hcoordinator, hsession, ?_⟩
    rw [Session.Options.ofConfig, hcoordinator, hsession]
    rfl

/-- A document with a version and a client only is refused with a key `path` of the client. It loads
with the document that it serves under another path, and alike with the standard port. -/
theorem sections_strict_and_standard_client_only :
    let scalar : String → Node := .scalar none .plain
    let client (path : String) : List (Node × Node) := [(scalar "id", scalar "a"),
      (scalar "paths", .sequence none [scalar "/p", scalar "/q"]),
      (scalar "static_responses", .mapping none (keyed [⟨none, .plain, path⟩] [scalar "3"]))]
    let whole (entries : List (Node × Node)) : List (Node × Node) :=
      [(scalar "version", scalar "1"), (scalar "client", .mapping none entries)]
    let document (entries : List (Node × Node)) : Document :=
      ⟨.mapping none entries, [], 10, .textEnd⟩
    (∃ fault, ofDocument (document (whole ((scalar "path", scalar "/p") :: client "/p"))) =
      .error (.yaml fault)) ∧
    ∃ c, ofDocument (document (whole (client "/p"))) = .ok c ∧
      ofDocument (document (whole (client "/p") ++
        [(scalar "coordinator", .mapping none [(scalar "port", scalar "0x1f91")])])) = .ok c ∧
      Session.Options.ofConfig c = .standard ∧
      ∃ c', SameButNames [⟨none, .plain, "/p"⟩] [⟨none, .plain, "/q"⟩] c c' ∧
        ofDocument (document (whole (client "/q"))) = .ok c' := by
  intro scalar client whole document
  obtain ⟨hstrict, hfree, hspells, hstandard⟩ := sections_strict_and_standard
  have hloads : (ofDocument (document (whole (client "/p")))).toOption.any
      (fun c => c.client.paths = ["/p", "/q"]) = true := by decide +kernel
  obtain ⟨c, hc, hpaths⟩ := exists_ok_of_any hloads
  have hpaths : c.client.paths = ["/p", "/q"] := of_decide_eq_true hpaths
  refine ⟨?_, c, hc, ?_, ?_, ?_⟩
  · refine hstrict _ .client ((scalar "path", scalar "/p") :: client "/p") _ ?_ List.mem_cons_self
      (by decide)
    exact .under rfl (List.mem_cons_of_mem _ List.mem_cons_self) rfl (.here rfl)
  · have hsection : Adds [] .whole (whole (client "/p") ++ [])
        (whole (client "/p") ++ [(scalar "coordinator", .mapping none [])]) :=
      .entry none .plain (by simp [Section.standards]) (.empty none) (by decide)
    have hword : (Standard.word 8081).GivenBy (scalar "0x1f91") := .word none (by decide)
    have hport : Adds [] .coordinator ([] ++ []) ([] ++ [(scalar "port", scalar "0x1f91")]) :=
      .entry none .plain (by simp [Section.standards]) hword (by decide)
    rw [← hc]
    refine hspells _ _ rfl rfl (.inl rfl) (.trans _ (.mapping none (whole (client "/p") ++
      [(scalar "coordinator", .mapping none [])])) _ (.rel _ _ ?_) (.rel _ _ ?_))
    · exact ⟨.whole, _, _, hsection, .here none⟩
    · exact ⟨.coordinator, _, _, hport, .under none (whole (client "/p")) [] rfl (.here none)⟩
  · exact (hstandard (document (whole (client "/p"))) _ c (.here rfl) (by decide) hc).2.2
  · have hdiffer : (document (whole (client "/p"))).root.Differ []
        (keyed [⟨none, .plain, "/p"⟩] [scalar "3"]) (keyed [⟨none, .plain, "/q"⟩] [scalar "3"])
        ["client", "static_responses"] (document (whole (client "/q"))).root :=
      .under none [(scalar "version", scalar "1")] [] rfl (.under none [(scalar "id", scalar "a"),
        (scalar "paths", .sequence none [scalar "/p", scalar "/q"])] [] rfl (.here none))
    rcases (hfree _ _ _ _ _ rfl rfl hdiffer).2 c hc with ⟨-, hrenamed⟩ | ⟨key, hkey, hout, -⟩
    · exact hrenamed
    · rw [hpaths, List.mem_singleton.1 hkey] at hout
      exact absurd (by decide) hout

end Courier.Config
