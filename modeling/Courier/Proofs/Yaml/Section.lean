import Courier.Proofs.Config.Accepted
import Courier.Proofs.Yaml.Alike

/-!
# Sections of a document

A section is found under a path of keys, through aliases or without them (`Node.Holds`), and two
documents may differ in one section only (`Node.Differ`).

A section that is read has known keys only (`Node.readSection_ok`). A member that a section does
not give can be given a value without effect on the others (`Supplies`), wherever it is put
(`Node.alike_supplied`).
-/

namespace Courier.Yaml

open Reading

/-! ## What nodes stand for -/

namespace Node

/-- The node that a node stands for. -/
def target? (nodes : List (Nat × Node)) : Node → Option Node
  | .alias anchor => nodes.lookup anchor
  | node => some node

/-- The text that a node stands for. -/
def text? (nodes : List (Nat × Node)) (node : Node) : Option String :=
  match node.target? nodes with
  | some (.scalar _ _ text) => some text
  | _ => none

/-- The entries of the mapping under a path of keys. -/
inductive Holds (nodes : List (Nat × Node)) (entries : List (Node × Node)) :
    List String → Node → Prop
  | here {node : Node} {tag : Option Tag} (h : node.target? nodes = some (.mapping tag entries)) :
      Holds nodes entries [] node
  | under {node : Node} {tag : Option Tag} {others : List (Node × Node)} {entry : Node × Node}
      {name : String} {path : List String} (h : node.target? nodes = some (.mapping tag others))
      (hentry : entry ∈ others) (hkey : entry.1.text? nodes = some name)
      (hvalue : Holds nodes entries path entry.2) : Holds nodes entries (name :: path) node

/-- Nodes that differ in the entries of the mapping under a path of keys only. -/
inductive Differ (nodes : List (Nat × Node)) (entries entries' : List (Node × Node)) :
    List String → Node → Node → Prop
  | here (tag : Option Tag) : Differ nodes entries entries' [] (.mapping tag entries)
      (.mapping tag entries')
  | under (tag : Option Tag) (before after : List (Node × Node)) {key value value' : Node}
      {name : String} {path : List String} (hkey : key.text? nodes = some name)
      (hvalue : Differ nodes entries entries' path value value') :
      Differ nodes entries entries' (name :: path) (.mapping tag (before ++ (key, value) :: after))
        (.mapping tag (before ++ (key, value') :: after))

end Node

namespace Reading

variable {α β : Type} {A : Anchors}

/-- What is read with something else comes of what the other thing was read as. -/
theorem bind_ok {read : Reading α} {next : α → Reading β} {followed : Nat} {result : β × Nat}
    (h : (read >>= next) A followed = .ok result) :
    ∃ a n, read A followed = .ok (a, n) ∧ next a A n = .ok result := by
  simp only [Bind.bind, ReaderT.bind, StateT.bind, Except.bind] at h
  cases hread : read A followed with
  | error fault =>
    rw [hread] at h
    cases h
  | ok first =>
    rw [hread] at h
    exact ⟨first.1, first.2, rfl, h⟩

end Reading

/-! ## What is known of a section that is read -/

section Known

variable {A : Anchors} {followed : Nat}

/-- A node is followed to what it stands for. -/
theorem Node.follow_ok {node target : Node} {n : Nat}
    (h : node.follow A followed = .ok (target, n)) : node.target? A.nodes = some target := by
  cases node with
  | «alias» anchor =>
    obtain ⟨_, m, -, h⟩ := bind_ok h
    obtain ⟨_, _, hanchors, h⟩ := bind_ok h
    cases hanchors
    rw [target?]
    cases hlookup : A.nodes.lookup anchor with
    | none =>
      rw [hlookup] at h
      cases h
    | some found =>
      rw [hlookup] at h
      cases h
      rfl
  | broken flaw => cases h
  | _ =>
    cases h
    rfl

/-- What is refused is not read. -/
theorem Node.refuse_ne_ok {α : Type} (expected : String) (node : Node) (result : α × Nat) :
    refuse expected node A followed ≠ .ok result := by
  intro h
  cases node with
  | scalar tag style text =>
    cases hmeaning : Meaning.ofScalar tag style text with
    | error what =>
      rw [refuse, hmeaning] at h
      cases h
    | ok meaning =>
      rw [refuse, hmeaning] at h
      cases h
  | _ => cases h

/-- A text is read of a node that stands for it. -/
theorem Node.readText_ok {node : Node} {expected text : String} {n : Nat}
    (h : node.readText expected A followed = .ok (text, n)) : node.text? A.nodes = some text := by
  obtain ⟨target, m, hfollow, h⟩ := bind_ok h
  rw [text?, follow_ok hfollow]
  cases target with
  | scalar tag style text' =>
    cases h
    rfl
  | _ => exact absurd h (refuse_ne_ok _ _ _)

/-- The entries that are read of a node are those of the mapping that it stands for. -/
theorem Node.readEntries_ok {node : Node} {tag : Option Tag} {entries found : List (Node × Node)}
    {expected : String} {n : Nat} (hnode : node.target? A.nodes = some (.mapping tag entries))
    (h : node.readEntries expected A followed = .ok (found, n)) : found = entries := by
  obtain ⟨target, m, hfollow, h⟩ := bind_ok h
  cases (follow_ok hfollow).symm.trans hnode
  cases h
  rfl

variable {σ : Type} {members : List (Member σ)}

/-- Each key of a section that is read names a member, which reads the value. -/
theorem Member.readAll_ok {entries : List (Node × Node)} {draft : σ} {result : σ × Nat}
    (h : readAll members entries draft A followed = .ok result) :
    ∀ entry ∈ entries, ∃ m name, members.find? (fun m => m.name = name) = some m ∧
      entry.1.text? A.nodes = some name ∧
        ∃ draft followed result, m.read entry.2 draft A followed = .ok result := by
  induction entries generalizing draft followed with
  | nil => simp
  | cons entry rest ih =>
    obtain ⟨name, n, hname, h⟩ := bind_ok h
    cases hfind : members.find? fun m => m.name = name with
    | none =>
      rw [hfind] at h
      cases h
    | some m =>
      rw [hfind] at h
      dsimp only at h
      split at h
      · cases h
      · obtain ⟨next, n', hread, h⟩ := bind_ok h
        refine List.forall_mem_cons.2 ⟨?_, ih h⟩
        exact ⟨m, name, hfind, Node.readText_ok hname, draft, n, _, hread⟩

/-- Each key of a mapping that is read as a section names a member, which reads the value. -/
theorem Node.readSection_ok {node : Node} {tag : Option Tag} {entries : List (Node × Node)}
    {name : String} {nothing : σ} {result : σ × Nat}
    (hnode : node.target? A.nodes = some (.mapping tag entries))
    (h : node.readSection name members nothing A followed = .ok result) :
    ∀ entry ∈ entries, ∃ m name, members.find? (fun m => m.name = name) = some m ∧
      entry.1.text? A.nodes = some name ∧
        ∃ draft followed result, m.read entry.2 draft A followed = .ok result := by
  obtain ⟨found, n, hentries, h⟩ := bind_ok h
  cases readEntries_ok hnode hentries
  exact Member.readAll_ok h

end Known

/-! ## Sections that differ -/

section Differing

variable {σ : Type} {A : Anchors} {members : List (Member σ)}

/-- Sections with different values for one key are read alike if the member of this key reads the
values alike and no member tells the difference afterwards. -/
theorem Member.alike_readAll_entry {R : σ → σ → Prop} {key value value' : Node} {name : String}
    (hkey : key.text? A.nodes = some name)
    (hvalue : ∀ m, members.find? (fun m => m.name = name) = some m → ∀ draft,
      Alike A A R (m.read value draft) (m.read value' draft))
    (hafter : ∀ m ∈ members, ∀ draft draft', R draft draft' →
      m.given draft = m.given draft' ∧
        (m.given draft = false → ∀ node, Alike A A R (m.read node draft) (m.read node draft')))
    (before after : List (Node × Node)) (draft : σ) :
    Alike A A R (readAll members (before ++ (key, value) :: after) draft)
      (readAll members (before ++ (key, value') :: after) draft) := by
  simp only [readAll_append, readAll]
  refine (alike_refl _).bind_eq fun draft => ?_
  refine (alike_refl _).bind ?_
  rintro name' _ followed n hname rfl
  have hsame : name' = name := by
    have htext := Node.readText_ok hname
    rw [hkey] at htext
    exact (Option.some.inj htext).symm
  cases hsame
  cases hfind : members.find? fun m => m.name = name with
  | none => exact alike_fail _
  | some m =>
    dsimp only
    split
    · exact alike_fail _
    · refine (hvalue m hfind draft).bind fun draft draft' _ _ _ h => ?_
      refine alike_readAll (fun _ _ => alike_refl _) ?_ h
      intro entry _ m hm _ draft draft' h
      obtain ⟨hgiven, hread⟩ := hafter m hm draft draft' h
      exact ⟨hgiven, fun hmissing => hread hmissing entry.2⟩

/-- How the members of a section other than one get on where this one has been given a value:
nothing changes for them, and they do not give the one. -/
structure Apart (one : Member σ) (supply : σ → σ) (m : Member σ) : Prop where
  given : ∀ draft, m.given (supply draft) = m.given draft
  read : ∀ node draft, m.read node (supply draft) = supply <$> m.read node draft
  kept : ∀ node draft, Yields (fun after => one.given after = one.given draft) (m.read node draft)

/-- A node gives one member of a section a value. -/
structure Supplies (members : List (Member σ)) (one : Member σ) (node : Node) (supply : σ → σ) :
    Prop where
  found : members.find? (fun m => m.name = one.name) = some one
  read : ∀ draft, one.read node draft = pure (supply draft)
  apart : ∀ m ∈ members, m.name ≠ one.name → Apart one supply m

/-- A reader runs like itself with something done in the end. -/
theorem alike_map {α : Type} {P : α → Prop} {read : Reading α} (h : Yields P read) (f : α → α) :
    Alike A A (fun a b => P a ∧ b = f a) read (f <$> read) := by
  have hmap : Alike A A (fun a b => P a ∧ b = f a) (read >>= pure)
      (read >>= fun a => pure (f a)) := by
    refine (alike_refl read).bind ?_
    rintro a _ followed n hread rfl
    exact alike_pure ⟨h hread, rfl⟩
  rwa [bind_pure, bind_pure_comp] at hmap

/-- What is read of a section with one more entry is what is read without it, with the value that
the entry gives, if no other entry is for the same member. -/
theorem Member.alike_readAll_supplied {one : Member σ} {node : Node} {supply : σ → σ}
    (hsupplies : Supplies members one node supply) {before after : List (Node × Node)}
    (hfresh : ∀ entry ∈ before ++ after, entry.1.text? A.nodes ≠ some one.name)
    (tag : Option Tag) (style : Style) {draft : σ} (hdraft : one.given draft = false) :
    Alike A A (fun a b => one.given a = false ∧ b = supply a)
      (readAll members (before ++ after) draft)
      (readAll members (before ++ (.scalar tag style one.name, node) :: after) draft) := by
  rw [readAll_append, readAll_append]
  have hothers : ∀ entry ∈ before ++ after, ∀ m ∈ members,
      (∃ followed n, entry.1.readText "field identifier" A followed = .ok (m.name, n)) →
        Apart one supply m := by
    rintro entry hentry m hm ⟨followed, n, hname⟩
    refine hsupplies.apart m hm fun hsame => ?_
    exact hfresh entry hentry (hsame ▸ Node.readText_ok hname)
  have hbefore : Alike A A (fun a b => one.given a = false ∧ b = a)
      (readAll members before draft) (readAll members before draft) := by
    refine alike_readAll (fun _ _ => alike_refl _) ?_ ⟨hdraft, rfl⟩
    rintro entry hentry m hm hname _ draft ⟨hdraft, rfl⟩
    have hapart := hothers entry (List.mem_append_left _ hentry) m hm hname
    refine ⟨rfl, fun _ => ?_⟩
    have hread := alike_map (A := A) (hapart.kept entry.2 draft) id
    simpa only [id_map, hdraft, id] using hread
  refine hbefore.bind ?_
  rintro _ draft - - - ⟨hdraft, rfl⟩
  have hentry : readAll members ((.scalar tag style one.name, node) :: after) draft =
      readAll members after (supply draft) := by
    have hname : Node.readText "field identifier" (.scalar tag style one.name) =
        (pure one.name : Reading String) := rfl
    simp [readAll, hname, hsupplies.found, hdraft, hsupplies.read]
  rw [hentry]
  refine alike_readAll (fun _ _ => alike_refl _) ?_ ⟨hdraft, rfl⟩
  rintro entry hentry m hm hname draft _ ⟨hdraft, rfl⟩
  have hapart := hothers entry (List.mem_append_right _ hentry) m hm hname
  refine ⟨(hapart.given draft).symm, fun _ => ?_⟩
  rw [hapart.read]
  simpa only [hdraft] using alike_map (A := A) (hapart.kept entry.2 draft) supply

end Differing

end Courier.Yaml
