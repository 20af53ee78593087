import Courier.Yaml.Reading

/-!
# Readers that run alike

Two readers run alike if they fail in the same way, or yield values that are related and follow
aliases equally often (`Alike`). Where the readers of the members of a section run alike, the
section is read alike (`Member.alike_readAll`), so a relation between two readings of one section
has to be known for one member at a time.

A tree without aliases (`Node.Tree`) is read alike whatever the aliases of its document refer to
and however often they may be followed.
-/

namespace Courier.Yaml

namespace Reading

variable {α β γ δ : Type} {A A' : Anchors} {R : α → β → Prop} {S : γ → δ → Prop}

/-- Outcomes of reading that are the same fault, or related values after equally many aliases. -/
inductive Match (R : α → β → Prop) : Except Fault (α × Nat) → Except Fault (β × Nat) → Prop
  | fault (fault : Fault) : Match R (.error fault) (.error fault)
  | value {a : α} {b : β} (followed : Nat) (h : R a b) :
    Match R (.ok (a, followed)) (.ok (b, followed))

/-- Readers with matching outcomes, each with anchors of its own. -/
def Alike (A A' : Anchors) (R : α → β → Prop) (x : Reading α) (y : Reading β) : Prop :=
  ∀ followed, Match R (x A followed) (y A' followed)

/-- Readers that fail in the same way run alike. -/
theorem alike_fail (fault : Fault) : Alike A A' R (fail fault) (fail fault) :=
  fun _ => .fault fault

/-- Related values that are there already are read alike. -/
theorem alike_pure {a : α} {b : β} (h : R a b) : Alike A A' R (pure a) (pure b) :=
  fun followed => .value followed h

/-- Readers run alike to the same values just if their outcomes are the same. -/
theorem alike_eq_iff {x y : Reading α} :
    Alike A A' Eq x y ↔ ∀ followed, x A followed = y A' followed := by
  constructor
  · intro h followed
    have hxy := h followed
    generalize x A followed = outcome at hxy ⊢
    generalize y A' followed = outcome' at hxy ⊢
    cases hxy with
    | fault fault => rfl
    | value n hab => rw [hab]
  · intro h followed
    rw [h followed]
    cases y A' followed with
    | error fault => exact .fault fault
    | ok result => exact .value result.2 rfl

/-- Every reader runs like itself. -/
theorem alike_refl (x : Reading α) : Alike A A Eq x x := alike_eq_iff.2 fun _ => rfl

/-- What is read alike is read alike in a weaker sense. -/
theorem Alike.mono {R' : α → β → Prop} {x : Reading α} {y : Reading β} (h : Alike A A' R x y)
    (hweaker : ∀ a b, R a b → R' a b) : Alike A A' R' x y := by
  intro followed
  have hxy := h followed
  generalize x A followed = outcome at hxy ⊢
  generalize y A' followed = outcome' at hxy ⊢
  cases hxy with
  | fault fault => exact .fault fault
  | value n hab => exact .value n (hweaker _ _ hab)

/-- What is read with something else is read alike if the other thing is, and if all that is
related there leads to readers that run alike. -/
theorem Alike.bind {x : Reading α} {y : Reading β} {f : α → Reading γ} {g : β → Reading δ}
    (h : Alike A A' R x y)
    (hnext : ∀ a b followed n, x A followed = .ok (a, n) → R a b → Alike A A' S (f a) (g b)) :
    Alike A A' S (x >>= f) (y >>= g) := by
  intro followed
  have hxy := h followed
  simp only [Bind.bind, ReaderT.bind, StateT.bind, Except.bind]
  generalize hx : x A followed = outcome at hxy ⊢
  generalize y A' followed = outcome' at hxy ⊢
  cases hxy with
  | fault fault => exact .fault fault
  | value n hab => exact hnext _ _ followed n hx hab n

/-- What is read with the same thing is read alike if it is for each such thing. -/
theorem Alike.bind_eq {x y : Reading α} {f : α → Reading γ} {g : α → Reading δ}
    (h : Alike A A' Eq x y) (hnext : ∀ a, Alike A A' S (f a) (g a)) :
    Alike A A' S (x >>= f) (y >>= g) := by
  refine h.bind ?_
  rintro a _ - - - rfl
  exact hnext a

/-- A list is read alike if its items are. -/
theorem alike_mapM {ι : Type} {read : ι → Reading α} {items : List ι}
    (h : ∀ item ∈ items, Alike A A' Eq (read item) (read item)) :
    Alike A A' Eq (items.mapM read) (items.mapM read) := by
  induction items with
  | nil => exact alike_pure rfl
  | cons item rest ih =>
    rw [List.mapM_cons]
    refine (h item List.mem_cons_self).bind_eq fun a => ?_
    exact (ih fun other hother => h other (List.mem_cons_of_mem _ hother)).bind_eq
      fun _ => alike_pure rfl

end Reading

open Reading

/-! ## Sections -/

namespace Member

variable {σ : Type} {A A' : Anchors} {R : σ → σ → Prop} {members : List (Member σ)}

/-- The entries of a section are read alike, from related drafts, if each of them is: its key is,
and so is its value by the member that the key names, which is given in both drafts or in none. -/
theorem alike_readAll {entries : List (Node × Node)}
    (hkeys : ∀ entry ∈ entries, Alike A A' Eq (entry.1.readText "field identifier")
      (entry.1.readText "field identifier"))
    (hvalues : ∀ entry ∈ entries, ∀ m ∈ members,
      (∃ followed n, entry.1.readText "field identifier" A followed = .ok (m.name, n)) →
        ∀ draft draft', R draft draft' →
          m.given draft = m.given draft' ∧
            (m.given draft = false → Alike A A' R (m.read entry.2 draft) (m.read entry.2 draft')))
    {draft draft' : σ} (h : R draft draft') :
    Alike A A' R (readAll members entries draft) (readAll members entries draft') := by
  induction entries generalizing draft draft' with
  | nil => exact alike_pure h
  | cons entry rest ih =>
    simp only [readAll]
    refine (hkeys entry List.mem_cons_self).bind ?_
    rintro name _ followed n hname rfl
    cases hfind : members.find? fun m => m.name = name with
    | none => exact alike_fail _
    | some m =>
      have hm : m.name = name := by simpa using List.find?_some hfind
      obtain ⟨hgiven, hread⟩ := hvalues entry List.mem_cons_self m
        (List.mem_of_find?_eq_some hfind) ⟨followed, n, hm ▸ hname⟩ draft draft' h
      simp only [← hgiven]
      split
      · exact alike_fail _
      · rename_i hmissing
        have hread := hread (by simpa using hmissing)
        refine hread.bind fun draft draft' _ _ _ hdraft => ih ?_ ?_ hdraft
        · exact fun other hother => hkeys other (List.mem_cons_of_mem _ hother)
        · exact fun other hother => hvalues other (List.mem_cons_of_mem _ hother)

/-- Entries in a row are read one after another. -/
theorem readAll_append (before after : List (Node × Node)) (draft : σ) :
    readAll members (before ++ after) draft =
      readAll members before draft >>= readAll members after := by
  induction before generalizing draft with
  | nil => simp [readAll]
  | cons entry rest ih =>
    simp only [List.cons_append, readAll, bind_assoc]
    congr 1
    funext name
    split
    · rfl
    · split
      · rfl
      · simp only [bind_assoc]
        congr 1
        funext draft
        exact ih draft

end Member

/-! ## Trees without aliases -/

namespace Node

variable {A A' : Anchors}

/-- A tree in which no node is an alias. -/
inductive Tree : Node → Prop
  | scalar (tag : Option Tag) (style : Style) (text : String) : Tree (.scalar tag style text)
  | sequence (tag : Option Tag) {items : List Node} (h : ∀ item ∈ items, Tree item) :
      Tree (.sequence tag items)
  | mapping (tag : Option Tag) {entries : List (Node × Node)}
      (hkeys : ∀ entry ∈ entries, Tree entry.1) (hvalues : ∀ entry ∈ entries, Tree entry.2) :
      Tree (.mapping tag entries)
  | broken (flaw : Flaw) : Tree (.broken flaw)

/-- What is read of the node that a tree stands for, which is the tree itself, is read alike if it
is of the tree. -/
theorem Tree.alike_follow {α : Type} {R : α → α → Prop} {node : Node} {read : Node → Reading α}
    (h : node.Tree) (hread : Alike A A' R (read node) (read node)) :
    Alike A A' R (node.follow >>= read) (node.follow >>= read) := by
  cases h with
  | scalar tag style text => exact hread
  | sequence tag h => exact hread
  | mapping tag hkeys hvalues => exact hread
  | broken flaw => exact alike_fail _

/-- A tree is refused alike. -/
theorem Tree.alike_refuse {α : Type} {R : α → α → Prop} {node : Node} (h : node.Tree)
    (expected : String) : Alike A A' R (refuse expected node) (refuse expected node) := by
  cases h with
  | scalar tag style text =>
    simp only [refuse]
    split <;> exact alike_fail _
  | sequence tag h => exact alike_fail _
  | mapping tag hkeys hvalues => exact alike_fail _
  | broken flaw => exact alike_fail _

/-- Texts are read alike. -/
theorem Tree.alike_readText {node : Node} (h : node.Tree) (expected : String) :
    Alike A A' Eq (node.readText expected) (node.readText expected) := by
  refine h.alike_follow ?_
  cases h with
  | scalar tag style text => exact alike_pure rfl
  | sequence tag h => exact alike_fail _
  | mapping tag hkeys hvalues => exact alike_fail _
  | broken flaw => exact alike_fail _

/-- Words are read alike. -/
theorem Tree.alike_readWord {node : Node} (h : node.Tree) (expected : String) (bits : Nat) :
    Alike A A' Eq (node.readWord expected bits) (node.readWord expected bits) := by
  refine h.alike_follow ?_
  cases h with
  | scalar tag style text =>
    have hrefuse : Alike A A' Eq (refuse expected (.scalar tag style text) : Reading Nat) _ :=
      (Tree.scalar tag style text).alike_refuse expected
    dsimp only
    split
    · split
      · exact hrefuse
      · split
        · exact alike_pure rfl
        · exact alike_fail _
    · exact hrefuse
  | sequence tag h => exact alike_fail _
  | mapping tag hkeys hvalues => exact alike_fail _
  | broken flaw => exact alike_fail _

/-- Lists are read alike if their items are. -/
theorem Tree.alike_readList {α : Type} {read : Node → Reading α} {node : Node} (h : node.Tree)
    (hread : ∀ item : Node, item.Tree → Alike A A' Eq (read item) (read item)) :
    Alike A A' Eq (node.readList read) (node.readList read) := by
  refine h.alike_follow ?_
  cases h with
  | scalar tag style text =>
    dsimp only
    split
    · exact alike_pure rfl
    · exact (Tree.scalar tag style text).alike_refuse _
  | sequence tag h => exact alike_mapM fun item hitem => hread item (h item hitem)
  | mapping tag hkeys hvalues => exact alike_fail _
  | broken flaw => exact alike_fail _

/-- Entries are read alike, and are trees again. -/
theorem Tree.alike_readEntries {node : Node} (h : node.Tree) (expected : String) :
    Alike A A' (fun entries entries' => entries' = entries ∧
      ∀ entry ∈ entries, entry.1.Tree ∧ entry.2.Tree)
      (node.readEntries expected) (node.readEntries expected) := by
  refine h.alike_follow ?_
  cases h with
  | scalar tag style text =>
    dsimp only
    split
    · exact alike_pure ⟨rfl, List.forall_mem_nil _⟩
    · exact (Tree.scalar tag style text).alike_refuse _
  | sequence tag h => exact alike_fail _
  | mapping tag hkeys hvalues =>
    exact alike_pure ⟨rfl, fun entry hentry => ⟨hkeys entry hentry, hvalues entry hentry⟩⟩
  | broken flaw => exact alike_fail _

/-- The members of a mapping of any shape are read alike if their values are. -/
theorem alike_readMembers {read : Node → Reading Json.Value} {entries : List (Node × Node)}
    (htrees : ∀ entry ∈ entries, entry.1.Tree)
    (hread : ∀ entry ∈ entries, Alike A A' Eq (read entry.2) (read entry.2)) (expected : String)
    (members : OrderedMap Json.Value) :
    Alike A A' Eq (readMembers read expected entries members)
      (readMembers read expected entries members) := by
  induction entries generalizing expected members with
  | nil => exact alike_pure rfl
  | cons entry rest ih =>
    refine ((htrees entry List.mem_cons_self).alike_readText expected).bind_eq fun name => ?_
    refine (hread entry List.mem_cons_self).bind_eq fun value => ih ?_ ?_ _ _
    · exact fun other hother => htrees other (List.mem_cons_of_mem _ hother)
    · exact fun other hother => hread other (List.mem_cons_of_mem _ hother)

/-- A tag is refused alike. -/
theorem alike_refuseLocalTag (tag : Option Tag) :
    Alike A A' Eq (refuseLocalTag tag) (refuseLocalTag tag) := by
  simp only [refuseLocalTag]
  split
  · exact alike_fail _
  · exact alike_pure rfl

/-- What a scalar means is read alike. -/
theorem alike_scalarValue (meaning : Meaning) :
    Alike A A' Eq (scalarValue meaning) (scalarValue meaning) := by
  cases meaning with
  | wideInteger n => exact alike_fail _
  | _ => exact alike_pure rfl

/-- A document is read alike if its parts are, where parts are allowed. -/
theorem Tree.alike_valueOf {parts : Option (Node → Reading Json.Value)} {node : Node}
    (h : node.Tree)
    (hparts : ∀ read ∈ parts, ∀ part : Node, part.Tree → Alike A A' Eq (read part) (read part)) :
    Alike A A' Eq (valueOf parts node) (valueOf parts node) := by
  refine h.alike_follow ?_
  cases h with
  | scalar tag style text =>
    refine (alike_refuseLocalTag tag).bind_eq fun _ => ?_
    split
    · exact alike_scalarValue _
    · exact alike_fail _
  | sequence tag h =>
    cases parts with
    | none => exact (alike_refuseLocalTag tag).bind_eq fun _ => alike_fail _
    | some read =>
      refine (alike_refuseLocalTag tag).bind_eq fun _ => ?_
      refine (alike_mapM fun item hitem => hparts read rfl item (h item hitem)).bind_eq fun _ => ?_
      exact alike_pure rfl
  | mapping tag hkeys hvalues =>
    cases parts with
    | none => exact (alike_refuseLocalTag tag).bind_eq fun _ => alike_fail _
    | some read =>
      refine (alike_refuseLocalTag tag).bind_eq fun _ => ?_
      refine (alike_readMembers hkeys (fun entry hentry =>
        hparts read rfl entry.2 (hvalues entry hentry)) _ _).bind_eq fun _ => alike_pure rfl
  | broken flaw => exact alike_fail _

/-- A document of any shape is read alike. -/
theorem Tree.alike_readValue (depth : Nat) {node : Node} (h : node.Tree) :
    Alike A A' Eq (readValue depth node) (readValue depth node) := by
  induction depth generalizing node with
  | zero => exact h.alike_valueOf (by rintro _ ⟨⟩)
  | succ depth ih =>
    refine h.alike_valueOf ?_
    rintro _ ⟨⟩ part hpart
    exact ih hpart

/-- A map of documents is read alike. -/
theorem Tree.alike_readDocuments (depth : Nat) {node : Node} (h : node.Tree) :
    Alike A A' Eq (node.readDocuments depth) (node.readDocuments depth) := by
  refine (h.alike_readEntries "a map").bind ?_
  rintro entries _ - - - ⟨rfl, htrees⟩
  exact alike_readMembers (fun entry hentry => (htrees entry hentry).1)
    (fun entry hentry => (htrees entry hentry).2.alike_readValue depth) _ _

/-- A section is read alike if its members read their values alike. -/
theorem Tree.alike_readSection {σ : Type} {members : List (Member σ)} {node : Node} (h : node.Tree)
    (hmembers : ∀ m ∈ members, ∀ value : Node, value.Tree → ∀ draft,
      Alike A A' Eq (m.read value draft) (m.read value draft))
    (name : String) (nothing : σ) :
    Alike A A' Eq (node.readSection name members nothing)
      (node.readSection name members nothing) := by
  refine (h.alike_readEntries _).bind ?_
  rintro entries _ - - - ⟨rfl, htrees⟩
  refine Member.alike_readAll (fun entry hentry => (htrees entry hentry).1.alike_readText _) ?_ rfl
  rintro entry hentry m hm - draft _ rfl
  exact ⟨rfl, fun _ => hmembers m hm entry.2 (htrees entry hentry).2 draft⟩

end Node

end Courier.Yaml
