import Courier.Proofs.Json.Reading

/-!
# Records are assembled from spelled values

The values of a record are found in an object by the keys of its members, in any order and among any
others, or in a list by their positions. As with single values, what is read is a function of the
spelled value (`Layout.ofSource?`), and a text whose value is no record is refused
(`Layout.readWhole_bytes`).
-/

namespace Courier.Json

/-! ## What a value is read as -/

/-- Put the value of a member into the slot of its field. Other members leave the slots as they
are. -/
def putEntry : (fs : List Field) → Slots fs → Entry Source → Option (Slots fs)
  | [], _, _ => some ()
  | f :: fs, (slot, slots), entry =>
    if f.name = entry.key.text then
      if slot.isSome then none
      else (f.shape.ofSource? entry.item.value).map fun v => (some v, slots)
    else (putEntry fs slots entry).map fun slots => (slot, slots)

/-- The values of the fields that the values in a list are, where the end may be left out. -/
def ofItems? : (fs : List Field) → List Source → Option (Values fs)
  | [], [] => some ()
  | [], _ :: _ => none
  | f :: fs, [] => do return (← f.fallback, ← ofItems? fs [])
  | f :: fs, s :: rest => do return (← f.shape.ofSource? s, ← ofItems? fs rest)

/-- The values of the fields that the members of an object are. -/
def ofEntries? (fs : List Field) (entries : List (Entry Source)) : Option (Values fs) := do
  (fillSlots fs (← entries.foldlM (putEntry fs) (Slots.empty fs))).toOption

/-- The values of the fields that a value is. -/
def Layout.ofSource? (layout : Layout) : Source → Option (Values layout.fields)
  | .object _ entries => ofEntries? layout.fields entries
  | .list _ items => ofItems? layout.fields (items.map Item.value)
  | _ => none

variable {α : Type} {rest : Bytes}

/-! ## Objects -/

/-- A member is read into the slot of its field, or passed over. -/
theorem readsEntries_readMember (fs : List Field) :
    ReadsEntries (readMember fs) (putEntry fs) := by
  intro slots entry rest hrest
  induction fs with
  | nil =>
    have hskip := entry.item.value.skipValue_bytes entry.item.before hrest
    simp only [readMember, readColon_append, hskip, bind, Except.bind, pure, Except.pure]
    exact .value ()
  | cons f fs ih =>
    obtain ⟨slot, slots⟩ := slots
    simp only [readMember, putEntry]
    split
    · split
      · exact .nothing _
      · simp only [readColon_append, bind, Except.bind]
        rcases (f.shape.gives_read entry.item.value entry.item.before hrest).elim with
          ⟨hs, e, hread⟩ | ⟨v, hs, hread⟩
        · simp only [hs, hread]
          exact .nothing e
        · simp only [hs, hread]
          exact .value (some v, slots)
    · simp only [bind, Except.bind]
      rcases (ih slots).elim with ⟨hs, e, hread⟩ | ⟨slots, hs, hread⟩
      · simp only [hs, hread]
        exact .nothing e
      · simp only [hs, hread]
        exact .value (slot, slots)

/-! ## Lists -/

/-- A list of which no more is wanted ends nowhere but at its bracket. -/
theorem readListEnd_error {s more : Bytes} {b : UInt8} (hstart : skipBlank s = b :: more)
    (hb : b ≠ 93) : ∃ e : Stop, readListEnd s = .error e := by
  rw [readListEnd, hstart]
  simp only [if_neg hb]
  split
  · split
    · exact ⟨_, rfl⟩
    · exact ⟨_, rfl⟩
  · exact ⟨_, rfl⟩

/-- A list of which no more is wanted ends where no items are left, and not before. -/
theorem readListEnd_partsFrom (first : Bool) (blank : Blank) (rest : Bytes) :
    readListEnd (blank.bytes ++ 93 :: rest) = .ok rest ∧
      ∀ (i : Item Source) (items : List (Item Source)), ∃ e : Stop,
        readListEnd (blank.bytes ++
          (partsFrom first 93 ((i :: items).map Item.bytes) ++ rest)) = .error e := by
  constructor
  · rw [readListEnd, blank.skipBlank_append, skipBlank_cons (by decide)]
    rfl
  · intro i items
    rw [List.map_cons, partsFrom_cons]
    cases first with
    | true =>
      have hbegins := i.value.begins
      obtain ⟨b, more, hbytes, hblank, -⟩ := i.value.exists_bytes_cons
      rw [hbytes] at hbegins
      have hstart : skipBlank (blank.bytes ++
          (i.bytes ++ behind 93 (items.map Item.bytes) ++ rest)) =
          b :: (more ++ (i.after.bytes ++ (behind 93 (items.map Item.bytes) ++ rest))) := by
        rw [blank.skipBlank_append, Item.bytes, List.append_assoc, List.append_assoc,
          i.before.skipBlank_append, hbytes, List.append_assoc, List.cons_append,
          skipBlank_cons hblank]
      exact readListEnd_error hstart hbegins.2
    | false =>
      have hstart : skipBlank (blank.bytes ++
          (44 :: i.bytes ++ behind 93 (items.map Item.bytes) ++ rest)) =
          44 :: (i.bytes ++ behind 93 (items.map Item.bytes) ++ rest) := by
        rw [blank.skipBlank_append, List.cons_append, List.cons_append, skipBlank_cons (by decide)]
      exact readListEnd_error hstart (by decide)

/-- Read the end of a list behind what is read of its items. -/
def toListEnd {γ : Type} (read : Read γ) : Read γ :=
  read.bind fun p => (readListEnd p.2).map fun rest => (p.1, rest)

/-- A value in front of others is read with them. -/
theorem gives_toListEnd_cons {γ : Type} {spec : Option γ} {read : Read γ} {v : α}
    (h : Gives rest spec (toListEnd read)) :
    Gives rest (do let vs ← spec; return (v, vs))
      (toListEnd (do let (vs, s) ← read; return ((v, vs), s) : Except Stop ((α × γ) × Bytes))) := by
  cases read with
  | error e =>
    cases h with
    | nothing => exact .nothing e
  | ok p =>
    change Gives rest spec ((readListEnd p.2).map fun rest => (p.1, rest)) at h
    change Gives rest _ ((readListEnd p.2).map fun rest => ((v, p.1), rest))
    cases hend : readListEnd p.2 with
    | error e =>
      rw [hend] at h
      cases h with
      | nothing => exact .nothing e
    | ok after =>
      rw [hend] at h
      cases h with
      | value => exact .value (v, p.1)

/-- The values of fields are read from a list up to its end, just if its items are these values. -/
theorem gives_readPositions (expected : String) (fs : List Field) (index : Nat)
    (items : List (Item Source)) (blank : Blank) (rest : Bytes) :
    Gives rest (ofItems? fs (items.map Item.value)) (toListEnd (readPositions expected fs index
      (blank.bytes ++ (partsFrom (index = 0) 93 (items.map Item.bytes) ++ rest)))) := by
  induction fs generalizing index items blank with
  | nil =>
    obtain ⟨hend, hmore⟩ := readListEnd_partsFrom (index = 0) blank rest
    cases items with
    | nil =>
      rw [List.map_nil, List.map_nil, partsFrom_nil, List.singleton_append]
      simp only [readPositions, toListEnd, Except.bind, hend, Except.map]
      exact .value ()
    | cons i items =>
      obtain ⟨e, he⟩ := hmore i items
      simp only [readPositions, toListEnd, Except.bind, he, Except.map]
      exact .nothing e
  | cons f fs ih =>
    cases items with
    | nil =>
      obtain ⟨hend, -⟩ := nextItem?_end (index = 0) blank rest
      have hnext := ih (index + 1) [] blank
      rw [List.map_nil, List.map_nil, partsFrom_nil, List.singleton_append] at hnext ⊢
      cases hfallback : f.fallback with
      | none =>
        simp only [readPositions, hend, hfallback, ofItems?]
        exact .nothing _
      | some v =>
        simp only [readPositions, hend, hfallback, ofItems?]
        exact gives_toListEnd_cons hnext
    | cons i items =>
      have hnext := nextItem?_item (index = 0) blank i (behind 93 (items.map Item.bytes) ++ rest)
      have hends := i.after.ends_number_behind (.inl rfl) (items.map Item.bytes) rest
      have hrest := ih (index + 1) items i.after
      rw [decide_eq_false (Nat.succ_ne_zero index)] at hrest
      rw [List.map_cons, List.map_cons, partsFrom_cons, List.append_assoc]
      simp only [readPositions, hnext, ofItems?]
      have hvalue := f.shape.gives_read i.value .empty hends
      rcases hvalue.elim with ⟨hs, e, hread⟩ | ⟨v, hs, hread⟩
      · change f.shape.read (i.value.bytes ++ _) = _ at hread
        simp only [hs, hread]
        exact .nothing e
      · change f.shape.read (i.value.bytes ++ _) = _ at hread
        simp only [hs, hread]
        exact gives_toListEnd_cons hrest

/-! ## Whole records -/

/-- A record is read just if the value is one. -/
theorem Layout.gives_readValues (layout : Layout) (s : Source) (before : Blank) (rest : Bytes) :
    Gives rest (layout.ofSource? s) (layout.readValues (before.bytes ++ (s.bytes ++ rest))) := by
  have hother : s.kind ≠ .list → s.kind ≠ .object →
      Gives rest none (layout.readValues (before.bytes ++ (s.bytes ++ rest))) := by
    intro hlist hobject
    obtain ⟨b, more, hbytes, hblank, hb⟩ := s.exists_bytes_cons
    have hbracket : b ≠ 91 ∧ b ≠ 123 := by
      constructor
      · rintro rfl
        exact hlist hb.symm
      · rintro rfl
        exact hobject hb.symm
    rw [readValues, before.skipBlank_append, s.skipBlank_bytes, hbytes, List.cons_append]
    simp only [if_neg hbracket.1, if_neg hbracket.2]
    exact gives_refuseFound _ _
  cases s with
  | list blank items =>
    rw [readValues, before.skipBlank_append, Source.skipBlank_bytes, Source.bytes,
      Source.itemParts_eq, List.cons_append]
    have hpositions := gives_readPositions layout.describeList layout.fields 0 items blank rest
    have hobject : (91 : UInt8) ≠ 123 := by decide
    simp only [if_neg hobject, if_true, List.append_assoc, ofSource?]
    change Gives rest _ (toListEnd (readPositions layout.describeList layout.fields 0
      (blank.bytes ++ (enclosed 93 (items.map Item.bytes) ++ rest)))) at hpositions
    generalize readPositions layout.describeList layout.fields 0
      (blank.bytes ++ (enclosed 93 (items.map Item.bytes) ++ rest)) = positions at hpositions ⊢
    generalize ofItems? layout.fields (items.map Item.value) = spec at hpositions ⊢
    cases positions with
    | error e =>
      cases hpositions with
      | nothing => exact .nothing e
    | ok p =>
      change Gives rest spec ((readListEnd p.2).map fun rest => (p.1, rest)) at hpositions
      simp only
      generalize readListEnd p.2 = ending at hpositions ⊢
      cases ending with
      | error e =>
        cases hpositions with
        | nothing => exact .nothing e
      | ok after =>
        cases hpositions with
        | value => exact .value p.1
  | object blank entries =>
    rw [readValues, before.skipBlank_append, Source.skipBlank_bytes, Source.bytes,
      Source.entryParts_eq, List.cons_append]
    have hentries := gives_readMembers (readsEntries_readMember layout.fields)
      (length_lt_partsFrom 125 Entry.bytes entries blank rest) true (Slots.empty layout.fields)
      blank rest
    simp only [partsFrom, if_true] at hentries
    simp only [if_true, List.append_assoc, ofSource?, ofEntries?]
    rcases hentries.elim with ⟨hs, e, hread⟩ | ⟨slots, hs, hread⟩
    · simp only [hs, hread]
      exact .nothing e
    · simp only [hs, hread]
      change Gives rest (fillSlots layout.fields slots).toOption _
      cases fillSlots layout.fields slots with
      | error what => exact .nothing _
      | ok vs => exact .value vs
  | _ => exact hother (by rintro ⟨⟩) (by rintro ⟨⟩)

/-- A text that holds a value is read as the record that the value is, however it is spelled, and
refused if it is none. -/
theorem Layout.readWhole_bytes (layout : Layout) (s : Source) (before after : Blank) :
    (readWhole layout.readValues (before.bytes ++ (s.bytes ++ after.bytes))).toOption =
      layout.ofSource? s := by
  have hend : readTextEnd after.bytes = .ok () := by
    have hblank := after.skipBlank_append []
    rw [List.append_nil] at hblank
    rw [readTextEnd, hblank]
    rfl
  rcases (layout.gives_readValues s before after.bytes).elim with ⟨hs, e, hread⟩ | ⟨vs, hs, hread⟩
  · rw [readWhole, hs, hread]
    rfl
  · rw [readWhole, hs, hread]
    simp only [hend]
    rfl

end Courier.Json
