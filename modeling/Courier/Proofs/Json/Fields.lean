import Courier.Proofs.Json.Assembly
import Courier.Proofs.Json.Shape

/-!
# What an object gives the fields of a record

The members of an object may stand in any order. An object is a record just if each field is given
exactly once, as a value of its shape, or is not given at all and has a value to fall back on
(`ofEntries?_eq_some_iff`). Members with other names do not matter, however often they are given.
-/

namespace Courier.Json

/-- There is one value, and it is as it should be, or there is none, and it may be left out. -/
def OneOrNone (given : Source → Prop) (leftOut : Prop) (values : List Source) : Prop :=
  (∃ s, values = [s] ∧ given s) ∨ (values = [] ∧ leftOut)

/-- An object gives a field a value: there is one member for it, or none and a value to fall back
on. -/
def Field.GivenAs (f : Field) (v : f.shape.Holds) (entries : List (Entry Source)) : Prop :=
  OneOrNone (f.shape.IsValue v) (f.fallback = some v) (valuesUnder f.name entries)

/-- An object gives all fields their values. -/
def AllGiven : (fs : List Field) → Values fs → List (Entry Source) → Prop
  | [], _, _ => True
  | f :: fs, (v, vs), entries => f.GivenAs v entries ∧ AllGiven fs vs entries

/-! ## One field -/

/-- Put the value of a member into the slot of one field. -/
def putSlot (f : Field) (slot : Option f.shape.Holds) (entry : Entry Source) :
    Option (Option f.shape.Holds) :=
  if f.name = entry.key.text then
    if slot.isSome then none else (f.shape.ofSource? entry.item.value).map some
  else some slot

variable {f : Field} {entries : List (Entry Source)}

/-- A slot that is filled is kept just if no member is for its field. -/
theorem foldlM_putSlot_some {v : f.shape.Holds} {slot : Option f.shape.Holds} :
    entries.foldlM (putSlot f) (some v) = some slot ↔
      valuesUnder f.name entries = [] ∧ slot = some v := by
  induction entries with
  | nil => simp [valuesUnder, eq_comm]
  | cons entry entries ih =>
    by_cases hkey : f.name = entry.key.text
    · rw [valuesUnder_cons_of_eq hkey.symm]
      simp [putSlot, hkey]
    · rw [valuesUnder_cons_of_ne fun h => hkey h.symm, ← ih]
      simp [putSlot, hkey]

/-- A slot is filled just if one member is for its field, and stays empty just if none is. -/
theorem foldlM_putSlot_none {slot : Option f.shape.Holds} :
    entries.foldlM (putSlot f) none = some slot ↔
      (∃ s v, valuesUnder f.name entries = [s] ∧ f.shape.ofSource? s = some v ∧ slot = some v) ∨
        (valuesUnder f.name entries = [] ∧ slot = none) := by
  induction entries with
  | nil => simp [valuesUnder, eq_comm]
  | cons entry entries ih =>
    by_cases hkey : f.name = entry.key.text
    · rw [valuesUnder_cons_of_eq hkey.symm, List.foldlM_cons]
      cases hv : f.shape.ofSource? entry.item.value with
      | none =>
        have hput : putSlot f none entry = none := by simp [putSlot, hkey, hv]
        rw [hput]
        simp [hv]
      | some v =>
        have hput : putSlot f none entry = some (some v) := by simp [putSlot, hkey, hv]
        rw [hput]
        change entries.foldlM (putSlot f) (some v) = some slot ↔ _
        rw [foldlM_putSlot_some]
        constructor
        · rintro ⟨hunder, rfl⟩
          exact .inl ⟨_, v, by rw [hunder], hv, rfl⟩
        · rintro (⟨s, v', hunder, hv', rfl⟩ | ⟨hunder, -⟩)
          · obtain ⟨rfl, hnone⟩ := List.cons.inj hunder
            exact ⟨hnone, hv'.symm.trans hv⟩
          · exact absurd hunder (List.cons_ne_nil _ _)
    · rw [valuesUnder_cons_of_ne fun h => hkey h.symm, ← ih]
      simp [putSlot, hkey]

/-! ## All fields -/

/-- A member for none of the fields leaves the slots as they are. -/
theorem putEntry_of_not_mem {fs : List Field} {entry : Entry Source}
    (h : entry.key.text ∉ fs.map Field.name) (slots : Slots fs) :
    putEntry fs slots entry = some slots := by
  induction fs with
  | nil => rfl
  | cons f fs ih =>
    obtain ⟨slot, slots⟩ := slots
    rw [List.map_cons, List.mem_cons, not_or] at h
    rw [putEntry, if_neg fun heq => h.1 heq.symm, ih h.2]
    rfl

/-- Members fill the slot of the first field and those of the others independently. -/
theorem foldlM_putEntry_cons {fs : List Field} (hname : f.name ∉ fs.map Field.name)
    {slot slot' : Option f.shape.Holds} {slots slots' : Slots fs} :
    entries.foldlM (putEntry (f :: fs)) (slot, slots) = some (slot', slots') ↔
      entries.foldlM (putSlot f) slot = some slot' ∧
        entries.foldlM (putEntry fs) slots = some slots' := by
  induction entries generalizing slot slots with
  | nil => simp
  | cons entry entries ih =>
    rw [List.foldlM_cons, List.foldlM_cons, List.foldlM_cons]
    by_cases hkey : f.name = entry.key.text
    · have hothers : putEntry fs slots entry = some slots :=
        putEntry_of_not_mem (hkey ▸ hname) slots
      have hput : putEntry (f :: fs) (slot, slots) entry =
          (putSlot f slot entry).map fun slot => (slot, slots) := by
        simp only [putEntry, putSlot, if_pos hkey]
        split
        · rfl
        · rw [Option.map_map]
          rfl
      rw [hput, hothers]
      cases putSlot f slot entry with
      | none => simp
      | some slot => exact ih
    · have hput : putEntry (f :: fs) (slot, slots) entry =
          (putEntry fs slots entry).map fun slots => (slot, slots) := by
        simp only [putEntry, if_neg hkey]
      have hslot : putSlot f slot entry = some slot := by simp only [putSlot, if_neg hkey]
      rw [hput, hslot]
      cases putEntry fs slots entry with
      | none => simp
      | some slots => exact ih

/-- The slots give values just if each of them does. -/
theorem fillSlots_cons {fs : List Field} {slot : Option f.shape.Holds} {slots : Slots fs}
    {v : f.shape.Holds} {vs : Values fs} :
    (fillSlots (f :: fs) (slot, slots)).toOption = some (v, vs) ↔
      slot.or f.fallback = some v ∧ (fillSlots fs slots).toOption = some vs := by
  cases hslot : slot.or f.fallback with
  | none => simp [fillSlots, hslot, Except.toOption]
  | some w =>
    cases hfill : fillSlots fs slots with
    | error what => simp [fillSlots, hslot, hfill, bind, Except.bind, Except.toOption]
    | ok ws => simp [fillSlots, hslot, hfill, bind, Except.bind, pure, Except.pure, Except.toOption]

/-- A slot that members fill, or the fallback of its field, holds a value just if the members give
the field this value. -/
theorem exists_slot_iff_givenAs {v : f.shape.Holds} :
    (∃ slot, entries.foldlM (putSlot f) none = some slot ∧ slot.or f.fallback = some v) ↔
      f.GivenAs v entries := by
  constructor
  · rintro ⟨slot, hslot, hv⟩
    rcases foldlM_putSlot_none.1 hslot with ⟨s, w, hunder, hw, rfl⟩ | ⟨hunder, rfl⟩
    · cases hv
      exact .inl ⟨s, hunder, Shape.ofSource?_eq_some_iff.1 hw⟩
    · exact .inr ⟨hunder, hv⟩
  · rintro (⟨s, hunder, hs⟩ | ⟨hunder, hv⟩)
    · have hv := Shape.ofSource?_eq_some_iff.2 hs
      exact ⟨some v, foldlM_putSlot_none.2 (.inl ⟨s, v, hunder, hv, rfl⟩), rfl⟩
    · exact ⟨none, foldlM_putSlot_none.2 (.inr ⟨hunder, rfl⟩), hv⟩

/-- An object is a record just if it gives each field its value. -/
theorem ofEntries?_eq_some_iff {fs : List Field} (hnames : (fs.map Field.name).Nodup)
    {entries : List (Entry Source)} {vs : Values fs} :
    ofEntries? fs entries = some vs ↔ AllGiven fs vs entries := by
  have hslots : ofEntries? fs entries = some vs ↔ ∃ slots,
      entries.foldlM (putEntry fs) (Slots.empty fs) = some slots ∧
        (fillSlots fs slots).toOption = some vs := Option.bind_eq_some_iff
  rw [hslots]
  clear hslots
  induction fs with
  | nil =>
    have hall : entries.foldlM (putEntry []) () = some () := by
      induction entries with
      | nil => rfl
      | cons entry entries ih => exact ih
    exact ⟨fun _ => trivial, fun _ => ⟨(), hall, rfl⟩⟩
  | cons f fs ih =>
    rw [List.map_cons, List.nodup_cons] at hnames
    obtain ⟨v, vs⟩ := vs
    have hrest : (∃ slots, entries.foldlM (putEntry fs) (Slots.empty fs) = some slots ∧
        (fillSlots fs slots).toOption = some vs) ↔ AllGiven fs vs entries := ih hnames.2
    rw [AllGiven, ← exists_slot_iff_givenAs, ← hrest]
    constructor
    · rintro ⟨⟨slot, slots⟩, hfold, hfill⟩
      obtain ⟨hslot, hslots⟩ := (foldlM_putEntry_cons hnames.1).1 hfold
      obtain ⟨hv, hvs⟩ := fillSlots_cons.1 hfill
      exact ⟨⟨slot, hslot, hv⟩, slots, hslots, hvs⟩
    · rintro ⟨⟨slot, hslot, hv⟩, slots, hslots, hvs⟩
      exact ⟨(slot, slots), (foldlM_putEntry_cons hnames.1).2 ⟨hslot, hslots⟩,
        fillSlots_cons.2 ⟨hv, hvs⟩⟩

/-- A field that has to be there is given its value by one member. -/
theorem Field.givenAs_required {name : String} {shape : Shape} {v : shape.Holds} :
    (required name shape).GivenAs v entries ↔
      ∃ s, valuesUnder name entries = [s] ∧ shape.IsValue v s :=
  or_iff_left fun ⟨_, h⟩ => nomatch h

/-- A field that may be left out is given its value by one member, or none if it has the value
that it falls back on. -/
theorem Field.givenAs_withFallback {name : String} {shape : Shape} {v fallback : shape.Holds} :
    (withFallback name shape fallback).GivenAs v entries ↔
      OneOrNone (shape.IsValue v) (v = fallback) (valuesUnder name entries) :=
  or_congr Iff.rfl (and_congr_right fun _ => Option.some_inj.trans eq_comm)

/-! ## Lists -/

/-- A list gives a field and the others their values. -/
theorem ofItems?_cons {f : Field} {fs : List Field} {items : List Source} {v : f.shape.Holds}
    {vs : Values fs} :
    ofItems? (f :: fs) items = some (v, vs) ↔
      (∃ s rest, items = s :: rest ∧ f.shape.IsValue v s ∧ ofItems? fs rest = some vs) ∨
        (items = [] ∧ f.fallback = some v ∧ ofItems? fs [] = some vs) := by
  cases items with
  | nil => simp [ofItems?, Option.bind_eq_some_iff]
  | cons s rest =>
    constructor
    · intro h
      obtain ⟨v', hv, h⟩ := Option.bind_eq_some_iff.1 h
      obtain ⟨vs', hvs, h⟩ := Option.bind_eq_some_iff.1 h
      obtain ⟨rfl, rfl⟩ := Prod.mk.inj (Option.some.inj h)
      exact .inl ⟨s, rest, rfl, Shape.ofSource?_eq_some_iff.1 hv, hvs⟩
    · rintro (⟨_, _, ⟨⟩, hv, hvs⟩ | ⟨⟨⟩, _⟩)
      rw [ofItems?, Shape.ofSource?_eq_some_iff.2 hv, hvs]
      rfl

/-- A list gives a field that has to be there the value of its first item. -/
theorem ofItems?_required {name : String} {shape : Shape} {fs : List Field} {items : List Source}
    {v : shape.Holds} {vs : Values fs} :
    ofItems? (.required name shape :: fs) items = some (v, vs) ↔
      ∃ s rest, items = s :: rest ∧ shape.IsValue v s ∧ ofItems? fs rest = some vs :=
  ofItems?_cons.trans (or_iff_left fun ⟨_, h, _⟩ => nomatch h)

/-- A list gives a field that may be left out the value of its first item, or where it has ended the
value that the field falls back on. -/
theorem ofItems?_withFallback {name : String} {shape : Shape} {fs : List Field}
    {items : List Source} {v fallback : shape.Holds} {vs : Values fs} :
    ofItems? (.withFallback name shape fallback :: fs) items = some (v, vs) ↔
      (∃ s rest, items = s :: rest ∧ shape.IsValue v s ∧ ofItems? fs rest = some vs) ∨
        (items = [] ∧ v = fallback ∧ ofItems? fs [] = some vs) :=
  ofItems?_cons.trans (or_congr Iff.rfl (and_congr_right fun _ =>
    and_congr_left fun _ => Option.some_inj.trans eq_comm))

/-- No more items are there than fields. -/
theorem ofItems?_nil {items : List Source} : ofItems? [] items = some () ↔ items = [] := by
  cases items with
  | nil => simp [ofItems?]
  | cons s rest => simp [ofItems?]

end Courier.Json
