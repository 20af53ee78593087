import Courier.Proofs.Json.Reading
import Mathlib.Data.List.Forall2
import Mathlib.Data.List.Sort

/-!
# Which values have a shape

A text is read of just the values that are this text, an integer of just the numbers that are this
integer, a map of just the objects in which the last text under each key is that of the map, and a
list of just the lists of its texts (`Shape.ofSource?_eq_some_iff`).
-/

namespace Courier

/-- Maps in which the same is found are equal. -/
theorem TextMap.eq_of_find {m n : TextMap}
    (h : ∀ key, findEntry? key m.entries = findEntry? key n.entries) : m = n := by
  have hsubset : ∀ {m n : TextMap}, (∀ key, findEntry? key m.entries = findEntry? key n.entries) →
      m.entries ⊆ n.entries := by
    intro m n h entry hentry
    have hfound := (find_entries_eq_some_iff m.ascending entry.1 entry.2).2 hentry
    rw [h] at hfound
    exact (find_entries_eq_some_iff n.ascending entry.1 entry.2).1 hfound
  have hasymm : Std.Asymm fun a b : String × String => a.1 < b.1 := ⟨fun _ _ => String.lt_asymm⟩
  exact OrderedMap.ext (List.Subset.antisymm_of_pairwise m.ascending n.ascending (hsubset h)
    (hsubset fun key => (h key).symm))

namespace Json

variable {s : Source}

/-! ## Values of a shape -/

/-- The values under a key of an object. -/
def valuesUnder (key : String) (entries : List (Entry Source)) : List Source :=
  (entries.filter fun entry => entry.key.text = key).map fun entry => entry.item.value

/-- A member with the key comes first among the values under it. -/
theorem valuesUnder_cons_of_eq {key : String} {entry : Entry Source} (h : entry.key.text = key)
    (entries : List (Entry Source)) :
    valuesUnder key (entry :: entries) = entry.item.value :: valuesUnder key entries := by
  simp [valuesUnder, h]

/-- A member with another key is not among the values under a key. -/
theorem valuesUnder_cons_of_ne {key : String} {entry : Entry Source} (h : entry.key.text ≠ key)
    (entries : List (Entry Source)) :
    valuesUnder key (entry :: entries) = valuesUnder key entries := by
  simp [valuesUnder, h]

namespace Source

/-- A value that is some text. -/
def IsText (s : Source) (text : String) : Prop := ∃ t : Spelled, s = .text t ∧ t.text = text

/-- A value that is some integer: written without a fraction and an exponent, and not as minus
zero. -/
def IsInteger (s : Source) (n : Int) : Prop :=
  ∃ l : Literal, s = .number l ∧ l.fraction = none ∧ l.exponent = none ∧
    (l.negative = true → l.whole.value ≠ 0) ∧
      n = if l.negative then -(l.whole.value : Int) else l.whole.value

/-- A value that is some map of texts: an object whose values are texts, where the last value of a
key counts. -/
def IsTextMap (s : Source) (m : TextMap) : Prop :=
  ∃ blank entries, s = .object blank entries ∧
    (∀ entry ∈ entries, ∃ text, entry.item.value.IsText text) ∧
      ∀ key, findEntry? key m.entries = ((valuesUnder key entries).filterMap text?).getLast?

/-- A value that is some list of texts. -/
def IsTextList (s : Source) (texts : List String) : Prop :=
  ∃ blank items, s = .list blank items ∧
    List.Forall₂ (fun item text => item.value.IsText text) items texts

end Source

/-- A value that is some value of a shape. -/
def Shape.IsValue : (shape : Shape) → shape.Holds → Source → Prop
  | .text, t, s => s.IsText t
  | .integer, n, s => s.IsInteger n.toInt
  | .short, n, s => s.IsInteger n.toNat
  | .textMap, m, s => s.IsTextMap m
  | .textList, ts, s => s.IsTextList ts

/-! ## Texts and integers -/

namespace Source

/-- A value is a text just if this text is read of it. -/
theorem text?_eq_some_iff {text : String} : s.text? = some text ↔ s.IsText text := by
  cases s with
  | text t =>
    refine ⟨fun h => ⟨t, rfl, Option.some.inj h⟩, ?_⟩
    rintro ⟨_, ⟨⟩, rfl⟩
    rfl
  | _ => exact iff_of_false (by rintro ⟨⟩) (by rintro ⟨_, ⟨⟩, _⟩)

/-- A value is an integer just if this integer is read of it. -/
theorem integer?_eq_some_iff {n : Int} : s.integer? = some n ↔ s.IsInteger n := by
  cases s with
  | number l =>
    refine (l.integer?_eq_some_iff n).trans ⟨fun h => ⟨l, rfl, h⟩, ?_⟩
    rintro ⟨_, ⟨⟩, h⟩
    exact h
  | _ => exact iff_of_false (by rintro ⟨⟩) (by rintro ⟨_, ⟨⟩, _⟩)

/-- An integer between two bounds is read of just the values that are this integer. -/
theorem filter_integer?_eq_some_iff {low high n : Int} :
    (s.integer?.filter fun n => low ≤ n && n ≤ high) = some n ↔
      s.IsInteger n ∧ low ≤ n ∧ n ≤ high := by
  rw [Option.filter_eq_some_iff, integer?_eq_some_iff, Bool.and_eq_true, decide_eq_true_eq,
    decide_eq_true_eq]

end Source

/-- An integer of sixty-four bits is read of just the values that are this integer. -/
theorem Shape.integer_ofSource?_iff {n : Int64} :
    Shape.integer.ofSource? s = some n ↔ s.IsInteger n.toInt := by
  rw [ofSource?, Option.map_eq_some_iff]
  constructor
  · rintro ⟨z, hz, rfl⟩
    obtain ⟨hz, hlow, hhigh⟩ := Source.filter_integer?_eq_some_iff.1 hz
    rwa [Int64.toInt_ofInt_of_le hlow (Int.lt_of_le_of_lt hhigh (by decide))]
  · intro h
    exact ⟨n.toInt, Source.filter_integer?_eq_some_iff.2 ⟨h, n.minValue_le_toInt, n.toInt_le⟩,
      Int64.ofInt_toInt n⟩

/-- An integer of sixteen bits is read of just the values that are this integer. -/
theorem Shape.short_ofSource?_iff {n : UInt16} :
    Shape.short.ofSource? s = some n ↔ s.IsInteger n.toNat := by
  rw [ofSource?, Option.map_eq_some_iff]
  constructor
  · rintro ⟨z, hz, rfl⟩
    obtain ⟨hz, hlow, hhigh⟩ := Source.filter_integer?_eq_some_iff.1 hz
    have hsize : z.toNat < UInt16.size :=
      (Int.toNat_lt hlow).2 (Int.lt_of_le_of_lt hhigh (by decide))
    rwa [UInt16.toNat_ofNat_of_lt' hsize, Int.toNat_of_nonneg hlow]
  · intro h
    have hhigh : (n.toNat : Int) ≤ 65535 := Int.ofNat_le.2 (Nat.le_of_lt_succ n.toNat_lt)
    exact ⟨n.toNat, Source.filter_integer?_eq_some_iff.2 ⟨h, Int.natCast_nonneg _, hhigh⟩,
      UInt16.ofNat_toNat⟩

/-! ## Maps of texts -/

/-- What is found in a map behind the insertion of members: the last of them with a key counts. -/
theorem foldlM_insertText?_eq_some {entries : List (Entry Source)} {m m' : TextMap}
    (h : entries.foldlM Source.insertText? m = some m') :
    (∀ entry ∈ entries, ∃ text, entry.item.value.IsText text) ∧
      ∀ key, findEntry? key m'.entries =
        (((valuesUnder key entries).filterMap Source.text?).getLast?.or <|
          findEntry? key m.entries) := by
  induction entries generalizing m with
  | nil =>
    cases h
    exact ⟨List.forall_mem_nil _, fun key => rfl⟩
  | cons entry entries ih =>
    rw [List.foldlM_cons] at h
    obtain ⟨inserted, hinsert, hrest⟩ := Option.bind_eq_some_iff.1 h
    obtain ⟨text, htext, rfl⟩ := Option.map_eq_some_iff.1 hinsert
    obtain ⟨htexts, hfind⟩ := ih hrest
    refine ⟨List.forall_mem_cons.2 ⟨⟨text, Source.text?_eq_some_iff.1 htext⟩, htexts⟩, ?_⟩
    intro key
    have hinserted : findEntry? key (m.insert entry.key.text text).entries =
        if entry.key.text = key then some text else findEntry? key m.entries :=
      find_insertEntry _ _ _ _
    rw [hfind, hinserted]
    by_cases hkey : entry.key.text = key
    · rw [valuesUnder_cons_of_eq hkey, if_pos hkey, List.filterMap_cons_some htext,
        List.getLast?_cons, Option.some_or, Option.or_some]
    · rw [valuesUnder_cons_of_ne hkey, if_neg hkey]

/-- Members whose values are texts can be inserted into a map. -/
theorem exists_foldlM_insertText? {entries : List (Entry Source)}
    (h : ∀ entry ∈ entries, ∃ text, entry.item.value.IsText text) (m : TextMap) :
    ∃ m', entries.foldlM Source.insertText? m = some m' := by
  induction entries generalizing m with
  | nil => exact ⟨m, rfl⟩
  | cons entry entries ih =>
    obtain ⟨⟨text, htext⟩, hrest⟩ := List.forall_mem_cons.1 h
    obtain ⟨m', hm'⟩ := ih hrest (m.insert entry.key.text text)
    refine ⟨m', ?_⟩
    rw [List.foldlM_cons, Source.insertText?, Source.text?_eq_some_iff.2 htext]
    exact hm'

/-- A map of texts is read of just the values that are this map. -/
theorem Shape.textMap_ofSource?_iff {m : TextMap} :
    Shape.textMap.ofSource? s = some m ↔ s.IsTextMap m := by
  cases s with
  | object blank entries =>
    constructor
    · intro h
      obtain ⟨htexts, hfind⟩ := foldlM_insertText?_eq_some h
      refine ⟨blank, entries, rfl, htexts, fun key => (hfind key).trans ?_⟩
      exact Option.or_none
    · rintro ⟨_, _, ⟨⟩, htexts, hfind⟩
      obtain ⟨m', hm'⟩ := exists_foldlM_insertText? htexts OrderedMap.empty
      obtain ⟨-, hfind'⟩ := foldlM_insertText?_eq_some hm'
      have hsame : m' = m := TextMap.eq_of_find fun key =>
        ((hfind' key).trans Option.or_none).trans (hfind key).symm
      exact hm'.trans (congrArg some hsame)
  | _ => exact iff_of_false (by rintro ⟨⟩) (by rintro ⟨_, _, ⟨⟩, _⟩)

/-! ## Lists of texts -/

/-- A list of texts is read of just the values that are this list. -/
theorem Source.texts?_eq_some_iff {texts : List String} :
    s.texts? = some texts ↔ s.IsTextList texts := by
  have hitems : ∀ (items : List (Item Source)) (texts : List String),
      (items.mapM fun item => item.value.text?) = some texts ↔
        List.Forall₂ (fun item text => item.value.IsText text) items texts := by
    intro items
    induction items with
    | nil =>
      intro texts
      exact Option.some_inj.trans (eq_comm.trans List.forall₂_nil_left_iff.symm)
    | cons item items ih =>
      intro texts
      rw [List.mapM_cons, List.forall₂_cons_left_iff]
      constructor
      · intro h
        obtain ⟨text, htext, h⟩ := Option.bind_eq_some_iff.1 h
        obtain ⟨rest, hrest, h⟩ := Option.bind_eq_some_iff.1 h
        exact ⟨text, rest, text?_eq_some_iff.1 htext, (ih rest).1 hrest, (Option.some.inj h).symm⟩
      · rintro ⟨text, rest, htext, hrest, rfl⟩
        rw [text?_eq_some_iff.2 htext, (ih rest).2 hrest]
        rfl
  cases s with
  | list blank items =>
    refine (hitems items texts).trans ⟨fun h => ⟨blank, items, rfl, h⟩, ?_⟩
    rintro ⟨_, _, ⟨⟩, h⟩
    exact h
  | _ => exact iff_of_false (by rintro ⟨⟩) (by rintro ⟨_, _, ⟨⟩, _⟩)

/-- A value of a shape is read of just the values that are this one. -/
theorem Shape.ofSource?_eq_some_iff {shape : Shape} {v : shape.Holds} :
    shape.ofSource? s = some v ↔ shape.IsValue v s := by
  cases shape with
  | text => exact Source.text?_eq_some_iff
  | integer => exact integer_ofSource?_iff
  | short => exact short_ofSource?_iff
  | textMap => exact textMap_ofSource?_iff
  | textList => exact Source.texts?_eq_some_iff

end Json

end Courier
