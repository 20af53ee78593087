/-!
# Maps from text

A map is kept as a list of entries in ascending order of their keys, each key once. Keys are
ordered by code points, which is the order of their UTF-8 bytes. The order is part of the type,
so two maps with the same entries are equal.
-/

namespace Courier

/-- Put a value under a key into entries in ascending order, in place of what was there. -/
def insertEntry {α : Type} (key : String) (value : α) : List (String × α) → List (String × α)
  | [] => [(key, value)]
  | (k, v) :: rest =>
    if key < k then (key, value) :: (k, v) :: rest
    else if k < key then (k, v) :: insertEntry key value rest
    else (key, value) :: rest

/-- The value under a key. -/
def findEntry? {α : Type} (key : String) (entries : List (String × α)) : Option α :=
  (entries.find? fun entry => entry.1 = key).map Prod.snd

/-- The keys are ascending, so each occurs once. -/
def Ascending {α : Type} (entries : List (String × α)) : Prop :=
  entries.Pairwise fun a b => a.1 < b.1

/-- What stands in entries after an insertion was there before or is the new entry. -/
theorem mem_insertEntry {α : Type} {key : String} {value : α} {entries : List (String × α)}
    {e : String × α} (h : e ∈ insertEntry key value entries) : e = (key, value) ∨ e ∈ entries := by
  induction entries with
  | nil => simpa [insertEntry] using h
  | cons head rest ih =>
    simp only [insertEntry] at h
    split at h
    · simpa using h
    · split at h
      · rcases List.mem_cons.1 h with rfl | h
        · simp
        · rcases ih h with h | h <;> simp [h]
      · rcases List.mem_cons.1 h with rfl | h <;> simp [*]

/-- Insertion keeps the order. -/
theorem ascending_insertEntry {α : Type} (key : String) (value : α) {entries : List (String × α)}
    (h : Ascending entries) : Ascending (insertEntry key value entries) := by
  induction entries with
  | nil => simp [insertEntry, Ascending]
  | cons head rest ih =>
    obtain ⟨hhead, hrest⟩ := List.pairwise_cons.1 h
    simp only [insertEntry]
    split
    · rename_i hlt
      refine List.pairwise_cons.2 ⟨fun e he => ?_, h⟩
      rcases List.mem_cons.1 he with rfl | he
      · exact hlt
      · exact String.lt_trans hlt (hhead e he)
    · rename_i hge
      split
      · rename_i hlt
        refine List.pairwise_cons.2 ⟨fun e he => ?_, ih hrest⟩
        rcases mem_insertEntry he with rfl | he
        · exact hlt
        · exact hhead e he
      · rename_i hle
        have heq : head.1 = key :=
          String.le_antisymm (String.not_lt.1 hge) (String.not_lt.1 hle)
        refine List.pairwise_cons.2 ⟨fun e he => ?_, hrest⟩
        have := hhead e he
        rwa [heq] at this

/-- What is found in entries after an insertion. -/
theorem find_insertEntry {α : Type} (key other : String) (value : α)
    (entries : List (String × α)) :
    findEntry? other (insertEntry key value entries) =
      if key = other then some value else findEntry? other entries := by
  unfold findEntry?
  induction entries with
  | nil => by_cases h : key = other <;> simp [insertEntry, h]
  | cons entry rest ih =>
    obtain ⟨k, v⟩ := entry
    simp only [insertEntry]
    split
    · by_cases h : key = other <;> simp [h]
    · split
      · rename_i hbehind
        have hne : k ≠ key := String.ne_of_lt hbehind
        by_cases hk : k = other
        · have hother : key ≠ other := fun h => hne (hk.trans h.symm)
          simp [hk, hother]
        · simp [hk, ih]
      · rename_i hfront hbehind
        obtain rfl : k = key :=
          String.le_antisymm (String.not_lt.1 hfront) (String.not_lt.1 hbehind)
        by_cases h : k = other <;> simp [h]

/-- In ascending entries just what stands under a key is found there. -/
theorem find_entries_eq_some_iff {α : Type} {entries : List (String × α)} (h : Ascending entries)
    (key : String) (value : α) : findEntry? key entries = some value ↔ (key, value) ∈ entries := by
  unfold findEntry?
  induction entries with
  | nil => simp
  | cons entry rest ih =>
    obtain ⟨k, v⟩ := entry
    obtain ⟨hfirst, hrest⟩ := List.pairwise_cons.1 h
    by_cases hkey : k = key
    · have hout : (key, value) ∉ rest := fun hin => String.lt_irrefl key (hkey ▸ hfirst _ hin)
      simp [hkey, hout, eq_comm]
    · have hne : ¬key = k := fun heq => hkey heq.symm
      simp [hkey, hne, ih hrest]

/-- Nothing is found under a key under which nothing stands. -/
theorem find_entries_eq_none_iff {α : Type} (entries : List (String × α)) (key : String) :
    findEntry? key entries = none ↔ key ∉ entries.map Prod.fst := by
  unfold findEntry?
  rw [Option.map_eq_none_iff, List.find?_eq_none, List.mem_map, not_exists]
  exact forall_congr' fun entry => by rw [decide_eq_true_eq, not_and]

/-- A map from text. The order of its entries is part of it. -/
structure OrderedMap (α : Type) where
  entries : List (String × α)
  ascending : Ascending entries

namespace OrderedMap

variable {α : Type}

/-- Maps with the same entries are equal. -/
@[ext] theorem ext {m n : OrderedMap α} (h : m.entries = n.entries) : m = n := by
  cases m; cases n; cases h; rfl

instance [DecidableEq α] : DecidableEq (OrderedMap α) := fun m n =>
  if h : m.entries = n.entries then isTrue (ext h)
  else isFalse fun he => h (congrArg entries he)

/-- The map without entries. -/
def empty : OrderedMap α := ⟨[], List.Pairwise.nil⟩

/-- Put a value under a key, in place of what was there. -/
def insert (m : OrderedMap α) (key : String) (value : α) : OrderedMap α :=
  ⟨insertEntry key value m.entries, ascending_insertEntry key value m.ascending⟩

@[simp] theorem entries_empty : (empty : OrderedMap α).entries = [] := rfl

@[simp] theorem entries_insert (m : OrderedMap α) (key : String) (value : α) :
    (m.insert key value).entries = insertEntry key value m.entries := rfl

end OrderedMap

/-- A map from text to text. -/
abbrev TextMap := OrderedMap String

/-- Insert entries from front to back. -/
def TextMap.ofList (entries : List (String × String)) : TextMap :=
  entries.foldl (fun m entry => m.insert entry.1 entry.2) .empty

end Courier
