import Courier.Proofs.Json.Skipping

/-!
# Values are read however they are spelled

What a reader makes of a spelled value is a function of the value (`Shape.ofSource?`): it does not
depend on blanks or escapes. Where this function gives nothing the value is refused, and otherwise
the reader goes on behind it (`Shape.gives_read`).
-/

namespace Courier.Json

/-! ## What a value is read as -/

namespace Source

/-- The text that a value is. -/
def text? : Source → Option String
  | .text t => some t.text
  | _ => none

/-- The integer that a value is. -/
def integer? : Source → Option Int
  | .number n => n.integer?
  | _ => none

/-- The list of texts that a value is. -/
def texts? : Source → Option (List String)
  | .list _ items => items.mapM fun item => item.value.text?
  | _ => none

/-- Put a member whose value is a text into a map. -/
def insertText? (m : TextMap) (entry : Entry Source) : Option TextMap :=
  entry.item.value.text?.map fun text => m.insert entry.key.text text

/-- The map of texts that a value is; of a repeated key the last value counts. -/
def textMap? : Source → Option TextMap
  | .object _ entries => entries.foldlM insertText? OrderedMap.empty
  | _ => none

end Source

/-- The value of a shape that a value is. -/
def Shape.ofSource? : (shape : Shape) → Source → Option shape.Holds
  | .text, s => s.text?
  | .integer, s =>
    (s.integer?.filter fun n =>
      Int64.minValue.toInt ≤ n && n ≤ Int64.maxValue.toInt).map Int64.ofInt
  | .short, s => (s.integer?.filter fun n => 0 ≤ n && n ≤ 65535).map fun n => UInt16.ofNat n.toNat
  | .textMap, s => s.textMap?
  | .textList, s => s.texts?

/-! ## Readers that read just this -/

variable {α β : Type} {rest : Bytes}

/-- Reading a value up to what follows it, or refusing it. -/
inductive Gives (rest : Bytes) : Option α → Read α → Prop
  | nothing (e : Stop) : Gives rest none (.error e)
  | value (a : α) : Gives rest (some a) (.ok (a, rest))

/-- Either there is nothing and reading stops, or there is a value and it is read. -/
theorem Gives.elim {spec : Option α} {read : Read α} (h : Gives rest spec read) :
    (spec = none ∧ ∃ e, read = .error e) ∨ ∃ a, spec = some a ∧ read = .ok (a, rest) := by
  cases h with
  | nothing e => exact .inl ⟨rfl, e, rfl⟩
  | value a => exact .inr ⟨a, rfl, rfl⟩

/-- What is read and then turned into something else. -/
theorem Gives.map {spec : Option α} {read : Read α} (h : Gives rest spec read) (f : α → β) :
    Gives rest (spec.map f) (read.map fun (a, rest) => (f a, rest)) := by
  cases h with
  | nothing e => exact .nothing e
  | value a => exact .value (f a)

/-- What was not expected is refused. -/
theorem gives_refuseFound (expected : String) (s : Bytes) :
    Gives rest (none : Option α) (refuseFound expected s) := by
  unfold refuseFound
  split
  · exact .nothing _
  · exact .nothing _

/-! ## Where values begin -/

/-- What a reader can tell of a value by its first byte. -/
inductive Kind where
  | word
  | number
  | text
  | list
  | object

/-- What a first byte tells. -/
def Kind.ofByte (b : UInt8) : Kind :=
  if startsNumber b then .number
  else if b = 34 then .text
  else if b = 91 then .list
  else if b = 123 then .object
  else .word

/-- What a value is. -/
def Source.kind : Source → Kind
  | .null | .boolean _ => .word
  | .number _ => .number
  | .text _ => .text
  | .list _ _ => .list
  | .object _ _ => .object

/-- The first byte of a value tells what it is. -/
theorem Source.exists_bytes_cons (s : Source) : ∃ b more, s.bytes = b :: more ∧
    isBlankByte b = false ∧ Kind.ofByte b = s.kind := by
  cases s with
  | null => exact ⟨110, nullTail, rfl, rfl, rfl⟩
  | boolean b =>
    cases b with
    | true => exact ⟨116, trueTail, rfl, rfl, rfl⟩
    | false => exact ⟨102, falseTail, rfl, rfl, rfl⟩
  | number n =>
    obtain ⟨b, more, hbytes, hb⟩ := n.exists_bytes_cons
    exact ⟨b, more, hbytes, not_blank_of_startsNumber hb, if_pos hb⟩
  | text t => exact ⟨34, t.tail, rfl, rfl, rfl⟩
  | list blank items => exact ⟨91, _, rfl, rfl, rfl⟩
  | object blank entries => exact ⟨123, _, rfl, rfl, rfl⟩

/-- Where a value begins, no blanks are left to be skipped. -/
theorem Source.skipBlank_bytes (s : Source) (rest : Bytes) :
    skipBlank (s.bytes ++ rest) = s.bytes ++ rest := by
  obtain ⟨b, more, hbytes, hblank, -⟩ := s.exists_bytes_cons
  rw [hbytes, List.cons_append, skipBlank_cons hblank]

/-- Behind blanks, a value of another kind than the one that a byte begins does not begin with this
byte. -/
theorem Source.exists_start_of_kind {s : Source} {c : UInt8} (h : s.kind ≠ Kind.ofByte c)
    (before : Blank) (rest : Bytes) :
    ∃ b more, skipBlank (before.bytes ++ (s.bytes ++ rest)) = b :: more ∧ b ≠ c := by
  obtain ⟨b, more, hbytes, -, hkind⟩ := s.exists_bytes_cons
  refine ⟨b, more ++ rest, ?_, ?_⟩
  · rw [before.skipBlank_append, s.skipBlank_bytes, hbytes, List.cons_append]
  · rintro rfl
    exact h hkind.symm

/-! ## Texts and numbers -/

/-- A text is read just if the value is one. -/
theorem gives_readTextValue (expected : String) (s : Source) (before : Blank) (rest : Bytes) :
    Gives rest s.text? (readTextValue expected (before.bytes ++ (s.bytes ++ rest))) := by
  have hother : s.kind ≠ .text →
      Gives rest none (readTextValue expected (before.bytes ++ (s.bytes ++ rest))) := by
    intro hkind
    obtain ⟨b, more, hstart, hquote⟩ := s.exists_start_of_kind (c := quoteByte) hkind before rest
    rw [readTextValue, hstart]
    simp only [if_neg hquote]
    exact gives_refuseFound _ _
  cases s with
  | text t =>
    rw [readTextValue, before.skipBlank_append, Source.skipBlank_bytes, Source.bytes, Spelled.bytes,
      List.cons_append]
    have hread := t.readText_tail rest
    simp only [hread]
    exact .value t.text
  | _ => exact hother (by rintro ⟨⟩)

/-- An integer between two bounds is read just if the value is one, and between the bounds. -/
theorem gives_readIntegerValue (expected : String) {low high : Int}
    (hlow : Int64.minValue.toInt ≤ low) (hhigh : high ≤ greatestWord) (s : Source) (before : Blank)
    (hrest : EndsNumber rest) :
    Gives rest (s.integer?.filter fun n => low ≤ n && n ≤ high)
      (readIntegerValue expected low high (before.bytes ++ (s.bytes ++ rest))) := by
  have hother : s.kind ≠ .number →
      Gives rest none (readIntegerValue expected low high (before.bytes ++ (s.bytes ++ rest))) := by
    intro hkind
    obtain ⟨b, more, hbytes, hblank, hb⟩ := s.exists_bytes_cons
    have hnumber : startsNumber b ≠ true := by
      intro hnumber
      rw [Kind.ofByte, if_pos hnumber] at hb
      exact hkind hb.symm
    rw [readIntegerValue, before.skipBlank_append, s.skipBlank_bytes, hbytes, List.cons_append]
    simp only [if_neg hnumber]
    exact gives_refuseFound _ _
  cases s with
  | number n =>
    obtain ⟨b, more, hbytes, hb⟩ := n.exists_bytes_cons
    have hexact : ∀ z, n.integer? = some z → low ≤ z → z ≤ high →
        readNumber (b :: (more ++ rest)) = .ok (.integer z, rest) := by
      intro z hz hmin hmax
      rw [← List.cons_append, ← hbytes]
      exact n.readNumber_bytes hrest hz (Int.le_trans hlow hmin) (Int.le_trans hmax hhigh)
    have honly : ∀ z after, readNumber (b :: (more ++ rest)) = .ok (.integer z, after) →
        n.integer? = some z := by
      intro z after hread
      rw [← List.cons_append, ← hbytes] at hread
      exact n.integer?_of_readNumber hrest hread
    rw [readIntegerValue, before.skipBlank_append, Source.skipBlank_bytes, Source.bytes, hbytes,
      List.cons_append, Source.integer?]
    simp only [hb, if_true]
    generalize readNumber (b :: (more ++ rest)) = outcome at hexact honly
    have hrefused : (∀ z, outcome ≠ .ok (.integer z, rest)) →
        n.integer?.filter (fun z => low ≤ z && z ≤ high) = none := by
      intro hno
      refine Option.filter_eq_none_iff.2 fun z hz hrange => ?_
      simp only [Bool.and_eq_true, decide_eq_true_eq] at hrange
      exact hno z (hexact z hz hrange.1 hrange.2)
    cases outcome with
    | error e =>
      rw [hrefused (by rintro _ ⟨⟩)]
      exact .nothing e
    | ok result =>
      obtain ⟨number, after⟩ := result
      cases number with
      | float x =>
        rw [hrefused (by rintro _ ⟨⟩)]
        exact .nothing _
      | integer z =>
        have hz := honly z after rfl
        by_cases hrange : low ≤ z ∧ z ≤ high
        · cases hexact z hz hrange.1 hrange.2
          rw [hz]
          simp only [hrange, and_self, if_true, Option.filter_some, decide_true, Bool.and_self]
          exact .value z
        · rw [hz]
          have hfilter : (decide (low ≤ z) && decide (z ≤ high)) = false := by
            simpa [Bool.and_eq_false_iff] using fun h => Int.not_le.1 fun h' => hrange ⟨h, h'⟩
          simp only [if_neg hrange, Option.filter_some, hfilter, Bool.false_eq_true, if_false]
          exact .nothing _
  | _ => exact hother (by rintro ⟨⟩)

/-! ## Lists and objects -/

/-- Some parts, the first ones or those that follow others, and the closing bracket. -/
def partsFrom (first : Bool) (close : UInt8) (parts : List Bytes) : Bytes :=
  if first then enclosed close parts else behind close parts

/-- Where no parts are left there is only the bracket. -/
theorem partsFrom_nil (first : Bool) (close : UInt8) : partsFrom first close [] = [close] := by
  cases first with
  | true => rfl
  | false => rfl

/-- A part comes first, or behind a comma, and the others follow it. -/
theorem partsFrom_cons (first : Bool) (close : UInt8) (part : Bytes) (parts : List Bytes) :
    partsFrom first close (part :: parts) =
      (if first then part else 44 :: part) ++ behind close parts := by
  cases first with
  | true => rfl
  | false => rfl

/-- There are no more parts than bytes. -/
theorem length_lt_partsFrom (close : UInt8) (f : α → Bytes) (items : List α) (blank : Blank)
    (rest : Bytes) :
    items.length < (blank.bytes ++ (partsFrom true close (items.map f) ++ rest)).length + 1 := by
  have hlength : (items.map f).length ≤ (partsFrom true close (items.map f)).length :=
    length_le_enclosed close (items.map f)
  rw [List.length_map] at hlength
  simp only [List.length_append]
  omega

/-- Where an item begins it is found, behind blanks and a comma. -/
theorem nextItem?_item (first : Bool) (blank : Blank) (item : Item Source) (rest : Bytes) :
    nextItem? first (blank.bytes ++ ((if first then item.bytes else 44 :: item.bytes) ++ rest)) =
      .ok (some (item.value.bytes ++ (item.after.bytes ++ rest))) := by
  have hbegins := item.value.begins
  have hstart : skipBlank (item.bytes ++ rest) =
      item.value.bytes ++ (item.after.bytes ++ rest) := by
    rw [Item.bytes, List.append_assoc, List.append_assoc, item.before.skipBlank_append,
      item.value.skipBlank_bytes]
  cases hbytes : item.value.bytes with
  | nil =>
    rw [hbytes] at hbegins
    exact hbegins.elim
  | cons b more =>
    rw [hbytes] at hbegins hstart
    cases first with
    | true =>
      rw [nextItem?, blank.skipBlank_append, if_pos rfl, hstart]
      simp only [List.cons_append, if_neg hbegins.2, if_true]
    | false =>
      rw [nextItem?, blank.skipBlank_append, if_neg Bool.false_ne_true, List.cons_append,
        skipBlank_cons (by decide)]
      simp only [hstart, List.cons_append, if_neg hbegins.2, Bool.false_eq_true, if_false, if_true]
      rfl

/-- Where a list ends, no item is found, and its end is passed. -/
theorem nextItem?_end (first : Bool) (blank : Blank) (rest : Bytes) :
    nextItem? first (blank.bytes ++ 93 :: rest) = .ok none ∧
      pastListEnd (blank.bytes ++ 93 :: rest) = rest := by
  have hstart : skipBlank (blank.bytes ++ 93 :: rest) = 93 :: rest := by
    rw [blank.skipBlank_append, skipBlank_cons (by decide)]
  rw [nextItem?, pastListEnd, hstart]
  exact ⟨rfl, rfl⟩

section Items

variable {item : Bytes → Read α} {spec : Source → Option α}

/-- Items are read up to the end of their list, if each of them is. -/
theorem gives_readItems
    (hitem : ∀ s rest, EndsNumber rest → Gives rest (spec s) (item (s.bytes ++ rest)))
    {items : List (Item Source)} {fuel : Nat} (hfuel : items.length < fuel) (first : Bool)
    (blank : Blank) (rest : Bytes) :
    Gives rest (items.mapM fun i => spec i.value)
      (readItems item first fuel
        (blank.bytes ++ (partsFrom first 93 (items.map Item.bytes) ++ rest))) := by
  induction items generalizing fuel first blank with
  | nil =>
    obtain ⟨fuel, rfl⟩ := Nat.exists_eq_add_one_of_ne_zero (Nat.ne_of_gt hfuel)
    obtain ⟨hend, hpast⟩ := nextItem?_end first blank rest
    rw [List.map_nil, partsFrom_nil, List.singleton_append]
    simp only [readItems, hend, hpast]
    exact .value []
  | cons i items ih =>
    obtain ⟨fuel, rfl⟩ := Nat.exists_eq_add_one_of_ne_zero (Nat.ne_of_gt (Nat.zero_lt_of_lt hfuel))
    have hnext := nextItem?_item first blank i (behind 93 (items.map Item.bytes) ++ rest)
    have hends := i.after.ends_number_behind (.inl rfl) (items.map Item.bytes) rest
    rw [List.map_cons, partsFrom_cons, List.append_assoc, List.mapM_cons]
    simp only [readItems, hnext]
    rcases (hitem i.value _ hends).elim with ⟨hs, e, hread⟩ | ⟨a, hs, hread⟩
    · simp only [hs, hread]
      exact .nothing e
    · simp only [hs, hread]
      have hmore : Gives rest (items.mapM fun i => spec i.value) (readItems item false fuel
          (i.after.bytes ++ (behind 93 (items.map Item.bytes) ++ rest))) :=
        ih (Nat.lt_of_succ_lt_succ hfuel) false i.after
      rcases hmore.elim with ⟨hs, e, hmore⟩ | ⟨as, hs, hmore⟩
      · simp only [hs, hmore]
        exact .nothing e
      · simp only [hs, hmore]
        exact .value (a :: as)

end Items

/-- Where a member begins its key is found, behind blanks and a comma. -/
theorem nextMember?_entry (first : Bool) (blank : Blank) (entry : Entry Source) (rest : Bytes) :
    nextMember? first
        (blank.bytes ++ ((if first then entry.bytes else 44 :: entry.bytes) ++ rest)) =
      .ok (some (entry.key.tail ++ (entry.gap.bytes ++ 58 :: (entry.item.bytes ++ rest)))) := by
  have hstart : skipBlank (entry.bytes ++ rest) =
      34 :: (entry.key.tail ++ (entry.gap.bytes ++ 58 :: (entry.item.bytes ++ rest))) := by
    rw [Entry.bytes, List.append_assoc, entry.before.skipBlank_append, Spelled.bytes,
      List.cons_append, List.cons_append, skipBlank_cons (by decide)]
    simp only [List.append_assoc, List.cons_append]
  cases first with
  | true =>
    rw [nextMember?, blank.skipBlank_append, if_pos rfl, hstart]
    rfl
  | false =>
    rw [nextMember?, blank.skipBlank_append, if_neg Bool.false_ne_true, List.cons_append,
      skipBlank_cons (by decide)]
    simp only [hstart, Bool.false_eq_true, if_false]
    rfl

/-- Where an object ends, no member is found, and its end is passed. -/
theorem nextMember?_end (first : Bool) (blank : Blank) (rest : Bytes) :
    nextMember? first (blank.bytes ++ 125 :: rest) = .ok none ∧
      pastObjectEnd (blank.bytes ++ 125 :: rest) = rest := by
  have hstart : skipBlank (blank.bytes ++ 125 :: rest) = 125 :: rest := by
    rw [blank.skipBlank_append, skipBlank_cons (by decide)]
  rw [nextMember?, pastObjectEnd, hstart]
  exact ⟨rfl, rfl⟩

section Entries

variable {member : String → α → Bytes → Read α} {step : α → Entry Source → Option α}

/-- A reader of members that reads each of them as a function says. -/
def ReadsEntries (member : String → α → Bytes → Read α) (step : α → Entry Source → Option α) :
    Prop :=
  ∀ (a : α) (entry : Entry Source) (rest : Bytes), EndsNumber rest →
    Gives rest (step a entry) (member entry.key.text a (entry.gap.bytes ++
      58 :: (entry.item.before.bytes ++ (entry.item.value.bytes ++ rest))))

/-- Members are read up to the end of their object, if each of them is. -/
theorem gives_readMembers (hmember : ReadsEntries member step) {entries : List (Entry Source)}
    {fuel : Nat} (hfuel : entries.length < fuel) (first : Bool) (a : α) (blank : Blank)
    (rest : Bytes) :
    Gives rest (entries.foldlM step a)
      (readMembers member first a fuel
        (blank.bytes ++ (partsFrom first 125 (entries.map Entry.bytes) ++ rest))) := by
  induction entries generalizing a fuel first blank with
  | nil =>
    obtain ⟨fuel, rfl⟩ := Nat.exists_eq_add_one_of_ne_zero (Nat.ne_of_gt hfuel)
    obtain ⟨hend, hpast⟩ := nextMember?_end first blank rest
    rw [List.map_nil, partsFrom_nil, List.singleton_append]
    simp only [readMembers, hend, hpast]
    exact .value a
  | cons entry entries ih =>
    obtain ⟨fuel, rfl⟩ := Nat.exists_eq_add_one_of_ne_zero (Nat.ne_of_gt (Nat.zero_lt_of_lt hfuel))
    have hnext := nextMember?_entry first blank entry (behind 125 (entries.map Entry.bytes) ++ rest)
    have hends := entry.item.after.ends_number_behind (.inr rfl) (entries.map Entry.bytes) rest
    rw [List.map_cons, partsFrom_cons, List.append_assoc, List.foldlM_cons]
    simp only [readMembers, hnext, Spelled.readText_tail, Item.bytes, List.append_assoc]
    rcases (hmember a entry _ hends).elim with ⟨hs, e, hread⟩ | ⟨b, hs, hread⟩
    · simp only [hs, hread]
      exact .nothing e
    · simp only [hs, hread]
      exact ih (Nat.lt_of_succ_lt_succ hfuel) false b entry.item.after

end Entries

/-- The colon behind a key is read. -/
theorem readColon_append (gap : Blank) (rest : Bytes) :
    readColon (gap.bytes ++ 58 :: rest) = .ok rest := by
  rw [readColon, gap.skipBlank_append, skipBlank_cons (by decide)]
  rfl

/-! ## Shapes -/

/-- A list of texts is read just if the value is one. -/
theorem gives_readTextList (expected : String) (s : Source) (before : Blank) (rest : Bytes) :
    Gives rest s.texts? (readTextList expected (before.bytes ++ (s.bytes ++ rest))) := by
  have hother : s.kind ≠ .list →
      Gives rest none (readTextList expected (before.bytes ++ (s.bytes ++ rest))) := by
    intro hkind
    obtain ⟨b, more, hstart, hbracket⟩ := s.exists_start_of_kind (c := 91) hkind before rest
    rw [readTextList, hstart]
    simp only [if_neg hbracket]
    exact gives_refuseFound _ _
  cases s with
  | list blank items =>
    have hitems := gives_readItems
      (fun s rest _ => gives_readTextValue Shape.text.describe s .empty rest)
      (length_lt_partsFrom 93 Item.bytes items blank rest) true blank rest
    rw [readTextList, before.skipBlank_append, Source.skipBlank_bytes, Source.bytes,
      Source.itemParts_eq, List.cons_append]
    simp only [if_true, List.append_assoc]
    exact hitems
  | _ => exact hother (by rintro ⟨⟩)

/-- The value of a member is read and put into a map, just if it is a text. -/
theorem readsEntries_insertText? : ReadsEntries (readMemberValue (readTextValue Shape.text.describe)
    fun key v (m : TextMap) => m.insert key v) Source.insertText? := by
  intro m entry rest _
  rw [readMemberValue, readColon_append]
  have hvalue := gives_readTextValue Shape.text.describe entry.item.value entry.item.before rest
  rcases hvalue.elim with ⟨hs, e, hread⟩ | ⟨a, hs, hread⟩
  · simp only [Source.insertText?, hs, hread]
    exact .nothing e
  · simp only [Source.insertText?, hs, hread]
    exact .value _

/-- A map of texts is read just if the value is one. -/
theorem gives_readTextMap (expected : String) (s : Source) (before : Blank) (rest : Bytes) :
    Gives rest s.textMap? (readTextMap expected (before.bytes ++ (s.bytes ++ rest))) := by
  have hother : s.kind ≠ .object →
      Gives rest none (readTextMap expected (before.bytes ++ (s.bytes ++ rest))) := by
    intro hkind
    obtain ⟨b, more, hstart, hbracket⟩ := s.exists_start_of_kind (c := 123) hkind before rest
    rw [readTextMap, hstart]
    simp only [if_neg hbracket]
    exact gives_refuseFound _ _
  cases s with
  | object blank entries =>
    have hentries := gives_readMembers readsEntries_insertText?
      (length_lt_partsFrom 125 Entry.bytes entries blank rest) true OrderedMap.empty blank rest
    rw [readTextMap, before.skipBlank_append, Source.skipBlank_bytes, Source.bytes,
      Source.entryParts_eq, List.cons_append]
    simp only [if_true, List.append_assoc]
    exact hentries
  | _ => exact hother (by rintro ⟨⟩)

/-- A value of a shape is read just if the value is one. -/
theorem Shape.gives_read (shape : Shape) (s : Source) (before : Blank) (hrest : EndsNumber rest) :
    Gives rest (shape.ofSource? s) (shape.read (before.bytes ++ (s.bytes ++ rest))) := by
  cases shape with
  | text => exact gives_readTextValue Shape.text.describe s before rest
  | integer =>
    exact (gives_readIntegerValue _ (Int.le_refl _) (by decide) s before hrest).map Int64.ofInt
  | short =>
    exact (gives_readIntegerValue _ (by decide) (by decide) s before hrest).map
      fun n => UInt16.ofNat n.toNat
  | textMap => exact gives_readTextMap Shape.textMap.describe s before rest
  | textList => exact gives_readTextList Shape.textList.describe s before rest

end Courier.Json
