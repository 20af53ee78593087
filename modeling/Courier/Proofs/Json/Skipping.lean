import Courier.Proofs.Json.Literal
import Courier.Proofs.Json.Record
import Courier.Proofs.Json.Spelling

/-!
# Values that nobody wants are passed over

Whatever value stands in a text, with whatever values inside it, its reader comes out behind it
(`Source.skipValue_bytes`). The way through a value needs at most two steps for each of its bytes,
so the fuel suffices at any depth.
-/

namespace Courier.Json

variable {rest : Bytes}

/-! ## Blanks -/

/-- Blanks are skipped. -/
@[simp] theorem Blank.skipBlank_append (blank : Blank) (rest : Bytes) :
    skipBlank (blank.bytes ++ rest) = skipBlank rest :=
  List.dropWhile_append_of_pos blank.blank

/-- A number ends in front of blanks. -/
theorem Blank.ends_number (blank : Blank) (h : EndsNumber rest) :
    EndsNumber (blank.bytes ++ rest) := by
  obtain ⟨bytes, hblank⟩ := blank
  cases bytes with
  | nil => exact h
  | cons b more =>
    have hb := hblank b List.mem_cons_self
    simp only [isBlankByte, Bool.or_eq_true, decide_eq_true_eq] at hb
    rcases hb with ((rfl | rfl) | rfl) | rfl <;> exact ⟨rfl, rfl, fun _ heq => by cases heq⟩

/-- A number ends in front of the blanks behind a part, where other parts or a bracket follow. -/
theorem Blank.ends_number_behind (blank : Blank) {close : UInt8} (hclose : close = 93 ∨ close = 125)
    (parts : List Bytes) (rest : Bytes) :
    EndsNumber (blank.bytes ++ (behind close parts ++ rest)) :=
  blank.ends_number (closes_behind hclose parts rest).ends_number

/-! ## Where values begin -/

/-- A number begins with a digit or with its sign. -/
theorem Literal.exists_bytes_cons (n : Literal) :
    ∃ b more, n.bytes = b :: more ∧ startsNumber b = true := by
  cases hnegative : n.negative with
  | true => exact ⟨45, n.unsignedBytes, by rw [bytes, hnegative, if_pos rfl], rfl⟩
  | false =>
    obtain ⟨b, more, hbytes, hdigit⟩ : ∃ b more, n.whole.bytes = b :: more ∧ isDigit b = true := by
      rcases n.whole_cases with ⟨hbytes, -⟩ | ⟨b, more, hbytes, hdigit, -⟩
      · exact ⟨48, [], hbytes, rfl⟩
      · exact ⟨b, more, hbytes, hdigit⟩
    refine ⟨b, more ++ (n.fractionBytes ++ n.exponentBytes), ?_, ?_⟩
    · rw [bytes, hnegative, if_neg Bool.false_ne_true, unsignedBytes, hbytes, List.cons_append]
    · rw [startsNumber, hdigit, Bool.or_true]

/-- A byte that begins a number is no blank, no bracket, and begins no word. -/
theorem not_special_of_startsNumber {b : UInt8} (h : startsNumber b = true) :
    isBlankByte b = false ∧ b ≠ 93 ∧ b ≠ 91 ∧ b ≠ 123 ∧ b ≠ 110 ∧ b ≠ 116 ∧ b ≠ 102 := by
  have hother : ∀ c : UInt8, startsNumber c = false → b ≠ c := by
    rintro c hc rfl
    exact absurd h (by simp [hc])
  exact ⟨not_blank_of_startsNumber h, hother _ rfl, hother _ rfl, hother _ rfl, hother _ rfl,
    hother _ rfl, hother _ rfl⟩

/-- A value begins with something else than a blank or the end of a list. -/
theorem Source.begins (s : Source) : Begins s.bytes := by
  cases s with
  | null => exact ⟨rfl, by decide⟩
  | boolean b => cases b <;> exact ⟨rfl, by decide⟩
  | number n =>
    obtain ⟨b, more, hbytes, hb⟩ := n.exists_bytes_cons
    obtain ⟨hblank, hend, -⟩ := not_special_of_startsNumber hb
    rw [bytes, hbytes]
    exact ⟨hblank, hend⟩
  | text t => exact ⟨rfl, by decide⟩
  | list blank items => exact ⟨rfl, by decide⟩
  | object blank entries => exact ⟨rfl, by decide⟩

/-! ## Ways past values -/

/-- A value that is passed over in some number of steps, inside any brackets. -/
def PassesIn (steps : Nat) (s : Source) : Prop :=
  ∀ (fuel : Nat) (brackets : List Bracket) (before : Blank) (rest : Bytes), EndsNumber rest →
    skipNested (fuel + steps) .value brackets (before.bytes ++ (s.bytes ++ rest)) =
      skipNested fuel .closed brackets rest

/-- A value that is no list and no object is passed over in one step. -/
theorem passesIn_one {s : Source} {b : UInt8} {more : Bytes} (hbytes : s.bytes = b :: more)
    (hblank : isBlankByte b = false) (hlist : b ≠ 91) (hobject : b ≠ 123)
    (hskip : ∀ rest, EndsNumber rest → skipScalar (b :: (more ++ rest)) = .ok rest) :
    PassesIn 1 s := by
  intro fuel brackets before rest hrest
  have hstart : skipBlank (before.bytes ++ (s.bytes ++ rest)) = b :: (more ++ rest) := by
    rw [before.skipBlank_append, hbytes, List.cons_append, skipBlank_cons hblank]
  rw [skipNested, hstart]
  split
  · rename_i heq
    exact absurd (List.cons.inj heq).1 hlist
  · rename_i heq
    exact absurd (List.cons.inj heq).1 hobject
  · rw [hskip rest hrest]

/-- A word is passed over. -/
theorem readWord_append (letters rest : Bytes) : readWord letters (letters ++ rest) = .ok rest := by
  induction letters with
  | nil => cases rest <;> rfl
  | cons letter letters ih => rw [List.cons_append, readWord, if_pos rfl, ih]

/-- A number is passed over in one step. -/
theorem passesIn_number (n : Literal) : PassesIn 1 (.number n) := by
  obtain ⟨b, more, hbytes, hb⟩ := n.exists_bytes_cons
  obtain ⟨hblank, -, hlist, hobject, hnull, htrue, hfalse⟩ := not_special_of_startsNumber hb
  refine passesIn_one hbytes hblank hlist hobject fun rest hrest => ?_
  have hskip := n.skipNumber_bytes hrest
  rw [hbytes, List.cons_append] at hskip
  rw [skipScalar, if_neg hnull, if_neg htrue, if_neg hfalse, if_pos hb, hskip]

/-- A text is passed over in one step. -/
theorem passesIn_text (t : Spelled) : PassesIn 1 (.text t) :=
  passesIn_one (s := .text t) rfl rfl (by decide) (by decide) fun rest _ => t.skipText_tail rest

/-- A word is passed over in one step. -/
theorem passesIn_word (s : Source) (h : s = .null ∨ ∃ b, s = .boolean b) : PassesIn 1 s := by
  rcases h with rfl | ⟨b, rfl⟩
  · exact passesIn_one (s := .null) rfl rfl (by decide) (by decide) fun rest _ =>
      readWord_append nullTail rest
  · cases b with
    | true =>
      exact passesIn_one (s := .boolean true) rfl rfl (by decide) (by decide) fun rest _ =>
        readWord_append trueTail rest
    | false =>
      exact passesIn_one (s := .boolean false) rfl rfl (by decide) (by decide) fun rest _ =>
        readWord_append falseTail rest

/-! ### Lists and objects -/

/-- A closing bracket is no blank and no comma. -/
theorem Bracket.closing_cases (inner : Bracket) :
    isBlankByte inner.closing = false ∧ 44 ≠ inner.closing ∧
      (inner.closing = 93 ∨ inner.closing = 125) := by
  cases inner with
  | list => exact ⟨rfl, by decide, .inl rfl⟩
  | object => exact ⟨rfl, by decide, .inr rfl⟩

/-- A part inside a bracket: what is passed over in front of its value, and the value between
blanks. -/
structure Part (inner : Bracket) where
  lead : Bytes
  item : Item Source
  /-- What stands in front of the value is passed over behind a comma. -/
  passed : ∀ rest, skipKey inner (lead ++ rest) = .ok rest
  /-- What stands in front of the value is passed over behind the bracket, with some blanks. -/
  opened : ∀ rest, ∃ (gap : Blank) (b : UInt8) (more : Bytes),
    skipBlank (lead ++ (item.before.bytes ++ (item.value.bytes ++ rest))) = b :: more ∧
      b ≠ inner.closing ∧ skipKey inner (b :: more) = .ok (gap.bytes ++ (item.value.bytes ++ rest))

namespace Part

variable {inner : Bracket}

/-- The bytes of a part. -/
def bytes (p : Part inner) : Bytes :=
  p.lead ++ (p.item.before.bytes ++ (p.item.value.bytes ++ p.item.after.bytes))

/-- Parts are passed over behind other parts, up to the closing bracket. -/
theorem exists_skip_behind {parts : List (Part inner)}
    (h : ∀ p ∈ parts, ∃ k ≤ 2 * p.item.value.bytes.length, PassesIn k p.item.value) :
    ∃ k < 2 * (behind inner.closing (parts.map bytes)).length,
      ∀ (fuel : Nat) (outer : List Bracket) (blank : Blank) (rest : Bytes),
        skipNested (fuel + k) .closed (inner :: outer)
          (blank.bytes ++ (behind inner.closing (parts.map bytes) ++ rest)) =
            skipNested fuel .closed outer rest := by
  obtain ⟨hblank, hcomma, hclosing⟩ := inner.closing_cases
  induction parts with
  | nil =>
    refine ⟨1, by simp [behind], fun fuel outer blank rest => ?_⟩
    have hstart : skipBlank (blank.bytes ++ (behind inner.closing [] ++ rest)) =
        inner.closing :: rest := by
      rw [blank.skipBlank_append, behind, List.singleton_append, skipBlank_cons hblank]
    rw [List.map_nil, skipNested, hstart]
    exact if_pos rfl
  | cons p parts ih =>
    obtain ⟨k, hk, hpasses⟩ := h p List.mem_cons_self
    obtain ⟨k', hk', hmore⟩ := ih fun q hq => h q (List.mem_cons_of_mem _ hq)
    refine ⟨k' + k + 1, ?_, fun fuel outer blank rest => ?_⟩
    · simp only [List.map_cons, behind, bytes, List.length_cons, List.length_append]
      omega
    · have hstart : skipBlank (blank.bytes ++
          (behind inner.closing ((p :: parts).map bytes) ++ rest)) = 44 :: (p.lead ++
            (p.item.before.bytes ++ (p.item.value.bytes ++ (p.item.after.bytes ++
              (behind inner.closing (parts.map bytes) ++ rest))))) := by
        rw [blank.skipBlank_append, List.map_cons, behind, List.cons_append,
          skipBlank_cons (by decide)]
        simp only [bytes, List.append_assoc]
      rw [← Nat.add_assoc, ← Nat.add_assoc, skipNested, hstart]
      simp only [if_neg hcomma, if_true, p.passed]
      rw [hpasses _ _ _ _ (p.item.after.ends_number_behind hclosing _ _), hmore]

/-- Parts are passed over behind the bracket that they stand in. -/
theorem exists_skip_enclosed {parts : List (Part inner)}
    (h : ∀ p ∈ parts, ∃ k ≤ 2 * p.item.value.bytes.length, PassesIn k p.item.value) :
    ∃ k ≤ 2 * (enclosed inner.closing (parts.map bytes)).length,
      ∀ (fuel : Nat) (outer : List Bracket) (blank : Blank) (rest : Bytes),
        skipNested (fuel + k) .opened (inner :: outer)
          (blank.bytes ++ (enclosed inner.closing (parts.map bytes) ++ rest)) =
            skipNested fuel .closed outer rest := by
  obtain ⟨hblank, -, hclosing⟩ := inner.closing_cases
  cases parts with
  | nil =>
    refine ⟨1, by simp [enclosed], fun fuel outer blank rest => ?_⟩
    have hstart : skipBlank (blank.bytes ++ (enclosed inner.closing [] ++ rest)) =
        inner.closing :: rest := by
      rw [blank.skipBlank_append, enclosed, List.singleton_append, skipBlank_cons hblank]
    rw [List.map_nil, skipNested, hstart]
    exact if_pos rfl
  | cons p parts =>
    obtain ⟨k, hk, hpasses⟩ := h p List.mem_cons_self
    obtain ⟨k', hk', hmore⟩ := exists_skip_behind fun q hq => h q (List.mem_cons_of_mem _ hq)
    refine ⟨k' + k + 1, ?_, fun fuel outer blank rest => ?_⟩
    · simp only [List.map_cons, enclosed, bytes, List.length_append]
      omega
    · obtain ⟨gap, b, more, hstart, hb, hkey⟩ := p.opened (p.item.after.bytes ++
        (behind inner.closing (parts.map bytes) ++ rest))
      have hblanks : skipBlank (blank.bytes ++
          (enclosed inner.closing ((p :: parts).map bytes) ++ rest)) = b :: more := by
        rw [blank.skipBlank_append, ← hstart]
        simp only [List.map_cons, enclosed, bytes, List.append_assoc]
      rw [← Nat.add_assoc, ← Nat.add_assoc, skipNested, hblanks]
      simp only [if_neg hb, hkey]
      rw [hpasses _ _ _ _ (p.item.after.ends_number_behind hclosing _ _), hmore]

end Part

/-- An item as a part of its list. -/
def Item.part (item : Item Source) : Part .list where
  lead := []
  item := item
  passed _ := rfl
  opened rest := by
    have hbegins := item.value.begins
    cases hbytes : item.value.bytes with
    | nil =>
      rw [hbytes] at hbegins
      exact hbegins.elim
    | cons b more =>
      rw [hbytes] at hbegins
      refine ⟨.empty, b, more ++ rest, ?_, hbegins.2, rfl⟩
      rw [List.nil_append, item.before.skipBlank_append, List.cons_append, skipBlank_cons hbegins.1]

/-- The key and the colon of a member are passed over. -/
theorem Entry.skipKey_append (entry : Entry Source) (rest : Bytes) :
    skipKey .object (34 :: (entry.key.tail ++ (entry.gap.bytes ++ 58 :: rest))) = .ok rest := by
  have hquote : skipBlank (34 :: (entry.key.tail ++ (entry.gap.bytes ++ 58 :: rest))) =
      34 :: (entry.key.tail ++ (entry.gap.bytes ++ 58 :: rest)) := skipBlank_cons (by decide) _
  have hcolon : skipBlank (entry.gap.bytes ++ 58 :: rest) = 58 :: rest := by
    rw [entry.gap.skipBlank_append, skipBlank_cons (by decide)]
  have hsame : ¬(34 : UInt8) ≠ quoteByte := fun h => h rfl
  simp only [skipKey, hquote, if_neg hsame, entry.key.skipText_tail, readColon, hcolon, if_true]

/-- A member as a part of its object. -/
def Entry.part (entry : Entry Source) : Part .object where
  lead := entry.before.bytes ++ (entry.key.bytes ++ (entry.gap.bytes ++ [58]))
  item := entry.item
  passed rest := by
    have hblank : skipKey .object (entry.before.bytes ++
        (34 :: (entry.key.tail ++ (entry.gap.bytes ++ 58 :: rest)))) = .ok rest := by
      rw [← entry.skipKey_append rest]
      simp only [skipKey, entry.before.skipBlank_append]
    simpa [Spelled.bytes] using hblank
  opened rest := by
    refine ⟨entry.item.before, 34, entry.key.tail ++ (entry.gap.bytes ++ 58 ::
      (entry.item.before.bytes ++ (entry.item.value.bytes ++ rest))), ?_, by decide,
      entry.skipKey_append _⟩
    simp only [Spelled.bytes, List.append_assoc, List.cons_append, List.nil_append,
      entry.before.skipBlank_append]
    exact skipBlank_cons (by decide) _

/-- The bytes of a part are those of the member. -/
theorem Entry.bytes_part (entry : Entry Source) : entry.part.bytes = entry.bytes := by
  simp [Part.bytes, part, bytes, Item.bytes]

/-- The bytes of a list are those of its parts. -/
theorem itemParts_eq_parts (items : List (Item Source)) :
    Source.itemParts items = (items.map Item.part).map Part.bytes := by
  rw [Source.itemParts_eq, List.map_map]
  rfl

/-- The bytes of an object are those of its parts. -/
theorem entryParts_eq_parts (entries : List (Entry Source)) :
    Source.entryParts entries = (entries.map Entry.part).map Part.bytes := by
  rw [Source.entryParts_eq, List.map_map]
  exact List.map_congr_left fun entry _ => entry.bytes_part.symm

/-- What holds of a value if it holds of the values in it holds of every value. -/
theorem Source.induction {P : Source → Prop} (null : P .null) (boolean : ∀ b, P (.boolean b))
    (number : ∀ n, P (.number n)) (text : ∀ t, P (.text t))
    (list : ∀ blank items, (∀ item ∈ items, P item.value) → P (.list blank items))
    (object : ∀ blank entries, (∀ entry ∈ entries, P entry.item.value) →
      P (.object blank entries)) (s : Source) : P s :=
  @Source.rec P (fun items => ∀ item ∈ items, P item.value)
    (fun entries => ∀ entry ∈ entries, P entry.item.value) (fun item => P item.value)
    (fun entry => P entry.item.value) null boolean number text
    (fun blank items h => list blank items h) (fun blank entries h => object blank entries h)
    (List.forall_mem_nil _) (fun _ _ hhead htail => List.forall_mem_cons.2 ⟨hhead, htail⟩)
    (List.forall_mem_nil _) (fun _ _ hhead htail => List.forall_mem_cons.2 ⟨hhead, htail⟩)
    (fun _ _ _ h => h) (fun _ _ _ _ h => h) s

/-- Every value is passed over in at most two steps for each of its bytes. -/
theorem Source.exists_passesIn (s : Source) : ∃ k ≤ 2 * s.bytes.length, PassesIn k s := by
  induction s using Source.induction with
  | null => exact ⟨1, by decide, passesIn_word _ (.inl rfl)⟩
  | boolean b => exact ⟨1, by cases b <;> decide, passesIn_word _ (.inr ⟨b, rfl⟩)⟩
  | number n =>
    obtain ⟨b, more, hbytes, -⟩ := n.exists_bytes_cons
    refine ⟨1, ?_, passesIn_number n⟩
    rw [bytes, hbytes, List.length_cons]
    omega
  | text t =>
    refine ⟨1, ?_, passesIn_text t⟩
    simp only [bytes, Spelled.bytes, List.length_cons]
    omega
  | list blank items ih =>
    have hparts : ∀ p ∈ items.map Item.part,
        ∃ k ≤ 2 * p.item.value.bytes.length, PassesIn k p.item.value :=
      List.forall_mem_map.2 ih
    obtain ⟨k, hk, hskip⟩ := Part.exists_skip_enclosed hparts
    rw [← itemParts_eq_parts] at hk hskip
    refine ⟨k + 1, ?_, fun fuel brackets before rest _ => ?_⟩
    · simp only [bytes, List.length_cons, List.length_append]
      change k ≤ 2 * (enclosed 93 _).length at hk
      omega
    · have hstart : skipBlank (before.bytes ++ ((list blank items).bytes ++ rest)) =
          91 :: (blank.bytes ++ (enclosed 93 (itemParts items) ++ rest)) := by
        rw [before.skipBlank_append, bytes, List.cons_append, skipBlank_cons (by decide),
          List.append_assoc]
      rw [← Nat.add_assoc, skipNested, hstart]
      exact hskip fuel brackets blank rest
  | object blank entries ih =>
    have hparts : ∀ p ∈ entries.map Entry.part,
        ∃ k ≤ 2 * p.item.value.bytes.length, PassesIn k p.item.value :=
      List.forall_mem_map.2 ih
    obtain ⟨k, hk, hskip⟩ := Part.exists_skip_enclosed hparts
    rw [← entryParts_eq_parts] at hk hskip
    refine ⟨k + 1, ?_, fun fuel brackets before rest _ => ?_⟩
    · simp only [bytes, List.length_cons, List.length_append]
      change k ≤ 2 * (enclosed 125 _).length at hk
      omega
    · have hstart : skipBlank (before.bytes ++ ((object blank entries).bytes ++ rest)) =
          123 :: (blank.bytes ++ (enclosed 125 (entryParts entries) ++ rest)) := by
        rw [before.skipBlank_append, bytes, List.cons_append, skipBlank_cons (by decide),
          List.append_assoc]
      rw [← Nat.add_assoc, skipNested, hstart]
      exact hskip fuel brackets blank rest

/-- Every value is passed over. -/
theorem Source.skipValue_bytes (s : Source) (before : Blank) (hrest : EndsNumber rest) :
    skipValue (before.bytes ++ (s.bytes ++ rest)) = .ok rest := by
  obtain ⟨k, hk, hpasses⟩ := s.exists_passesIn
  have hfuel : ∃ fuel, 2 * (before.bytes ++ (s.bytes ++ rest)).length + 2 = fuel + 1 + k := by
    refine ⟨2 * (before.bytes ++ (s.bytes ++ rest)).length + 1 - k, ?_⟩
    simp only [List.length_append]
    omega
  obtain ⟨fuel, hfuel⟩ := hfuel
  rw [skipValue, hfuel, hpasses _ _ before rest hrest, skipNested]

end Courier.Json
