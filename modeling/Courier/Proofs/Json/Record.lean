import Courier.Json.Record
import Courier.Proofs.Json.Layout

/-!
# Records are read back

A value of any shape is read back from what is written for it, in front of anything that may stand
behind a value. A record whose fields have different names is therefore read back field by field,
and a record that was written is the one that is read (`read_write`).
-/

namespace Courier.Json

variable {rest : Bytes}

/-! ## Values -/

/-- What is written for a text begins with its quote. -/
theorem writeText_append (text : String) (rest : Bytes) :
    writeText text ++ rest = quoteByte :: ((writeText text).tail ++ rest) := rfl

/-- A text is read back, whatever stands behind it. -/
theorem readTextValue_writeText (expected text : String) (rest : Bytes) :
    readTextValue expected (writeText text ++ rest) = .ok (text, rest) := by
  have hquote : isBlankByte quoteByte = false := rfl
  simp only [readTextValue, writeText_append, skipBlank_cons hquote, if_true, readText_writeText]

/-- A byte that begins a number is no blank. -/
theorem not_blank_of_startsNumber {b : UInt8} (h : startsNumber b = true) :
    isBlankByte b = false := by
  cases hblank : isBlankByte b with
  | false => rfl
  | true =>
    simp only [isBlankByte, Bool.or_eq_true, decide_eq_true_eq] at hblank
    rcases hblank with ((rfl | rfl) | rfl) | rfl <;> cases h

/-- A whole number between the bounds is read back. -/
theorem readIntegerValue_word (h : Closes rest) (expected : String) {low high n : Int}
    (hlow : low ≤ n) (hhigh : n ≤ high) (hleast : Int64.minValue.toInt ≤ low)
    (hmost : high ≤ greatestWord) :
    readIntegerValue expected low high (word (toString n) ++ rest) = .ok (n, rest) := by
  obtain ⟨b, more, hword, hb⟩ := exists_word_cons n
  have hread := readNumber_word h (Int.le_trans hleast hlow) (Int.le_trans hhigh hmost)
  rw [hword, List.cons_append] at hread ⊢
  simp only [readIntegerValue, skipBlank_cons (not_blank_of_startsNumber hb), hb, if_true, hread,
    hlow, hhigh, and_self]

/-- The items of a list of texts are its parts. -/
theorem writeTextItems_eq (ts : List String) :
    writeTextItems ts = enclosed 93 (ts.map writeText) := by
  cases ts with
  | nil => rfl
  | cons t ts =>
    change _ = writeText t ++ _
    induction ts generalizing t with
    | nil => rfl
    | cons u rest ih => rw [writeTextItems, ih]; rfl

/-- A list of texts is read back. -/
theorem readTextList_write (expected : String) (ts : List String) (rest : Bytes) :
    readTextList expected (91 :: writeTextItems ts ++ rest) = .ok (ts, rest) := by
  have hbracket : isBlankByte 91 = false := rfl
  simp only [readTextList, writeTextItems_eq, List.cons_append, skipBlank_cons hbracket, if_true]
  exact readItems_enclosed (fun t _ more _ => readTextValue_writeText _ t more)
    (fun _ _ => ⟨rfl, by decide⟩) rest

/-- What is written for an entry of a map behind its key. -/
def entryMember (entry : String × String) : Member := (entry.1, 58 :: writeText entry.2)

/-- The members of a map of texts are its parts. -/
theorem writeTextMembers_eq (entries : List (String × String)) :
    writeTextMembers entries = enclosed 125 ((entries.map entryMember).map Member.bytes) := by
  cases entries with
  | nil => rfl
  | cons e es =>
    induction es generalizing e with
    | nil => simp [writeTextMembers, enclosed, behind, Member.bytes, entryMember]
    | cons f rest ih =>
      rw [writeTextMembers, ih]
      simp [enclosed, behind, Member.bytes, entryMember]

/-- An entry whose key is behind all others is put behind them. -/
theorem insertEntry_of_lt {key value : String} {entries : List (String × String)}
    (h : ∀ e ∈ entries, e.1 < key) : insertEntry key value entries = entries ++ [(key, value)] := by
  induction entries with
  | nil => rfl
  | cons e rest ih =>
    have he := h e List.mem_cons_self
    rw [insertEntry, if_neg (String.lt_asymm he), if_pos he,
      ih fun f hf => h f (List.mem_cons_of_mem _ hf)]
    rfl

/-- The entries of a map are read back behind those in front of them. -/
theorem fills_entries (m sofar : TextMap) (later : List (String × String))
    (hm : m.entries = sofar.entries ++ later) :
    Fills (readMemberValue (readTextValue Shape.text.describe)
      fun key v (m : TextMap) => m.insert key v) (later.map entryMember) sofar m := by
  induction later generalizing sofar with
  | nil =>
    have hsame : m = sofar := OrderedMap.ext (hm.trans (List.append_nil _))
    rw [hsame]
    exact .nil sofar
  | cons e later ih =>
    have hall := m.ascending
    rw [hm] at hall
    have hfront : ∀ f ∈ sofar.entries, f.1 < e.1 := fun f hf =>
      (List.pairwise_append.1 hall).2.2 f hf e List.mem_cons_self
    have hinserted : (sofar.insert e.1 e.2).entries = sofar.entries ++ [e] :=
      insertEntry_of_lt hfront
    refine .cons (b := sofar.insert e.1 e.2) ?_ ?_
    · intro rest _
      have hcolon : isBlankByte 58 = false := rfl
      simp only [entryMember, List.cons_append, readMemberValue, readColon, skipBlank_cons hcolon,
        if_true, readTextValue_writeText]
    · exact ih _ (by rw [hm, hinserted, List.append_assoc]; rfl)

/-- A map of texts is read back. -/
theorem readTextMap_write (expected : String) (m : TextMap) (rest : Bytes) :
    readTextMap expected (123 :: writeTextMembers m.entries ++ rest) = .ok (m, rest) := by
  have hbracket : isBlankByte 123 = false := rfl
  have hfills := fills_entries m .empty m.entries rfl
  simp only [readTextMap, writeTextMembers_eq, List.cons_append, skipBlank_cons hbracket, if_true]
  exact hfills.readMembers_enclosed rest

/-- A signed integer is read back. -/
theorem readIntegerValue_int64 (h : Closes rest) (expected : String) (n : Int64) :
    readIntegerValue expected Int64.minValue.toInt Int64.maxValue.toInt
      (word (toString n.toInt) ++ rest) = .ok (n.toInt, rest) :=
  readIntegerValue_word h expected n.minValue_le_toInt n.toInt_le (Int.le_refl _) (by decide)

/-- A short integer is read back. -/
theorem readIntegerValue_uint16 (h : Closes rest) (expected : String) (n : UInt16) :
    readIntegerValue expected 0 65535 (word (toString n.toNat) ++ rest) =
      .ok ((n.toNat : Int), rest) := by
  have hlt := n.toNat_lt
  have htext (k : Nat) : toString (k : Int) = toString k := rfl
  rw [← htext]
  exact readIntegerValue_word h expected (by omega) (by omega) (by decide) (by decide)

/-- A value of any shape is read back. -/
theorem Shape.read_write (shape : Shape) (v : shape.Holds) (h : Closes rest) :
    shape.read (shape.write v ++ rest) = .ok (v, rest) := by
  cases shape with
  | text => exact readTextValue_writeText Shape.text.describe v rest
  | integer =>
    simp only [Shape.read, Shape.write, readIntegerValue_int64 h, Except.map, Int64.ofInt_toInt]
  | short =>
    simp only [Shape.read, Shape.write, readIntegerValue_uint16 h, Except.map, Int.toNat_natCast,
      UInt16.ofNat_toNat]
  | textMap => exact readTextMap_write Shape.textMap.describe v rest
  | textList => exact readTextList_write Shape.textList.describe v rest

/-! ## Fields -/

/-- The members that are written for the fields of a record. -/
def fieldMembers : (fs : List Field) → Values fs → List Member
  | [], _ => []
  | f :: fs, (v, vs) => (f.name, 58 :: f.shape.write v) :: fieldMembers fs vs

/-- The slots in which the values of all fields were read. -/
def Slots.full : (fs : List Field) → Values fs → Slots fs
  | [], _ => ()
  | _ :: fs, (v, vs) => (some v, Slots.full fs vs)

/-- The fields of a record are its parts. -/
theorem writeFields_eq (fs : List Field) (vs : Values fs) :
    writeFields fs vs = enclosed 125 ((fieldMembers fs vs).map Member.bytes) := by
  cases fs with
  | nil => rfl
  | cons f fs =>
    obtain ⟨v, vs⟩ := vs
    induction fs generalizing f with
    | nil => simp [writeFields, fieldMembers, enclosed, behind, Member.bytes]
    | cons g fs ih =>
      obtain ⟨w, vs⟩ := vs
      rw [writeFields, ih g w vs]
      simp [fieldMembers, enclosed, behind, Member.bytes]

/-- The keys of the members are the names of the fields. -/
theorem map_fst_fieldMembers (fs : List Field) (vs : Values fs) :
    (fieldMembers fs vs).map Prod.fst = fs.map Field.name := by
  induction fs with
  | nil => rfl
  | cons f fs ih => simp only [fieldMembers, List.map_cons, ih]

/-- The slots of further fields are filled beside that of a field with another name. -/
theorem Fills.beside {f : Field} {fs : List Field} {ms : List Member} {a b : Slots fs}
    (h : Fills (readMember fs) ms a b) (hother : ∀ m ∈ ms, f.name ≠ m.1)
    (slot : Option f.shape.Holds) : Fills (readMember (f :: fs)) ms (slot, a) (slot, b) := by
  induction h with
  | nil a => exact .nil _
  | @cons m ms a b c hread hmore ih =>
    refine .cons (b := (slot, b)) ?_ (ih fun n hn => hother n (List.mem_cons_of_mem _ hn))
    intro rest hrest
    simp only [readMember, if_neg (hother m List.mem_cons_self), hread rest hrest]
    rfl

/-- The members of a record fill all its slots, if its fields have different names. -/
theorem fills_fields {fs : List Field} (hnames : (fs.map Field.name).Nodup) (vs : Values fs) :
    Fills (readMember fs) (fieldMembers fs vs) (Slots.empty fs) (Slots.full fs vs) := by
  induction fs with
  | nil => exact .nil ()
  | cons f fs ih =>
    obtain ⟨v, vs⟩ := vs
    rw [List.map_cons, List.nodup_cons] at hnames
    refine .cons (b := (some v, Slots.empty fs)) ?_ ((ih hnames.2 vs).beside ?_ (some v))
    · intro rest hrest
      have hcolon : isBlankByte 58 = false := rfl
      have hvalue := f.shape.read_write v hrest
      simp only [readMember, Slots.empty, if_true, Option.isSome_none, Bool.false_eq_true, if_false,
        List.cons_append, readColon, skipBlank_cons hcolon, bind, Except.bind, hvalue]
      rfl
    · intro m hm heq
      have hkey := List.mem_map_of_mem (f := Prod.fst) hm
      rw [map_fst_fieldMembers, ← heq] at hkey
      exact hnames.1 hkey

/-- Slots that are filled give the values. -/
theorem fillSlots_full (fs : List Field) (vs : Values fs) :
    fillSlots fs (Slots.full fs vs) = .ok vs := by
  induction fs with
  | nil => rfl
  | cons f fs ih =>
    obtain ⟨v, vs⟩ := vs
    simp only [Slots.full, fillSlots, Option.some_or, ih vs]
    rfl

/-- The values of a record are read back from its object. -/
theorem Layout.readValues_writeFields (layout : Layout)
    (hnames : (layout.fields.map Field.name).Nodup) (vs : Values layout.fields) (rest : Bytes) :
    layout.readValues (123 :: writeFields layout.fields vs ++ rest) = .ok (vs, rest) := by
  have hbracket : isBlankByte 123 = false := rfl
  have hmembers := (fills_fields hnames vs).readMembers_enclosed rest
  simp only [Layout.readValues, writeFields_eq, List.cons_append, skipBlank_cons hbracket, if_true,
    hmembers, fillSlots_full]

/-- A record that was written is read back. -/
theorem read_write {α : Type} [Record α]
    (hnames : ((Record.layout α).fields.map Field.name).Nodup) (a : α) :
    read (write a) = .ok a := by
  have hvalues := (Record.layout α).readValues_writeFields hnames (Record.values a) []
  rw [List.append_nil] at hvalues
  rw [read, write, readWhole, hvalues]
  exact congrArg Except.ok (Record.ofValues_values a)

end Courier.Json
