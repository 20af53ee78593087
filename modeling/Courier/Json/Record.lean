import Courier.Json.Value

/-!
# Records in JSON

A record has named fields in a fixed order, each with the shape of its values; some have a value
to fall back on. It is written as an object with its fields in order. It is read from an object
with the fields in any order, each at most once, and with any other members passed over; or from
a list of the values in order, whose end may leave out fields that have a value to fall back on.

The values of a record's fields are a tuple whose type follows from its layout, so a reader
cannot confuse them.
-/

namespace Courier.Json

/-- What the value of a field looks like. -/
inductive Shape where
  | text
  /-- A signed integer of sixty-four bits. -/
  | integer
  /-- An unsigned integer of sixteen bits. -/
  | short
  | textMap
  | textList
deriving DecidableEq, Repr

/-- The values of a shape. -/
@[reducible] def Shape.Holds : Shape → Type
  | .text => String
  | .integer => Int64
  | .short => UInt16
  | .textMap => TextMap
  | .textList => List String

/-- How a message names a shape. -/
def Shape.describe : Shape → String
  | .text => "a string"
  | .integer => "i64"
  | .short => "u16"
  | .textMap => "a map"
  | .textList => "a sequence"

/-- A field of a record. -/
structure Field where
  name : String
  shape : Shape
  /-- The value of the field where it is left out, if it may be. -/
  fallback : Option shape.Holds

/-- A field that has to be there. -/
def Field.required (name : String) (shape : Shape) : Field := ⟨name, shape, none⟩

/-- A field that may be left out. -/
def Field.withFallback (name : String) (shape : Shape) (value : shape.Holds) : Field :=
  ⟨name, shape, some value⟩

/-- One value for each field. -/
@[reducible] def Values : List Field → Type
  | [] => Unit
  | f :: fs => f.shape.Holds × Values fs

/-- For each field the value that was read, if it was. -/
@[reducible] def Slots : List Field → Type
  | [] => Unit
  | f :: fs => Option f.shape.Holds × Slots fs

/-- Nothing read yet. -/
def Slots.empty : (fs : List Field) → Slots fs
  | [] => ()
  | _ :: fs => (none, Slots.empty fs)

/-! ## Writing -/

/-- The items of a list of texts and its closing bracket. -/
def writeTextItems : List String → Bytes
  | [] => [93]
  | [t] => writeText t ++ [93]
  | t :: u :: rest => writeText t ++ 44 :: writeTextItems (u :: rest)

/-- The members of a map of texts and its closing bracket. -/
def writeTextMembers : List (String × String) → Bytes
  | [] => [125]
  | [(k, v)] => writeText k ++ 58 :: writeText v ++ [125]
  | (k, v) :: m :: rest => writeText k ++ 58 :: writeText v ++ 44 :: writeTextMembers (m :: rest)

/-- A value as JSON. -/
def Shape.write : (shape : Shape) → shape.Holds → Bytes
  | .text, t => writeText t
  | .integer, n => word (toString n.toInt)
  | .short, n => word (toString n.toNat)
  | .textMap, m => 123 :: writeTextMembers m.entries
  | .textList, ts => 91 :: writeTextItems ts

/-- The fields of a record and its closing bracket. -/
def writeFields : (fs : List Field) → Values fs → Bytes
  | [], _ => [125]
  | [f], (v, _) => writeText f.name ++ 58 :: f.shape.write v ++ [125]
  | f :: g :: fs, (v, vs) => writeText f.name ++ 58 :: f.shape.write v ++ 44 :: writeFields (g :: fs) vs

/-! ## Reading values -/

/-- Read a text. -/
def readTextValue (expected : String) (s : Bytes) : Read String :=
  match skipBlank s with
  | [] => stop .endOfValue []
  | b :: rest => if b = quoteByte then readText rest else refuseFound expected (b :: rest)

/-- Read an integer between two bounds. -/
def readIntegerValue (expected : String) (low high : Int) (s : Bytes) : Read Int :=
  match skipBlank s with
  | [] => stop .endOfValue []
  | b :: rest =>
    if startsNumber b then
      match readNumber (b :: rest) with
      | .error e => .error e
      | .ok (.float x, rest) => refuse (.invalidType (Number.float x).found expected) rest
      | .ok (.integer n, rest) =>
        if low ≤ n ∧ n ≤ high then .ok (n, rest)
        else refuse (.invalidValue (.integer n) expected) rest
    else refuseFound expected (b :: rest)

/-- Read a map of texts, in which the last value of a key counts. -/
def readTextMap (expected : String) (s : Bytes) : Read TextMap :=
  match skipBlank s with
  | [] => stop .endOfValue []
  | b :: rest =>
    if b = 123 then
      readMembers (readMemberValue (readTextValue Shape.text.describe)
        fun key v (m : TextMap) => m.insert key v) true OrderedMap.empty (rest.length + 1) rest
    else refuseFound expected (b :: rest)

/-- Read a list of texts. -/
def readTextList (expected : String) (s : Bytes) : Read (List String) :=
  match skipBlank s with
  | [] => stop .endOfValue []
  | b :: rest =>
    if b = 91 then readItems (readTextValue Shape.text.describe) true (rest.length + 1) rest
    else refuseFound expected (b :: rest)

/-- Read a value of a shape. -/
def Shape.read (shape : Shape) (s : Bytes) : Read shape.Holds :=
  match shape with
  | .text => readTextValue Shape.text.describe s
  | .integer =>
    (readIntegerValue Shape.integer.describe Int64.minValue.toInt Int64.maxValue.toInt s).map
      fun (n, rest) => (Int64.ofInt n, rest)
  | .short =>
    (readIntegerValue Shape.short.describe 0 65535 s).map
      fun (n, rest) => (UInt16.ofNat n.toNat, rest)
  | .textMap => readTextMap Shape.textMap.describe s
  | .textList => readTextList Shape.textList.describe s

/-! ## Reading records -/

/-- Read the member of a key into the slot of its field. -/
def readMember :
    (fs : List Field) → String → Slots fs → Bytes → Except Stop (Slots fs × Bytes)
  | [], _, _, s => do
    let s ← readColon s
    let s ← skipValue s
    return ((), s)
  | f :: fs, key, (slot, slots), s =>
    if f.name = key then
      if slot.isSome then refuse (.duplicateField f.name) (pastObjectEnd s)
      else do
        let s ← readColon s
        let (v, s) ← f.shape.read s
        return ((some v, slots), s)
    else do
      let (slots, s) ← readMember fs key slots s
      return ((slot, slots), s)

/-- The values of the slots, where empty ones fall back. -/
def fillSlots : (fs : List Field) → Slots fs → Except Mismatch (Values fs)
  | [], _ => .ok ()
  | f :: fs, (slot, slots) =>
    match slot.or f.fallback with
    | none => .error (.missingField f.name)
    | some v => do
      let vs ← fillSlots fs slots
      return (v, vs)

/-- Read the values of fields from a list; `index` of them have been read. -/
def readPositions (expected : String) :
    (fs : List Field) → Nat → Bytes → Except Stop (Values fs × Bytes)
  | [], _, s => .ok ((), s)
  | f :: fs, index, s =>
    match nextItem? (index = 0) s with
    | .error e => .error e
    | .ok none =>
      match f.fallback with
      | none => refuse (.invalidLength index expected) (pastListEnd s)
      | some v => do
        let (vs, s) ← readPositions expected fs (index + 1) s
        return ((v, vs), s)
    | .ok (some start) => do
      let (v, s) ← f.shape.read start
      let (vs, s) ← readPositions expected fs (index + 1) s
      return ((v, vs), s)

/-- What messages and readers know of a record: its name and its fields. -/
structure Layout where
  name : String
  fields : List Field

/-- How a message names a record. -/
def Layout.describe (layout : Layout) : String := "struct " ++ layout.name

/-- How a message names the list form of a record. -/
def Layout.describeList (layout : Layout) : String :=
  s!"struct {layout.name} with {layout.fields.length} elements"

/-- Read a record. -/
def Layout.readValues (layout : Layout) (s : Bytes) : Read (Values layout.fields) :=
  match skipBlank s with
  | [] => stop .endOfValue []
  | b :: rest =>
    if b = 123 then
      match readMembers (readMember layout.fields) true (Slots.empty layout.fields)
          (rest.length + 1) rest with
      | .error e => .error e
      | .ok (slots, rest) =>
        match fillSlots layout.fields slots with
        | .error what => refuse what rest
        | .ok vs => .ok (vs, rest)
    else if b = 91 then
      match readPositions layout.describeList layout.fields 0 rest with
      | .error e => .error e
      | .ok (vs, rest) =>
        match readListEnd rest with
        | .error e => .error e
        | .ok rest => .ok (vs, rest)
    else refuseFound layout.describe (b :: rest)

/-- A type whose values are records of a layout. -/
class Record (α : Type) where
  layout : Layout
  /-- The values of the fields. -/
  values : α → Values layout.fields
  /-- The record with given values of the fields. -/
  ofValues : Values layout.fields → α
  /-- A record is no more than the values of its fields. -/
  ofValues_values : ∀ a, ofValues (values a) = a

/-- A record as JSON. -/
def write {α : Type} [Record α] (a : α) : Bytes :=
  123 :: writeFields (Record.layout α).fields (Record.values a)

/-- Read a text that holds one record. -/
def read {α : Type} [Record α] (text : Bytes) : Except Fault α :=
  (readWhole (Record.layout α).readValues text).map Record.ofValues

end Courier.Json
