import Courier.Proofs.Json.Layout

/-!
# How a JSON text can be spelled

One value has many texts: blanks may stand between any two parts, characters may be escaped in
several ways, numbers may have a fraction or an exponent, and members may stand in any order. A
`Source` is a value together with its spelling. Only well-formed texts can be built, in which every
text is a sequence of characters: an escape is no lone surrogate.
-/

namespace Courier.Json

/-! ## Blanks -/

/-- Bytes that are all blank. -/
structure Blank where
  bytes : Bytes
  blank : ∀ b ∈ bytes, isBlankByte b = true

/-- No bytes at all. -/
def Blank.empty : Blank := ⟨[], List.forall_mem_nil _⟩

/-! ## Texts -/

/-- A hexadecimal digit, in lower case or capital. -/
structure HexDigit where
  value : Fin 16
  capital : Bool

/-- The byte of a hexadecimal digit. -/
def HexDigit.byte (d : HexDigit) : UInt8 :=
  if d.value.val < 10 then (48 + d.value.val).toUInt8
  else if d.capital then (55 + d.value.val).toUInt8
  else (87 + d.value.val).toUInt8

/-- Four hexadecimal digits. -/
structure HexUnit where
  first : HexDigit
  second : HexDigit
  third : HexDigit
  fourth : HexDigit

namespace HexUnit

/-- The value of four digits. -/
def value (u : HexUnit) : Nat :=
  ((u.first.value.val * 16 + u.second.value.val) * 16 + u.third.value.val) * 16 + u.fourth.value.val

/-- The escape of four digits. -/
def bytes (u : HexUnit) : Bytes :=
  [92, 117, u.first.byte, u.second.byte, u.third.byte, u.fourth.byte]

end HexUnit

/-- A character with an escape of one letter. -/
inductive Short where
  | quote
  | backslash
  | slash
  | backspace
  | formFeed
  | lineFeed
  | carriageReturn
  | tab

/-- The character of a short escape. -/
def Short.char : Short → Char
  | .quote => '"'
  | .backslash => '\\'
  | .slash => '/'
  | .backspace => Char.ofNat 8
  | .formFeed => Char.ofNat 12
  | .lineFeed => '\n'
  | .carriageReturn => '\r'
  | .tab => '\t'

/-- The letter of a short escape. -/
def Short.letter : Short → UInt8
  | .quote => 34
  | .backslash => 92
  | .slash => 47
  | .backspace => 98
  | .formFeed => 102
  | .lineFeed => 110
  | .carriageReturn => 114
  | .tab => 116

/-- A character and how it is spelled. -/
inductive Spelling where
  /-- A character that stands for itself. -/
  | plain (c : Char) (hquote : c ≠ '"') (hbackslash : c ≠ '\\') (hcontrol : 32 ≤ c.toNat)
  | short (s : Short)
  /-- A character by its code point. -/
  | unit (u : HexUnit) (h : u.value < 0xD800 ∨ 0xDFFF < u.value)
  /-- A character by two surrogates. -/
  | pair (leading trailing : HexUnit) (hleading : 0xD800 ≤ leading.value ∧ leading.value ≤ 0xDBFF)
    (htrailing : 0xDC00 ≤ trailing.value ∧ trailing.value ≤ 0xDFFF)

namespace Spelling

/-- The character that is spelled. -/
def char : Spelling → Char
  | .plain c _ _ _ => c
  | .short s => s.char
  | .unit u _ => Char.ofNat u.value
  | .pair leading trailing _ _ =>
    Char.ofNat (0x10000 + (leading.value - 0xD800) * 0x400 + (trailing.value - 0xDC00))

/-- The bytes of the spelling. -/
def bytes : Spelling → Bytes
  | .plain c _ _ _ => Text.Utf8.encode (String.singleton c)
  | .short s => [92, s.letter]
  | .unit u _ => u.bytes
  | .pair leading trailing _ _ => leading.bytes ++ trailing.bytes

end Spelling

/-- A text and how it is spelled. -/
structure Spelled where
  characters : List Spelling

namespace Spelled

/-- The text that is spelled. -/
def text (t : Spelled) : String := String.ofList (t.characters.map Spelling.char)

/-- The bytes of the spelling behind the opening quote. -/
def tail (t : Spelled) : Bytes := t.characters.flatMap Spelling.bytes ++ [34]

/-- The bytes of the spelling between quotes. -/
def bytes (t : Spelled) : Bytes := 34 :: t.tail

end Spelled

/-! ## Numbers -/

/-- Decimal digits, at least one. -/
structure Digits where
  chars : List Char
  nonempty : chars ≠ []
  decimal : ∀ c ∈ chars, c.isDigit = true

/-- The bytes of digits. -/
def Digits.bytes (d : Digits) : Bytes := d.chars.map digitByte

/-- The value of digits. -/
def Digits.value (d : Digits) : Nat := Nat.ofDigitChars 10 d.chars 0

/-- The sign of an exponent. -/
inductive Sign where
  | none
  | plus
  | minus

/-- The bytes of a sign. -/
def Sign.bytes : Sign → Bytes
  | .none => []
  | .plus => [43]
  | .minus => [45]

/-- An exponent, behind a mark in lower case or capital. -/
structure Exponent where
  capital : Bool
  sign : Sign
  digits : Digits

/-- The bytes of an exponent. -/
def Exponent.bytes (e : Exponent) : Bytes :=
  (if e.capital then 69 else 101) :: (e.sign.bytes ++ e.digits.bytes)

/-- A number as it is written. A zero in front of other digits is not allowed. -/
structure Literal where
  negative : Bool
  whole : Digits
  noLeadingZero : whole.chars = ['0'] ∨ whole.chars.head? ≠ some '0'
  fraction : Option Digits
  exponent : Option Exponent

namespace Literal

/-- The bytes of a fraction, if there is one. -/
def fractionBytes (n : Literal) : Bytes := n.fraction.elim [] fun digits => 46 :: digits.bytes

/-- The bytes of an exponent, if there is one. -/
def exponentBytes (n : Literal) : Bytes := n.exponent.elim [] Exponent.bytes

/-- The bytes of a number behind its sign. -/
def unsignedBytes (n : Literal) : Bytes := n.whole.bytes ++ (n.fractionBytes ++ n.exponentBytes)

/-- The bytes of a number. -/
def bytes (n : Literal) : Bytes := if n.negative then 45 :: n.unsignedBytes else n.unsignedBytes

/-- The integer that a number is: one without fraction and exponent, and not minus zero. -/
def integer? (n : Literal) : Option Int :=
  if n.fraction.isSome || n.exponent.isSome || (n.negative && n.whole.value = 0) then none
  else if n.negative then some (-n.whole.value)
  else some n.whole.value

end Literal

/-! ## Values -/

/-- A part between blanks. -/
structure Item (α : Type) where
  before : Blank
  value : α
  after : Blank

/-- A member of an object: a key between blanks, a colon, and a value between blanks. -/
structure Entry (α : Type) where
  before : Blank
  key : Spelled
  gap : Blank
  item : Item α

/-- A value and how it is spelled. -/
inductive Source where
  | null
  | boolean (b : Bool)
  | number (n : Literal)
  | text (t : Spelled)
  | list (blank : Blank) (items : List (Item Source))
  | object (blank : Blank) (entries : List (Entry Source))

mutual

/-- The bytes of a value. -/
def Source.bytes : Source → Bytes
  | .null => 110 :: nullTail
  | .boolean true => 116 :: trueTail
  | .boolean false => 102 :: falseTail
  | .number n => n.bytes
  | .text t => t.bytes
  | .list blank items => 91 :: (blank.bytes ++ enclosed 93 (Source.itemParts items))
  | .object blank entries => 123 :: (blank.bytes ++ enclosed 125 (Source.entryParts entries))

/-- The bytes of each item of a list. -/
def Source.itemParts : List (Item Source) → List Bytes
  | [] => []
  | ⟨before, value, after⟩ :: rest =>
    (before.bytes ++ (value.bytes ++ after.bytes)) :: Source.itemParts rest

/-- The bytes of each member of an object. -/
def Source.entryParts : List (Entry Source) → List Bytes
  | [] => []
  | ⟨before, key, gap, ⟨blank, value, after⟩⟩ :: rest =>
    (before.bytes ++ (key.bytes ++ (gap.bytes ++ 58 ::
      (blank.bytes ++ (value.bytes ++ after.bytes))))) :: Source.entryParts rest

end

/-- The bytes of an item. -/
def Item.bytes (item : Item Source) : Bytes :=
  item.before.bytes ++ (item.value.bytes ++ item.after.bytes)

/-- The bytes of a member. -/
def Entry.bytes (entry : Entry Source) : Bytes :=
  entry.before.bytes ++ (entry.key.bytes ++ (entry.gap.bytes ++ 58 :: entry.item.bytes))

/-- The parts of a list are its items. -/
theorem Source.itemParts_eq (items : List (Item Source)) :
    Source.itemParts items = items.map Item.bytes := by
  induction items with
  | nil => rfl
  | cons item rest ih =>
    rw [Source.itemParts, ih]
    rfl

/-- The parts of an object are its members. -/
theorem Source.entryParts_eq (entries : List (Entry Source)) :
    Source.entryParts entries = entries.map Entry.bytes := by
  induction entries with
  | nil => rfl
  | cons entry rest ih =>
    rw [Source.entryParts, ih]
    rfl

end Courier.Json
