import Courier.Bytes

/-!
# Text and its UTF-8 bytes

`encode` and `decode?` are inverse to each other: every text has one encoding, and bytes that
are not UTF-8 have no text. `decodeLossy` is for display alone. It shows each maximal ill-formed
run as one replacement character and then goes on, so it accepts all bytes and loses nothing but
the ill-formed ones.
-/

namespace Courier.Text.Utf8

/-- The UTF-8 bytes of a text. -/
def encode (text : String) : Bytes := text.toByteArray.data.toList

/-- The text of well-formed UTF-8 bytes. -/
def decode? (bytes : Bytes) : Option String := String.fromUTF8? ⟨bytes.toArray⟩

/-- Decoding undoes encoding. -/
@[simp] theorem decode?_encode (text : String) : decode? (encode text) = some text := by
  have hvalid : ByteArray.IsValidUTF8 ⟨(encode text).toArray⟩ := by
    simpa [encode] using text.isValidUTF8
  rw [decode?, String.fromUTF8?, dif_pos hvalid]
  rfl

/-- A text is known by its bytes. -/
theorem encode_injective {first second : String} (h : encode first = encode second) :
    first = second := by
  have := congrArg decode? h
  simpa using this

/-- The bytes of a joined text are the joined bytes. -/
theorem encode_append (first second : String) :
    encode (first ++ second) = encode first ++ encode second := by
  simp [encode]

/-- Characters of ASCII are one byte each. -/
theorem encode_ofList {chars : List Char} (h : ∀ c ∈ chars, c.toNat < 128) :
    encode (String.ofList chars) = chars.map fun c => c.toNat.toUInt8 := by
  have hbytes : chars.flatMap String.utf8EncodeChar = chars.map fun c => c.toNat.toUInt8 := by
    induction chars with
    | nil => rfl
    | cons c rest ih =>
      have hc : c.val.toNat ≤ 127 := Nat.le_of_lt_succ (h c List.mem_cons_self)
      rw [List.flatMap_cons, List.map_cons, ih fun d hd => h d (List.mem_cons_of_mem _ hd),
        String.utf8EncodeChar.eq_1, if_pos hc]
      rfl
  rw [encode, String.toByteArray_ofList, List.utf8Encode.eq_1, hbytes]
  simp

/-- Whether a byte continues a character that an earlier byte began. -/
def isContinuation (b : UInt8) : Bool := 0x80 ≤ b && b ≤ 0xBF

/-- Whether the byte after a leading byte keeps the character in its range. -/
def secondFits (lead second : UInt8) : Bool :=
  if lead = 0xE0 then 0xA0 ≤ second && second ≤ 0xBF
  else if lead = 0xED then 0x80 ≤ second && second ≤ 0x9F
  else if lead = 0xF0 then 0x90 ≤ second && second ≤ 0xBF
  else if lead = 0xF4 then 0x80 ≤ second && second ≤ 0x8F
  else isContinuation second

/-- The low six bits that a continuation byte adds to a character. -/
def continuationBits (b : UInt8) : Nat := b.toNat % 64

/-- The character shown where bytes are ill-formed. -/
def replacement : Char := '\uFFFD'

/--
The first character of some bytes, ill-formed ones shown as the replacement, and the number of
bytes after the leading one that belong to it.
-/
def first (lead : UInt8) (rest : Bytes) : Char × Nat :=
  if lead < 0x80 then (Char.ofNat lead.toNat, 0)
  else if 0xC2 ≤ lead ∧ lead ≤ 0xDF then
    match rest with
    | b :: _ =>
      if isContinuation b then (Char.ofNat (lead.toNat % 32 * 64 + continuationBits b), 1)
      else (replacement, 0)
    | [] => (replacement, 0)
  else if 0xE0 ≤ lead ∧ lead ≤ 0xEF then
    match rest with
    | b :: more =>
      if secondFits lead b then
        match more with
        | c :: _ =>
          if isContinuation c then
            (Char.ofNat (lead.toNat % 16 * 4096 + continuationBits b * 64 + continuationBits c), 2)
          else (replacement, 1)
        | [] => (replacement, 1)
      else (replacement, 0)
    | [] => (replacement, 0)
  else if 0xF0 ≤ lead ∧ lead ≤ 0xF4 then
    match rest with
    | b :: more =>
      if secondFits lead b then
        match more with
        | c :: most =>
          if isContinuation c then
            match most with
            | d :: _ =>
              if isContinuation d then
                (Char.ofNat (lead.toNat % 8 * 262144 + continuationBits b * 4096
                  + continuationBits c * 64 + continuationBits d), 3)
              else (replacement, 2)
            | [] => (replacement, 2)
          else (replacement, 1)
        | [] => (replacement, 1)
      else (replacement, 0)
    | [] => (replacement, 0)
  else (replacement, 0)

/-- The characters of some bytes, with a replacement for each ill-formed run. -/
def lossyChars (bytes : Bytes) : List Char :=
  match bytes with
  | [] => []
  | lead :: rest => (first lead rest).1 :: lossyChars (rest.drop (first lead rest).2)
termination_by bytes.length
decreasing_by simp only [List.length_drop, List.length_cons]; omega

/-- Any bytes as a text to look at. -/
def decodeLossy (bytes : Bytes) : String := String.ofList (lossyChars bytes)

end Courier.Text.Utf8
