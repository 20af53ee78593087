import Courier.Proofs.Json.Source

/-!
# Spelled texts are read

However the characters of a text are spelled, the text is read (`readText_tail`), and it is passed
over by who does not want it (`skipText_tail`).
-/

namespace Courier.Json

/-! ## Characters -/

/-- The bytes of a text are those of its characters. -/
theorem encode_cons (c : Char) (cs : List Char) :
    Text.Utf8.encode (String.ofList (c :: cs)) =
      Text.Utf8.encode (String.singleton c) ++ Text.Utf8.encode (String.ofList cs) := by
  rw [String.ofList_cons, Text.Utf8.encode_append]

/-- A character of ASCII is its own byte. All bytes of any other character are beyond ASCII. -/
theorem mem_encode_singleton {c : Char} {b : UInt8}
    (h : b ∈ Text.Utf8.encode (String.singleton c)) :
    (c.toNat ≤ 127 ∧ b = UInt8.ofNat c.toNat) ∨ 128 ≤ b := by
  have hbytes : Text.Utf8.encode (String.singleton c) = String.utf8EncodeChar c := by
    rw [Text.Utf8.encode, String.toByteArray_singleton, List.utf8Encode.eq_1]
    simp
  rw [hbytes, String.utf8EncodeChar.eq_1] at h
  change b ∈ if c.toNat ≤ 127 then _ else _ at h
  split at h
  · rename_i hascii
    exact .inl ⟨hascii, List.mem_singleton.1 h⟩
  refine .inr ?_
  have hlarge {n : Nat} (hlow : 128 ≤ n) (hhigh : n < 256) : 128 ≤ UInt8.ofNat n :=
    (UInt8.le_ofNat_iff hhigh).2 hlow
  split at h
  · simp only [List.mem_cons, List.not_mem_nil, or_false] at h
    rcases h with rfl | rfl <;> exact hlarge (by omega) (by omega)
  split at h
  · simp only [List.mem_cons, List.not_mem_nil, or_false] at h
    rcases h with rfl | rfl | rfl <;> exact hlarge (by omega) (by omega)
  · simp only [List.mem_cons, List.not_mem_nil, or_false] at h
    rcases h with rfl | rfl | rfl | rfl <;> exact hlarge (by omega) (by omega)

/-- The bytes of a plain character are none of those that have a meaning in a text. -/
theorem not_special_of_mem_encode {c : Char} (hquote : c ≠ '"') (hbackslash : c ≠ '\\')
    (hcontrol : 32 ≤ c.toNat) {b : UInt8} (h : b ∈ Text.Utf8.encode (String.singleton c)) :
    b ≠ quoteByte ∧ b ≠ escapeByte ∧ ¬b < 32 := by
  have hquote' : c.toNat ≠ 34 := fun h => hquote (Char.toNat_inj.1 h)
  have hbackslash' : c.toNat ≠ 92 := fun h => hbackslash (Char.toNat_inj.1 h)
  simp only [quoteByte, escapeByte, ← UInt8.toNat_inj, ne_eq, UInt8.lt_iff_toNat_lt]
  rcases mem_encode_singleton h with ⟨hascii, rfl⟩ | hlarge
  · rw [UInt8.toNat_ofNat', Nat.mod_eq_of_lt (by omega)]
    exact ⟨hquote', hbackslash', Nat.not_lt.2 hcontrol⟩
  · rw [UInt8.le_iff_toNat_le] at hlarge
    have hbound : (128 : UInt8).toNat = 128 := rfl
    have hquoteByte : (34 : UInt8).toNat = 34 := rfl
    have hescapeByte : (92 : UInt8).toNat = 92 := rfl
    have hspace : (32 : UInt8).toNat = 32 := rfl
    omega

/-! ## Escapes -/

/-- A hexadecimal digit has its value. -/
theorem HexDigit.hexValue?_byte (d : HexDigit) : hexValue? d.byte = some d.value.val := by
  obtain ⟨value, capital⟩ := d
  revert value capital
  decide

/-- Four digits have their value. -/
theorem HexUnit.readHex_bytes (u : HexUnit) (rest : Bytes) :
    readHex (u.first.byte :: u.second.byte :: u.third.byte :: u.fourth.byte :: rest) =
      .ok (u.value, rest) := by
  simp only [readHex, HexDigit.hexValue?_byte]
  rfl

/-- A short escape stands for its character. -/
theorem Short.shortEscape?_letter (s : Short) :
    s.letter ≠ 117 ∧ ∃ b, shortEscape? s.letter = some b ∧
      Text.Utf8.encode (String.singleton s.char) = [b] := by
  cases s <;> exact ⟨by decide, _, rfl, by decide⟩

/-- The escape of a code point that is no surrogate stands for its character. -/
theorem HexUnit.readEscape_tail {u : HexUnit} (h : u.value < 0xD800 ∨ 0xDFFF < u.value)
    (rest : Bytes) :
    readEscape (u.bytes.tail ++ rest) = .ok (codePointBytes u.value, rest) := by
  have htrailing : isTrailingSurrogate u.value = false := by
    simp only [isTrailingSurrogate, Bool.and_eq_false_imp, decide_eq_true_eq,
      decide_eq_false_iff_not]
    omega
  have hleading : isLeadingSurrogate u.value = false := by
    simp only [isLeadingSurrogate, Bool.and_eq_false_imp, decide_eq_true_eq,
      decide_eq_false_iff_not]
    omega
  simp only [bytes, List.tail_cons, List.cons_append, List.nil_append, readEscape, if_true,
    u.readHex_bytes, htrailing, hleading, Bool.false_eq_true, if_false]

/-- The escapes of two surrogates stand for the character of both. -/
theorem HexUnit.readEscape_pair {leading trailing : HexUnit}
    (hleading : 0xD800 ≤ leading.value ∧ leading.value ≤ 0xDBFF)
    (htrailing : 0xDC00 ≤ trailing.value ∧ trailing.value ≤ 0xDFFF) (rest : Bytes) :
    readEscape (leading.bytes.tail ++ (trailing.bytes ++ rest)) =
      .ok (codePointBytes (joinSurrogates leading.value trailing.value), rest) := by
  have hfirst : isTrailingSurrogate leading.value = false := by
    simp only [isTrailingSurrogate, Bool.and_eq_false_imp, decide_eq_true_eq,
      decide_eq_false_iff_not]
    omega
  have hlead : isLeadingSurrogate leading.value = true := by
    simp only [isLeadingSurrogate, Bool.and_eq_true, decide_eq_true_eq]
    exact hleading
  have htrail : isTrailingSurrogate trailing.value = true := by
    simp only [isTrailingSurrogate, Bool.and_eq_true, decide_eq_true_eq]
    exact htrailing
  have hsecond : readTrailingSurrogate (trailing.bytes ++ rest) = .ok (trailing.value, rest) := by
    have hnot : ¬(92 : UInt8) ≠ escapeByte := fun h => h rfl
    simp only [bytes, List.cons_append, List.nil_append, readTrailingSurrogate, if_neg hnot,
      ne_eq, not_true_eq_false, if_false, trailing.readHex_bytes, htrail, if_true]
  simp only [bytes, List.tail_cons, List.cons_append, List.nil_append] at hsecond ⊢
  simp only [readEscape, if_true, leading.readHex_bytes, hfirst, hlead, Bool.false_eq_true,
    if_false, hsecond]

/-! ## Texts -/

/-- Bytes without a meaning of their own are read as they are. -/
theorem readTextBytes_plain {bytes : Bytes}
    (h : ∀ b ∈ bytes, b ≠ quoteByte ∧ b ≠ escapeByte ∧ ¬b < 32) (read rest : Bytes) :
    readTextBytes read (bytes ++ rest) = readTextBytes (bytes.reverse ++ read) rest := by
  induction bytes generalizing read with
  | nil => rfl
  | cons b more ih =>
    obtain ⟨hquote, hescape, hcontrol⟩ := h b List.mem_cons_self
    rw [List.cons_append, readTextBytes, if_neg hquote, if_neg hescape, if_neg hcontrol,
      ih fun c hc => h c (List.mem_cons_of_mem _ hc)]
    simp

/-- An escape is read as the bytes that it stands for. -/
theorem readTextBytes_escape {s rest bytes : Bytes} (h : readEscape s = .ok (bytes, rest))
    (read : Bytes) :
    readTextBytes read (92 :: s) = readTextBytes (bytes.reverse ++ read) rest := by
  rw [readTextBytes, if_neg (by decide), if_pos (by decide)]
  split
  · rename_i hstop
    rw [h] at hstop
    cases hstop
  · rename_i hok
    rw [h] at hok
    cases hok
    rfl

/-- A character is read, however it is spelled. -/
theorem Spelling.readTextBytes_bytes (c : Spelling) (read rest : Bytes) :
    readTextBytes read (c.bytes ++ rest) =
      readTextBytes ((Text.Utf8.encode (String.singleton c.char)).reverse ++ read) rest := by
  cases c with
  | plain c hquote hbackslash hcontrol =>
    exact readTextBytes_plain (fun b => not_special_of_mem_encode hquote hbackslash hcontrol) _ _
  | short s =>
    obtain ⟨hletter, b, hshort, hbytes⟩ := s.shortEscape?_letter
    have hescape : readEscape (s.letter :: rest) = .ok ([b], rest) := by
      simp only [readEscape, if_neg hletter, hshort]
    rw [char, hbytes, ← readTextBytes_escape hescape]
    rfl
  | unit u h => exact readTextBytes_escape (u.readEscape_tail h rest) read
  | pair leading trailing hleading htrailing =>
    have hescape := HexUnit.readEscape_pair hleading htrailing rest
    have hpoint : joinSurrogates leading.value trailing.value =
        0x10000 + (leading.value - 0xD800) * 0x400 + (trailing.value - 0xDC00) := by
      simp only [joinSurrogates]
      omega
    rw [hpoint] at hescape
    rw [bytes, List.append_assoc]
    exact readTextBytes_escape hescape read

/-- The characters of a text are read up to its closing quote. -/
theorem readTextBytes_flatMap_bytes (cs : List Spelling) (read rest : Bytes) :
    readTextBytes read (cs.flatMap Spelling.bytes ++ 34 :: rest) =
      .ok (read.reverse ++ Text.Utf8.encode (String.ofList (cs.map Spelling.char)), rest) := by
  induction cs generalizing read with
  | nil =>
    rw [List.flatMap_nil, List.nil_append, readTextBytes, if_pos (by decide)]
    simp [Text.Utf8.encode]
  | cons c cs ih =>
    rw [List.flatMap_cons, List.append_assoc, c.readTextBytes_bytes, ih, List.map_cons, encode_cons]
    simp

/-- A text is read behind its opening quote, however it is spelled and whatever follows. -/
theorem Spelled.readText_tail (t : Spelled) (rest : Bytes) :
    readText (t.tail ++ rest) = .ok (t.text, rest) := by
  rw [readText, tail, List.append_assoc, List.singleton_append, readTextBytes_flatMap_bytes]
  simp [text]

/-! ## Passing over texts -/

/-- Bytes without a meaning of their own are passed over. -/
theorem skipText_plain {bytes : Bytes}
    (h : ∀ b ∈ bytes, b ≠ quoteByte ∧ b ≠ escapeByte ∧ ¬b < 32) (rest : Bytes) :
    skipText (bytes ++ rest) = skipText rest := by
  induction bytes with
  | nil => rfl
  | cons b more ih =>
    obtain ⟨hquote, hescape, hcontrol⟩ := h b List.mem_cons_self
    rw [List.cons_append, skipText, if_neg hquote, if_neg hescape, if_neg hcontrol,
      ih fun c hc => h c (List.mem_cons_of_mem _ hc)]

/-- An escape that is spelled right is passed over. -/
theorem skipText_escape {s rest : Bytes} (h : skipEscape s = .ok rest) :
    skipText (92 :: s) = skipText rest := by
  rw [skipText, if_neg (by decide), if_pos (by decide)]
  split
  · rename_i hstop
    rw [h] at hstop
    cases hstop
  · rename_i hok
    rw [h] at hok
    cases hok
    rfl

/-- An escape of four digits is passed over. -/
theorem HexUnit.skipText_bytes (u : HexUnit) (rest : Bytes) :
    skipText (u.bytes ++ rest) = skipText rest := by
  have hescape : skipEscape (u.bytes.tail ++ rest) = .ok rest := by
    simp only [bytes, List.tail_cons, List.cons_append, List.nil_append, skipEscape, if_true,
      u.readHex_bytes]
  exact skipText_escape hescape

/-- A character is passed over, however it is spelled. -/
theorem Spelling.skipText_bytes (c : Spelling) (rest : Bytes) :
    skipText (c.bytes ++ rest) = skipText rest := by
  cases c with
  | plain c hquote hbackslash hcontrol =>
    exact skipText_plain (fun b => not_special_of_mem_encode hquote hbackslash hcontrol) _
  | short s =>
    obtain ⟨hletter, b, hshort, -⟩ := s.shortEscape?_letter
    have hescape : skipEscape (s.letter :: rest) = .ok rest := by
      simp only [skipEscape, if_neg hletter, hshort, Option.isSome_some, if_true]
    exact skipText_escape hescape
  | unit u h => exact u.skipText_bytes rest
  | pair leading trailing hleading htrailing =>
    rw [bytes, List.append_assoc, leading.skipText_bytes, trailing.skipText_bytes]

/-- A text is passed over behind its opening quote. -/
theorem Spelled.skipText_tail (t : Spelled) (rest : Bytes) :
    skipText (t.tail ++ rest) = .ok rest := by
  obtain ⟨cs⟩ := t
  rw [tail, List.append_assoc, List.singleton_append]
  induction cs with
  | nil => rw [List.flatMap_nil, List.nil_append, skipText, if_pos (by decide)]
  | cons c cs ih => rw [List.flatMap_cons, List.append_assoc, c.skipText_bytes, ih]

end Courier.Json
