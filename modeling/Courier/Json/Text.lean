import Courier.Json.Fault
import Courier.Text.Utf8

/-!
# Texts in JSON

A text stands between double quotes as UTF-8. Writing escapes the quote, the backslash and the
controls below the space, and nothing else; five controls have short escapes and the others are
spelled with four hexadecimal digits. Both directions work on bytes: the bytes of a character
beyond ASCII are never touched, and whether the bytes between the quotes are UTF-8 is decided
once they are all there.

A text that nobody wants is passed over with fewer checks: its escapes have to be spelled right,
but neither its bytes nor its surrogates need make sense.
-/

namespace Courier.Json

/-- The double quote. -/
def quoteByte : UInt8 := 34

/-- The backslash. -/
def escapeByte : UInt8 := 92

/-- The hexadecimal digit of a number below sixteen, in lower case. -/
def hexByte (n : Nat) : UInt8 := if n < 10 then (48 + n).toUInt8 else (87 + n).toUInt8

/-- How a byte is written between quotes. -/
def escaped (b : UInt8) : Bytes :=
  if b = quoteByte then [escapeByte, quoteByte]
  else if b = escapeByte then [escapeByte, escapeByte]
  else if b < 32 then
    if b = 8 then [escapeByte, 98]
    else if b = 9 then [escapeByte, 116]
    else if b = 10 then [escapeByte, 110]
    else if b = 12 then [escapeByte, 102]
    else if b = 13 then [escapeByte, 114]
    else [escapeByte, 117, 48, 48, hexByte (b.toNat / 16), hexByte (b.toNat % 16)]
  else [b]

/-- A text as JSON. -/
def writeText (text : String) : Bytes :=
  quoteByte :: (Text.Utf8.encode text).flatMap escaped ++ [quoteByte]

/-- The value of a hexadecimal digit in either case. -/
def hexValue? (b : UInt8) : Option Nat :=
  if 48 ≤ b ∧ b ≤ 57 then some (b.toNat - 48)
  else if 97 ≤ b ∧ b ≤ 102 then some (b.toNat - 87)
  else if 65 ≤ b ∧ b ≤ 70 then some (b.toNat - 55)
  else none

/-- Read four hexadecimal digits. -/
def readHex : Bytes → Read Nat
  | a :: b :: c :: d :: rest =>
    match hexValue? a, hexValue? b, hexValue? c, hexValue? d with
    | some a, some b, some c, some d => .ok (((a * 16 + b) * 16 + c) * 16 + d, rest)
    | _, _, _, _ => stop .invalidEscape rest
  | _ => stop .endOfText []

/-- The byte of an escape of one letter. -/
def shortEscape? (b : UInt8) : Option UInt8 :=
  if b = quoteByte ∨ b = escapeByte ∨ b = 47 then some b
  else if b = 98 then some 8
  else if b = 102 then some 12
  else if b = 110 then some 10
  else if b = 114 then some 13
  else if b = 116 then some 9
  else none

/-- The first of two surrogates. -/
def isLeadingSurrogate (n : Nat) : Bool := 0xD800 ≤ n && n ≤ 0xDBFF

/-- The second of two surrogates. -/
def isTrailingSurrogate (n : Nat) : Bool := 0xDC00 ≤ n && n ≤ 0xDFFF

/-- The UTF-8 bytes of a code point. -/
def codePointBytes (n : Nat) : Bytes := Text.Utf8.encode (String.singleton (Char.ofNat n))

/-- Read the escape of the second surrogate, which the first one needs behind it. -/
def readTrailingSurrogate : Bytes → Read Nat
  | [] => stop .endOfText []
  | b :: rest =>
    if b ≠ escapeByte then stop .endOfSurrogates rest
    else
      match rest with
      | [] => stop .endOfText []
      | u :: rest =>
        if u ≠ 117 then stop .endOfSurrogates rest
        else
          match readHex rest with
          | .error e => .error e
          | .ok (n, rest) =>
            if isTrailingSurrogate n then .ok (n, rest) else stop .loneSurrogate rest

/-- The code point of two surrogates. -/
def joinSurrogates (leading trailing : Nat) : Nat :=
  (leading - 0xD800) * 1024 + (trailing - 0xDC00) + 0x10000

/-- Read an escape whose backslash has been read, as the bytes that it stands for. -/
def readEscape : Bytes → Read Bytes
  | [] => stop .endOfText []
  | e :: rest =>
    if e = 117 then
      match readHex rest with
      | .error e => .error e
      | .ok (n, rest) =>
        if isTrailingSurrogate n then stop .loneSurrogate rest
        else if isLeadingSurrogate n then
          match readTrailingSurrogate rest with
          | .error e => .error e
          | .ok (low, rest) => .ok (codePointBytes (joinSurrogates n low), rest)
        else .ok (codePointBytes n, rest)
    else
      match shortEscape? e with
      | some byte => .ok ([byte], rest)
      | none => stop .invalidEscape rest

/-- Pass over an escape whose backslash has been read. -/
def skipEscape : Bytes → Except Stop Bytes
  | [] => stop .endOfText []
  | e :: rest =>
    if e = 117 then
      match readHex rest with
      | .error e => .error e
      | .ok (_, rest) => .ok rest
    else if (shortEscape? e).isSome then .ok rest
    else stop .invalidEscape rest

/-- Four digits are taken off the front. -/
theorem length_of_readHex {s rest : Bytes} {n : Nat} (h : readHex s = .ok (n, rest)) :
    rest.length < s.length := by
  unfold readHex at h
  split at h
  · split at h
    · simp only [Except.ok.injEq, Prod.mk.injEq] at h
      obtain ⟨-, rfl⟩ := h
      simp only [List.length_cons]; omega
    · cases h
  · cases h

/-- An escape is taken off the front. -/
theorem length_of_readTrailingSurrogate {s rest : Bytes} {n : Nat}
    (h : readTrailingSurrogate s = .ok (n, rest)) : rest.length < s.length := by
  unfold readTrailingSurrogate at h
  split at h
  · cases h
  split at h
  · cases h
  split at h
  · cases h
  split at h
  · cases h
  split at h
  · cases h
  · rename_i hhex
    have := length_of_readHex hhex
    split at h
    · simp only [Except.ok.injEq, Prod.mk.injEq] at h
      obtain ⟨-, rfl⟩ := h
      simp only [List.length_cons]; omega
    · cases h

/-- An escape is taken off the front. -/
theorem length_of_readEscape {s rest bytes : Bytes} (h : readEscape s = .ok (bytes, rest)) :
    rest.length < s.length := by
  unfold readEscape at h
  split at h
  · cases h
  split at h
  · split at h
    · cases h
    · rename_i hhex
      have := length_of_readHex hhex
      split at h
      · cases h
      split at h
      · split at h
        · cases h
        · rename_i hlow
          have := length_of_readTrailingSurrogate hlow
          simp only [Except.ok.injEq, Prod.mk.injEq] at h
          obtain ⟨-, rfl⟩ := h
          simp only [List.length_cons]; omega
      · simp only [Except.ok.injEq, Prod.mk.injEq] at h
        obtain ⟨-, rfl⟩ := h
        simp only [List.length_cons]; omega
  · split at h
    · simp only [Except.ok.injEq, Prod.mk.injEq] at h
      obtain ⟨-, rfl⟩ := h
      simp
    · cases h

/-- An escape is taken off the front. -/
theorem length_of_skipEscape {s rest : Bytes} (h : skipEscape s = .ok rest) :
    rest.length < s.length := by
  unfold skipEscape at h
  split at h
  · cases h
  split at h
  · split at h
    · cases h
    · rename_i hhex
      have := length_of_readHex hhex
      simp only [Except.ok.injEq] at h
      subst h
      simp only [List.length_cons]; omega
  split at h
  · simp only [Except.ok.injEq] at h
    subst h
    simp
  · cases h

/--
Read the bytes of a text up to and including its closing quote. The bytes read so far are kept
with the latest one in front.
-/
def readTextBytes (read s : Bytes) : Read Bytes :=
  match s with
  | [] => stop .endOfText []
  | b :: rest =>
    if b = quoteByte then .ok (read.reverse, rest)
    else if b = escapeByte then
      match _taken : readEscape rest with
      | .error e => .error e
      | .ok (bytes, rest) => readTextBytes (bytes.reverse ++ read) rest
    else if b < 32 then stop .controlCharacter rest
    else readTextBytes (b :: read) rest
termination_by s.length
decreasing_by
  · have := length_of_readEscape _taken
    simp only [List.length_cons]; omega
  · simp

/-- Read a text whose opening quote has been read. -/
def readText (s : Bytes) : Read String :=
  match readTextBytes [] s with
  | .error e => .error e
  | .ok (bytes, rest) =>
    match Text.Utf8.decode? bytes with
    | some text => .ok (text, rest)
    | none => stop .invalidCodePoint rest

/-- Pass over a text whose opening quote has been read. -/
def skipText (s : Bytes) : Except Stop Bytes :=
  match s with
  | [] => stop .endOfText []
  | b :: rest =>
    if b = quoteByte then .ok rest
    else if b = escapeByte then
      match _taken : skipEscape rest with
      | .error e => .error e
      | .ok rest => skipText rest
    else if b < 32 then stop .controlCharacter (b :: rest)
    else skipText rest
termination_by s.length
decreasing_by
  · have := length_of_skipEscape _taken
    simp only [List.length_cons]; omega
  · simp

/-- A code point below the space is one byte. -/
theorem codePointBytes_of_lt : ∀ n < 32, codePointBytes n = [n.toUInt8] := by decide

/-- The digits of an escaped control spell it. -/
theorem readHex_hexByte {n : Nat} (h : n < 32) (rest : Bytes) :
    readHex (48 :: 48 :: hexByte (n / 16) :: hexByte (n % 16) :: rest) = .ok (n, rest) := by
  have hvalue : ∀ k < 16, hexValue? (hexByte k) = some k := by decide
  have hzero : hexValue? 48 = some 0 := by decide
  simp only [readHex, hzero, hvalue (n / 16) (by omega), hvalue (n % 16) (by omega)]
  congr 2
  omega

/-- Every escape that is written for a byte stands for this byte. -/
theorem readEscape_escaped {b e : UInt8} {tail : Bytes} (h : escaped b = escapeByte :: e :: tail)
    (rest : Bytes) : readEscape (e :: tail ++ rest) = .ok ([b], rest) := by
  unfold escaped at h
  split at h
  · cases h; subst_vars; rfl
  split at h
  · cases h; subst_vars; rfl
  split at h
  · split at h
    · cases h; subst_vars; rfl
    split at h
    · cases h; subst_vars; rfl
    split at h
    · cases h; subst_vars; rfl
    split at h
    · cases h; subst_vars; rfl
    split at h
    · cases h; subst_vars; rfl
    · rename_i hc _ _ _ _ _
      have hlt : b.toNat < 32 := by simpa using UInt8.lt_iff_toNat_lt.1 hc
      have hlow : isTrailingSurrogate b.toNat = false := by
        simp only [isTrailingSurrogate, Bool.and_eq_false_imp, decide_eq_true_eq]; omega
      have hhigh : isLeadingSurrogate b.toNat = false := by
        simp only [isLeadingSurrogate, Bool.and_eq_false_imp, decide_eq_true_eq]; omega
      cases h
      simp [readEscape, readHex_hexByte hlt, hlow, hhigh, codePointBytes_of_lt _ hlt]
  · cases h

/-- Every written byte is read back. -/
theorem readTextBytes_escaped (b : UInt8) (read rest : Bytes) :
    readTextBytes read (escaped b ++ rest) = readTextBytes (b :: read) rest := by
  by_cases hplain : b ≠ quoteByte ∧ b ≠ escapeByte ∧ ¬ b < 32
  · obtain ⟨hq, he, hc⟩ := hplain
    have : escaped b = [b] := by simp only [escaped, if_neg hq, if_neg he, if_neg hc]
    rw [this, List.singleton_append, readTextBytes, if_neg hq, if_neg he, if_neg hc]
  · obtain ⟨e, tail, h⟩ : ∃ e tail, escaped b = escapeByte :: e :: tail := by
      unfold escaped
      split
      · exact ⟨_, _, rfl⟩
      split
      · exact ⟨_, _, rfl⟩
      split
      · split
        · exact ⟨_, _, rfl⟩
        split
        · exact ⟨_, _, rfl⟩
        split
        · exact ⟨_, _, rfl⟩
        split
        · exact ⟨_, _, rfl⟩
        split
        · exact ⟨_, _, rfl⟩
        · exact ⟨_, _, rfl⟩
      · simp_all
    have hread := readEscape_escaped h rest
    rw [h, List.cons_append, readTextBytes, if_neg (by decide), if_pos rfl]
    split
    · rename_i hstop
      rw [hread] at hstop
      cases hstop
    · rename_i hok
      rw [hread] at hok
      cases hok
      rfl

/-- All written bytes are read back, up to the closing quote. -/
theorem readTextBytes_flatMap (bytes read rest : Bytes) :
    readTextBytes read (bytes.flatMap escaped ++ quoteByte :: rest)
      = .ok (read.reverse ++ bytes, rest) := by
  induction bytes generalizing read with
  | nil => rw [List.flatMap_nil, List.nil_append, readTextBytes, if_pos rfl, List.append_nil]
  | cons b bytes ih =>
    rw [List.flatMap_cons, List.append_assoc, readTextBytes_escaped, ih]
    simp

/-- Reading a written text gives it back, whatever follows. -/
theorem readText_writeText (text : String) (rest : Bytes) :
    readText ((writeText text).tail ++ rest) = .ok (text, rest) := by
  have h : (writeText text).tail ++ rest
      = (Text.Utf8.encode text).flatMap escaped ++ quoteByte :: rest := by
    simp [writeText]
  rw [h, readText, readTextBytes_flatMap]
  simp

end Courier.Json
