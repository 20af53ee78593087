import Courier.Json.Value

/-!
# Whole numbers are read back

A whole number is written in decimal. Inside a list or an object something follows it that ends it:
a comma, or a closing bracket. Its digits are then collected to the number that was written, as long
as sixty-four bits hold it (`readNumber_word`).
-/

namespace Courier.Json

/-- Whether some bytes begin as what stands behind a value does: with a comma or a closing
bracket. -/
def Closes : Bytes → Prop
  | [] => False
  | b :: _ => b = 44 ∨ b = 93 ∨ b = 125

variable {rest : Bytes}

/-- Whether a number that stands in front of some bytes has come to its end there. -/
structure EndsNumber (rest : Bytes) : Prop where
  digit : startsWithDigit rest = false
  exponent : startsExponent rest = false
  point : ∀ more, rest ≠ 46 :: more

/-- What ends a value is no digit, and does not go on with a number in any other way. -/
theorem Closes.ends_number (h : Closes rest) : EndsNumber rest := by
  cases rest with
  | nil => exact h.elim
  | cons b more =>
    rcases h with rfl | rfl | rfl
    · exact ⟨rfl, rfl, fun _ heq => by cases heq⟩
    · exact ⟨rfl, rfl, fun _ heq => by cases heq⟩
    · exact ⟨rfl, rfl, fun _ heq => by cases heq⟩

/-! ## Digits -/

/-- The byte of a digit. -/
def digitByte (c : Char) : UInt8 := c.toNat.toUInt8

/-- The bytes of a number in decimal. -/
def digitBytes (n : Nat) : Bytes := (Nat.toDigits 10 n).map digitByte

/-- The bytes of a digit are those of ASCII. -/
theorem toNat_of_isDigit {c : Char} (h : c.isDigit = true) : 48 ≤ c.toNat ∧ c.toNat ≤ 57 := by
  simp only [Char.isDigit, Bool.and_eq_true, decide_eq_true_eq] at h
  exact ⟨UInt32.le_iff_toNat_le.1 h.1, UInt32.le_iff_toNat_le.1 h.2⟩

/-- The byte of a digit is one of a digit, and has its value. -/
theorem digitByte_of_isDigit {c : Char} (h : c.isDigit = true) :
    isDigit (digitByte c) = true ∧ digitValue (digitByte c) = c.toNat - 48 := by
  obtain ⟨hlow, hhigh⟩ := toNat_of_isDigit h
  have hbyte : (digitByte c).toNat = c.toNat := by
    rw [digitByte, Nat.toUInt8_eq, UInt8.toNat_ofNat', Nat.mod_eq_of_lt (by omega)]
  constructor
  · simp only [isDigit, Bool.and_eq_true, decide_eq_true_eq, UInt8.le_iff_toNat_le, hbyte]
    exact ⟨hlow, hhigh⟩
  · rw [digitValue, hbyte]

/-- The bytes of a number in decimal are those of its digits. -/
theorem word_toString (n : Nat) : word (toString n) = digitBytes n := by
  rw [word, Nat.toString_eq_ofList_toDigits, Text.Utf8.encode_ofList]
  · rfl
  · intro c hc
    have hdigit := toNat_of_isDigit (Nat.isDigit_of_mem_toDigits (by decide) (by decide) hc)
    omega

/-- Only zero begins with a zero. -/
theorem exists_digitBytes_cons {n : Nat} (h : 0 < n) :
    ∃ b more, digitBytes n = b :: more ∧ isDigit b = true ∧ b ≠ 48 := by
  induction n using Nat.strongRecOn with
  | ind n ih =>
    by_cases hsmall : n < 10
    · have hdigit : ∀ n < 10, 0 < n →
          isDigit (digitByte n.digitChar) = true ∧ digitByte n.digitChar ≠ 48 := by decide
      rw [digitBytes, Nat.toDigits_of_lt_base hsmall]
      exact ⟨digitByte n.digitChar, [], rfl, hdigit n hsmall h⟩
    · obtain ⟨b, more, hbytes, hb⟩ := ih (n / 10) (by omega) (by omega)
      rw [digitBytes] at hbytes
      rw [digitBytes, Nat.toDigits_of_base_le (by decide) (by omega), List.map_append, hbytes]
      exact ⟨b, more ++ [n % 10].map fun d => digitByte d.digitChar, rfl, hb⟩

/-- A number in decimal begins with a digit. -/
theorem exists_isDigit (n : Nat) : ∃ b more, digitBytes n = b :: more ∧ isDigit b = true := by
  rcases Nat.eq_zero_or_pos n with rfl | hpos
  · exact ⟨48, [], by decide, rfl⟩
  · obtain ⟨b, more, hbytes, hb, -⟩ := exists_digitBytes_cons hpos
    exact ⟨b, more, hbytes, hb⟩

/-- More digits never make a number smaller. -/
theorem le_ofDigitChars (digits : List Char) (start : Nat) :
    start ≤ Nat.ofDigitChars 10 digits start := by
  induction digits generalizing start with
  | nil => exact Nat.le_refl _
  | cons c digits ih =>
    rw [Nat.ofDigitChars_cons]
    exact Nat.le_trans (by omega) (ih _)

/-- Digits are collected as long as a word holds them. -/
theorem collectDigits_digits {digits : List Char} {start : Nat}
    (hdigits : ∀ c ∈ digits, c.isDigit = true)
    (hfits : Nat.ofDigitChars 10 digits start ≤ greatestWord)
    (hrest : startsWithDigit rest = false) :
    collectDigits start (digits.map digitByte ++ rest) =
      (Nat.ofDigitChars 10 digits start, digits.length, rest) := by
  induction digits generalizing start with
  | nil =>
    cases rest with
    | nil => rfl
    | cons b more =>
      have hother : isDigit b = false := hrest
      simp [collectDigits, hother, Nat.ofDigitChars]
  | cons c digits ih =>
    obtain ⟨hdigit, hvalue⟩ := digitByte_of_isDigit (hdigits c List.mem_cons_self)
    have hmore : start * 10 + digitValue (digitByte c) = 10 * start + (c.toNat - '0'.toNat) := by
      rw [hvalue, Nat.mul_comm]
      rfl
    rw [Nat.ofDigitChars_cons] at hfits ⊢
    have hle : 10 * start + (c.toNat - '0'.toNat) ≤ greatestWord :=
      Nat.le_trans (le_ofDigitChars _ _) hfits
    have hcollected := ih (fun d hd => hdigits d (List.mem_cons_of_mem _ hd)) hfits
    rw [List.map_cons, List.cons_append, collectDigits]
    simp only [hmore, hdigit, hle, decide_true, Bool.and_self, if_true, hcollected,
      List.length_cons]

/-! ## Numbers -/

/-- Behind its whole digits a number has ended. -/
theorem readAfterWhole_of_ends (h : EndsNumber rest) (negative : Bool) (n : Nat) :
    readAfterWhole negative n rest = .ok (.ofWord negative n, rest) := by
  obtain ⟨-, hexponent, hpoint⟩ := h
  unfold readAfterWhole
  split
  · exact absurd rfl (hpoint _)
  · rw [hexponent]
    rfl

/-- A number that a word holds is read back from its digits. -/
theorem readUnsigned_digitBytes (h : Closes rest) (negative : Bool) {n : Nat}
    (hn : n ≤ greatestWord) :
    readUnsigned negative (digitBytes n ++ rest) = .ok (.ofWord negative n, rest) := by
  obtain ⟨hdigit, -, -⟩ := h.ends_number
  rcases Nat.eq_zero_or_pos n with rfl | hpos
  · have hzero : digitBytes 0 = [48] := by decide
    rw [hzero, List.singleton_append, readUnsigned, if_pos rfl, hdigit]
    exact readAfterWhole_of_ends h.ends_number negative 0
  · obtain ⟨b, more, hbytes, hb, hfirst⟩ := exists_digitBytes_cons hpos
    have hcollected : collectDigits 0 (digitBytes n ++ rest) =
        (n, (Nat.toDigits 10 n).length, rest) := by
      have hvalue : Nat.ofDigitChars 10 (Nat.toDigits 10 n) 0 = n := Nat.ofDigitChars_ten_toDigits
      rw [digitBytes, collectDigits_digits _ (hvalue.symm ▸ hn) hdigit, hvalue]
      exact fun c hc => Nat.isDigit_of_mem_toDigits (by decide) (by decide) hc
    rw [hbytes, List.cons_append] at hcollected ⊢
    rw [readUnsigned, if_neg hfirst, if_pos hb, hcollected]
    simp only [hdigit, Bool.false_eq_true, if_false]
    exact readAfterWhole_of_ends h.ends_number negative n

/-- A number begins with a digit, or with a minus sign in front of digits. -/
theorem word_toString_int (n : Int) :
    (0 ≤ n ∧ word (toString n) = digitBytes n.natAbs) ∨
      (n < 0 ∧ word (toString n) = 45 :: digitBytes n.natAbs) := by
  cases n with
  | ofNat n => exact Or.inl ⟨Int.natCast_nonneg n, word_toString n⟩
  | negSucc n =>
    have hsign : word "-" = [45] := by decide
    refine Or.inr ⟨Int.negSucc_lt_zero n, ?_⟩
    have hdigits := word_toString (n + 1)
    change word ("-" ++ toString (n + 1)) = _
    rw [word] at hsign hdigits
    rw [word, Text.Utf8.encode_append, hsign, hdigits]
    rfl

/-- A number is recognised by its first byte. -/
theorem exists_word_cons (n : Int) :
    ∃ b more, word (toString n) = b :: more ∧ startsNumber b = true := by
  rcases word_toString_int n with ⟨-, hword⟩ | ⟨-, hword⟩
  · obtain ⟨b, more, hbytes, hb⟩ := exists_isDigit n.natAbs
    exact ⟨b, more, hword.trans hbytes, by rw [startsNumber, hb, Bool.or_true]⟩
  · exact ⟨45, _, hword, rfl⟩

/-- A number that sixty-four bits hold is read back. -/
theorem readNumber_word (h : Closes rest) {n : Int} (hlow : Int64.minValue.toInt ≤ n)
    (hhigh : n ≤ greatestWord) :
    readNumber (word (toString n) ++ rest) = .ok (.integer n, rest) := by
  have hleast : Int64.minValue.toInt = -9223372036854775808 := rfl
  have hgreatest : greatestWord = 18446744073709551615 := rfl
  rcases word_toString_int n with ⟨hsign, hword⟩ | ⟨hsign, hword⟩
  · have hn : n.natAbs ≤ greatestWord := by omega
    have hread := readUnsigned_digitBytes h false hn
    have hwhole : Number.ofWord false n.natAbs = .integer n := by
      rw [Number.ofWord, Bool.not_false, if_pos rfl, Int.natAbs_of_nonneg hsign]
    obtain ⟨b, more, hbytes, hb⟩ := exists_isDigit n.natAbs
    have hsigned : b ≠ 45 := by
      rintro rfl
      cases hb
    rw [hword]
    rw [hbytes, List.cons_append] at hread ⊢
    unfold readNumber
    split
    · rename_i heq
      exact absurd (List.cons.inj heq).1 hsigned
    · rw [hread, hwhole]
  · have hn : n.natAbs ≤ greatestWord := by omega
    have hwhole : Number.ofWord true n.natAbs = .integer n := by
      have hzero : n.natAbs ≠ 0 := by omega
      have hfits : ¬Nat.pow 2 63 < n.natAbs := by
        have hpow : Nat.pow 2 63 = 9223372036854775808 := rfl
        omega
      simp only [Number.ofWord, Bool.not_true, Bool.false_eq_true, if_false, hzero, hfits,
        decide_false, Bool.or_self]
      congr 1
      omega
    rw [hword, List.cons_append, readNumber, readUnsigned_digitBytes h true hn, hwhole]

end Courier.Json
