import Courier.Proofs.Json.Source

/-!
# Numbers are read as what they are written

A number is read as an integer just if it is one, without a fraction and an exponent
(`Literal.readNumber_bytes`, `Literal.integer?_of_readNumber`). However it is written, it is passed
over (`Literal.skipNumber_bytes`).
-/

namespace Courier.Json

variable {rest : Bytes}

/-! ## Digits -/

namespace Digits

/-- Digits begin with a digit. -/
theorem startsWithDigit_bytes (d : Digits) (rest : Bytes) :
    startsWithDigit (d.bytes ++ rest) = true := by
  obtain ⟨chars, hnonempty, hdigits⟩ := d
  cases chars with
  | nil => exact absurd rfl hnonempty
  | cons c cs => exact (digitByte_of_isDigit (hdigits c List.mem_cons_self)).1

/-- The bytes of digits are digits. -/
theorem isDigit_of_mem_bytes (d : Digits) {b : UInt8} (h : b ∈ d.bytes) : isDigit b = true := by
  obtain ⟨c, hc, rfl⟩ := List.mem_map.1 h
  exact (digitByte_of_isDigit (d.decimal c hc)).1

end Digits

/-- Digits are dropped, and nothing else is. -/
theorem dropDigits_append {digits : Bytes} (hdigits : ∀ b ∈ digits, isDigit b = true)
    (hrest : startsWithDigit rest = false) :
    dropDigits (digits ++ rest) = (digits.length, rest) := by
  have htake : rest.takeWhile isDigit = [] := by
    cases rest with
    | nil => rfl
    | cons b more => exact List.takeWhile_cons_of_neg (by simpa [startsWithDigit] using hrest)
  have hdrop : rest.dropWhile isDigit = rest := by
    cases rest with
    | nil => rfl
    | cons b more => exact List.dropWhile_cons_of_neg (by simpa [startsWithDigit] using hrest)
  rw [dropDigits, List.takeWhile_append_of_pos hdigits, List.dropWhile_append_of_pos hdigits, htake,
    hdrop, List.append_nil]

/-- Digits that a word does not hold are not all collected. -/
theorem collectDigits_overflow {digits : List Char} {start : Nat}
    (hdigits : ∀ c ∈ digits, c.isDigit = true) (hstart : start ≤ greatestWord)
    (hover : greatestWord < Nat.ofDigitChars 10 digits start) :
    startsWithDigit (collectDigits start (digits.map digitByte ++ rest)).2.2 = true := by
  induction digits generalizing start with
  | nil =>
    rw [Nat.ofDigitChars_nil] at hover
    omega
  | cons c digits ih =>
    obtain ⟨hdigit, hvalue⟩ := digitByte_of_isDigit (hdigits c List.mem_cons_self)
    have hmore : start * 10 + digitValue (digitByte c) = 10 * start + (c.toNat - '0'.toNat) := by
      rw [hvalue, Nat.mul_comm]
      rfl
    rw [Nat.ofDigitChars_cons] at hover
    rw [List.map_cons, List.cons_append, collectDigits]
    simp only [hmore, hdigit, Bool.true_and, decide_eq_true_eq]
    split
    · rename_i hfits
      exact ih (fun d hd => hdigits d (List.mem_cons_of_mem _ hd)) hfits hover
    · exact hdigit

/-! ## Numbers that are no integers -/

/-- Whatever is read is no integer. -/
def NoInteger (read : Read Number) : Prop := ∀ n after, read ≠ .ok (.integer n, after)

/-- Where reading stops there is no integer. -/
theorem noInteger_error (e : Stop) : NoInteger (.error e) := by
  rintro n after ⟨⟩

/-- A double is no integer. -/
theorem noInteger_float (x : Binary64) (rest : Bytes) : NoInteger (.ok (.float x, rest)) := by
  rintro n after ⟨⟩

/-- What is no integer either way is none. -/
theorem noInteger_ite {c : Prop} [Decidable c] {x y : Read Number} (hx : NoInteger x)
    (hy : NoInteger y) : NoInteger (if c then x else y) := by
  split
  · exact hx
  · exact hy

/-- The double of a word is no integer. -/
theorem noInteger_finishFloat (negative : Bool) (word : Nat) (exponent : Int) (rest : Bytes) :
    NoInteger (finishFloat negative word exponent rest) := by
  unfold finishFloat
  split
  · exact noInteger_float _ _
  · exact noInteger_error _

/-- A number with an exponent is no integer. -/
theorem noInteger_readExponent (negative : Bool) (word : Nat) (exponent : Int) (s : Bytes) :
    NoInteger (readExponent negative word exponent s) := by
  unfold readExponent
  dsimp only
  split
  · exact noInteger_error _
  · refine noInteger_ite (noInteger_error _) (noInteger_ite ?_ (noInteger_finishFloat _ _ _ _))
    exact noInteger_ite (noInteger_error _) (noInteger_float _ _)

/-- A number with a fraction is no integer. -/
theorem noInteger_readFraction (negative : Bool) (word : Nat) (exponent : Int) (s : Bytes) :
    NoInteger (readFraction negative word exponent s) := by
  have hlast (word : Nat) (exponent : Int) (s t : Bytes) : NoInteger
      (if startsExponent s then readExponent negative word exponent t
        else finishFloat negative word exponent s) :=
    noInteger_ite (noInteger_readExponent _ _ _ _) (noInteger_finishFloat _ _ _ _)
  unfold readFraction
  dsimp only
  refine noInteger_ite (hlast _ _ _ _) (noInteger_ite ?_ (hlast _ _ _ _))
  exact noInteger_ite (noInteger_error _) (noInteger_error _)

/-! ## Numbers -/

namespace Literal

variable {n : Literal}

/-- The whole digits of a number are a zero, or begin with another digit. -/
theorem whole_cases (n : Literal) :
    (n.whole.bytes = [48] ∧ n.whole.value = 0) ∨
      ∃ b more, n.whole.bytes = b :: more ∧ isDigit b = true ∧ b ≠ 48 := by
  rcases n.noLeadingZero with hzero | hfirst
  · refine .inl ⟨?_, ?_⟩
    · rw [Digits.bytes, hzero]
      decide
    · rw [Digits.value, hzero]
      decide
  · refine .inr ?_
    cases hchars : n.whole.chars with
    | nil => exact absurd hchars n.whole.nonempty
    | cons c cs =>
      rw [hchars] at hfirst
      have hdigit := n.whole.decimal c (hchars ▸ List.mem_cons_self)
      obtain ⟨hlow, hhigh⟩ := toNat_of_isDigit hdigit
      refine ⟨digitByte c, cs.map digitByte, by rw [Digits.bytes, hchars]; rfl,
        (digitByte_of_isDigit hdigit).1, fun hbyte => hfirst ?_⟩
      have hvalue := congrArg UInt8.toNat hbyte
      rw [digitByte, Nat.toUInt8_eq, UInt8.toNat_ofNat', Nat.mod_eq_of_lt (by omega)] at hvalue
      exact congrArg some (Char.ext (UInt32.toNat_inj.1 hvalue))

/-- A number that a word holds is read on behind its whole digits. -/
theorem readUnsigned_whole (n : Literal) (hfits : n.whole.value ≤ greatestWord) (negative : Bool)
    {tail : Bytes} (htail : startsWithDigit tail = false) :
    readUnsigned negative (n.whole.bytes ++ tail) = readAfterWhole negative n.whole.value tail := by
  have hcollected := collectDigits_digits n.whole.decimal hfits htail
  change collectDigits 0 (n.whole.bytes ++ tail) = (n.whole.value, _, tail) at hcollected
  rcases n.whole_cases with ⟨hbytes, hvalue⟩ | ⟨b, more, hbytes, hdigit, hzero⟩
  · rw [hbytes, hvalue, List.singleton_append, readUnsigned, if_pos rfl, htail]
    rfl
  · rw [hbytes, List.cons_append] at hcollected ⊢
    rw [readUnsigned, if_neg hzero, if_pos hdigit, hcollected]
    simp only [htail, Bool.false_eq_true, if_false]

/-- A number that no word holds is no integer to its reader. -/
theorem noInteger_readUnsigned (n : Literal) (hover : greatestWord < n.whole.value)
    (negative : Bool) (tail : Bytes) :
    NoInteger (readUnsigned negative (n.whole.bytes ++ tail)) := by
  have hcollected : startsWithDigit (collectDigits 0 (n.whole.bytes ++ tail)).2.2 = true :=
    collectDigits_overflow n.whole.decimal (Nat.zero_le _) hover
  rcases n.whole_cases with ⟨-, hvalue⟩ | ⟨b, more, hbytes, hdigit, hzero⟩
  · rw [hvalue] at hover
    exact absurd hover (by decide)
  · rw [hbytes, List.cons_append] at hcollected ⊢
    rw [readUnsigned, if_neg hzero, if_pos hdigit]
    simp only [hcollected, if_true]
    split
    · exact noInteger_readFraction _ _ _ _
    · exact noInteger_ite (noInteger_readExponent _ _ _ _) (noInteger_finishFloat _ _ _ _)

/-- The mark of an exponent is its first byte. -/
theorem exists_mark_cons (e : Exponent) :
    ∃ b, e.bytes = b :: e.bytes.tail ∧ (b = 69 ∨ b = 101) := by
  cases hcapital : e.capital with
  | true => exact ⟨69, by simp [Exponent.bytes, hcapital], .inl rfl⟩
  | false => exact ⟨101, by simp [Exponent.bytes, hcapital], .inr rfl⟩

/-- What stands behind the digits of a number is no digit and no point. -/
theorem exponentBytes_append (n : Literal) (hrest : EndsNumber rest) :
    startsWithDigit (n.exponentBytes ++ rest) = false ∧
      ∀ more, n.exponentBytes ++ rest ≠ 46 :: more := by
  cases hexponent : n.exponent with
  | none =>
    rw [exponentBytes, hexponent]
    exact ⟨hrest.digit, hrest.point⟩
  | some e =>
    obtain ⟨b, hbytes, hb⟩ := exists_mark_cons e
    rw [exponentBytes, hexponent, Option.elim_some, hbytes]
    rcases hb with rfl | rfl
    · exact ⟨rfl, fun more h => by cases h⟩
    · exact ⟨rfl, fun more h => by cases h⟩

/-- What stands behind the whole digits of a number is no digit. -/
theorem startsWithDigit_tail (n : Literal) (hrest : EndsNumber rest) :
    startsWithDigit (n.fractionBytes ++ n.exponentBytes ++ rest) = false := by
  cases hfraction : n.fraction with
  | some digits =>
    rw [fractionBytes, hfraction]
    rfl
  | none =>
    rw [fractionBytes, hfraction]
    exact (n.exponentBytes_append hrest).1

/-- Behind its whole digits a number is read as an integer just if nothing of it is left. -/
theorem readAfterWhole_tail (n : Literal) (hrest : EndsNumber rest) (negative : Bool) (word : Nat) :
    (n.fraction = none ∧ n.exponent = none ∧
      readAfterWhole negative word (n.fractionBytes ++ n.exponentBytes ++ rest) =
        .ok (.ofWord negative word, rest)) ∨
    ((n.fraction.isSome ∨ n.exponent.isSome) ∧
      NoInteger (readAfterWhole negative word (n.fractionBytes ++ n.exponentBytes ++ rest))) := by
  cases hfraction : n.fraction with
  | some digits =>
    refine .inr ⟨.inl rfl, ?_⟩
    rw [fractionBytes, hfraction]
    exact noInteger_readFraction _ _ _ _
  | none =>
    cases hexponent : n.exponent with
    | some e =>
      refine .inr ⟨.inr rfl, ?_⟩
      obtain ⟨b, hbytes, hb⟩ := exists_mark_cons e
      rw [fractionBytes, exponentBytes, hfraction, hexponent, Option.elim_none, Option.elim_some,
        List.nil_append, hbytes]
      rcases hb with rfl | rfl
      · exact noInteger_readExponent _ _ _ _
      · exact noInteger_readExponent _ _ _ _
    | none =>
      refine .inl ⟨rfl, rfl, ?_⟩
      rw [fractionBytes, exponentBytes, hfraction, hexponent]
      exact readAfterWhole_of_ends hrest negative word

/-- The bytes of a number behind its sign, with what follows them. -/
theorem unsignedBytes_append (n : Literal) (rest : Bytes) :
    n.unsignedBytes ++ rest =
      n.whole.bytes ++ (n.fractionBytes ++ n.exponentBytes ++ rest) := by
  rw [unsignedBytes, List.append_assoc]

/-- The sign of a number is read in front of its digits. -/
theorem readNumber_eq (n : Literal) (rest : Bytes) :
    readNumber (n.bytes ++ rest) = readUnsigned n.negative (n.unsignedBytes ++ rest) := by
  cases hnegative : n.negative with
  | true =>
    rw [bytes, hnegative]
    rfl
  | false =>
    rw [bytes, hnegative, if_neg Bool.false_ne_true, unsignedBytes_append]
    have hdigit := n.whole.startsWithDigit_bytes (n.fractionBytes ++ n.exponentBytes ++ rest)
    unfold readNumber
    split
    · rename_i hminus
      rw [hminus] at hdigit
      cases hdigit
    · rfl

/-- A number is an integer just if it has no fraction and no exponent, and is not minus zero. -/
theorem integer?_eq_some_iff (n : Literal) (z : Int) :
    n.integer? = some z ↔ n.fraction = none ∧ n.exponent = none ∧
      (n.negative = true → n.whole.value ≠ 0) ∧
        z = if n.negative then -(n.whole.value : Int) else n.whole.value := by
  cases hfraction : n.fraction with
  | some digits => simp [integer?, hfraction]
  | none =>
    cases hexponent : n.exponent with
    | some e => simp [integer?, hfraction, hexponent]
    | none =>
      cases hnegative : n.negative with
      | false => simp [integer?, hfraction, hexponent, hnegative, eq_comm]
      | true =>
        by_cases hzero : n.whole.value = 0
        · simp [integer?, hfraction, hexponent, hnegative, hzero]
        · simp [integer?, hfraction, hexponent, hnegative, hzero, eq_comm]

/-- A word with a sign is an integer if it is not minus zero, and not too far below zero. -/
theorem ofWord_eq_integer_iff (negative : Bool) (word : Nat) (z : Int) :
    Number.ofWord negative word = .integer z ↔ (negative = true → word ≠ 0 ∧ word ≤ Nat.pow 2 63) ∧
      z = if negative then -(word : Int) else word := by
  cases negative with
  | false => simp [Number.ofWord, eq_comm]
  | true =>
    have hfloat : (word = 0 || Nat.pow 2 63 < word) = true ↔ word = 0 ∨ Nat.pow 2 63 < word := by
      rw [Bool.or_eq_true, decide_eq_true_eq, decide_eq_true_eq]
    rw [Number.ofWord, Bool.not_true, if_neg Bool.false_ne_true]
    by_cases hword : word = 0 ∨ Nat.pow 2 63 < word
    · rw [if_pos (hfloat.2 hword)]
      refine iff_of_false (by rintro ⟨⟩) ?_
      rintro ⟨hfits, -⟩
      obtain ⟨hzero, hle⟩ := hfits rfl
      exact hword.elim hzero (Nat.not_lt.2 hle)
    · obtain ⟨hzero, hle⟩ := not_or.1 hword
      rw [if_neg (mt hfloat.1 hword), if_pos rfl, Number.integer.injEq, eq_comm]
      exact ⟨fun h => ⟨fun _ => ⟨hzero, Nat.not_lt.1 hle⟩, h⟩, And.right⟩

/-- An integer that a number is read as is the one that it is. -/
theorem integer?_of_readNumber (n : Literal) (hrest : EndsNumber rest) {z : Int} {after : Bytes}
    (h : readNumber (n.bytes ++ rest) = .ok (.integer z, after)) : n.integer? = some z := by
  rw [readNumber_eq, unsignedBytes_append] at h
  by_cases hfits : n.whole.value ≤ greatestWord
  · rw [n.readUnsigned_whole hfits _ (n.startsWithDigit_tail hrest)] at h
    rcases n.readAfterWhole_tail hrest n.negative n.whole.value with ⟨hf, he, hread⟩ | ⟨-, hno⟩
    · rw [hread] at h
      obtain ⟨hword, -⟩ := Prod.mk.inj (Except.ok.inj h)
      obtain ⟨hsign, hz⟩ := (ofWord_eq_integer_iff _ _ _).1 hword
      exact (n.integer?_eq_some_iff z).2 ⟨hf, he, fun h => (hsign h).1, hz⟩
    · exact absurd h (hno z after)
  · exact absurd h (n.noInteger_readUnsigned (Nat.lt_of_not_le hfits) _ _ z after)

/-- A number that is an integer, and not too large, is read as this integer. -/
theorem readNumber_bytes (n : Literal) (hrest : EndsNumber rest) {z : Int}
    (hz : n.integer? = some z) (hlow : Int64.minValue.toInt ≤ z) (hhigh : z ≤ greatestWord) :
    readNumber (n.bytes ++ rest) = .ok (.integer z, rest) := by
  have hleast : Int64.minValue.toInt = -9223372036854775808 := rfl
  have hgreatest : greatestWord = 18446744073709551615 := rfl
  obtain ⟨hf, he, hsign, hvalue⟩ := (n.integer?_eq_some_iff z).1 hz
  have hbound : n.whole.value ≤ greatestWord ∧
      (n.negative = true → n.whole.value ≤ Nat.pow 2 63) := by
    have hpow : Nat.pow 2 63 = 9223372036854775808 := rfl
    cases hnegative : n.negative with
    | false =>
      rw [hnegative, if_neg Bool.false_ne_true] at hvalue
      exact ⟨by omega, by simp⟩
    | true =>
      rw [hnegative, if_pos rfl] at hvalue
      exact ⟨by omega, fun _ => by omega⟩
  have hword : Number.ofWord n.negative n.whole.value = .integer z :=
    (ofWord_eq_integer_iff _ _ _).2 ⟨fun h => ⟨hsign h, hbound.2 h⟩, hvalue⟩
  rw [readNumber_eq, unsignedBytes_append,
    n.readUnsigned_whole hbound.1 _ (n.startsWithDigit_tail hrest), ← hword]
  rcases n.readAfterWhole_tail hrest n.negative n.whole.value with ⟨-, -, hread⟩ | ⟨hsome, -⟩
  · exact hread
  · rw [hf, he] at hsome
    simp at hsome

/-! ### Passing over numbers -/

/-- The sign of a number is passed over in front of its digits. -/
theorem skipNumber_eq (n : Literal) (rest : Bytes) :
    skipNumber (n.bytes ++ rest) = skipUnsigned (n.unsignedBytes ++ rest) := by
  cases hnegative : n.negative with
  | true =>
    rw [bytes, hnegative]
    rfl
  | false =>
    rw [bytes, hnegative, if_neg Bool.false_ne_true, unsignedBytes_append]
    have hdigit := n.whole.startsWithDigit_bytes (n.fractionBytes ++ n.exponentBytes ++ rest)
    unfold skipNumber
    split
    · rename_i hminus
      rw [hminus] at hdigit
      cases hdigit
    · rfl

/-- The whole digits of a number are passed over. -/
theorem skipUnsigned_whole (n : Literal) {tail : Bytes} (htail : startsWithDigit tail = false) :
    skipUnsigned (n.whole.bytes ++ tail) = skipAfterWhole tail := by
  rcases n.whole_cases with ⟨hbytes, -⟩ | ⟨b, more, hbytes, hdigit, hzero⟩
  · rw [hbytes, List.singleton_append, skipUnsigned, if_pos rfl, htail]
    rfl
  · have hmore : ∀ c ∈ more, isDigit c = true := fun c hc =>
      n.whole.isDigit_of_mem_bytes (hbytes ▸ List.mem_cons_of_mem _ hc)
    rw [hbytes, List.cons_append, skipUnsigned, if_neg hzero, if_pos hdigit,
      dropDigits_append hmore htail]

/-- An exponent is passed over. -/
theorem skipExponent_tail (e : Exponent) (hrest : EndsNumber rest) :
    skipExponent (e.bytes.tail ++ rest) = .ok rest := by
  have hdigits := e.digits.startsWithDigit_bytes rest
  have hdrop := dropDigits_append (fun _ => e.digits.isDigit_of_mem_bytes) hrest.digit
  have hunsigned : ∀ c more, e.digits.bytes ++ rest = c :: more → c ≠ 43 ∧ c ≠ 45 := by
    rintro c more heq
    rw [heq] at hdigits
    constructor
    · rintro rfl
      cases hdigits
    · rintro rfl
      cases hdigits
  cases hsign : e.sign with
  | none =>
    simp only [Exponent.bytes, hsign, Sign.bytes, List.tail_cons, List.nil_append]
    unfold skipExponent
    split
    · rename_i heq
      exact absurd rfl (hunsigned _ _ heq).1
    · rename_i heq
      exact absurd rfl (hunsigned _ _ heq).2
    · simp only [hdigits, if_true, hdrop]
  | plus =>
    simp only [Exponent.bytes, hsign, Sign.bytes, List.tail_cons, List.cons_append, List.nil_append,
      skipExponent, hdigits, if_true, hdrop]
  | minus =>
    simp only [Exponent.bytes, hsign, Sign.bytes, List.tail_cons, List.cons_append, List.nil_append,
      skipExponent, hdigits, if_true, hdrop]

/-- An exponent is passed over, if there is one. -/
theorem skipExponent_exponentBytes (n : Literal) (hrest : EndsNumber rest) :
    (if startsExponent (n.exponentBytes ++ rest) then skipExponent (n.exponentBytes ++ rest).tail
      else .ok (n.exponentBytes ++ rest)) = .ok rest := by
  cases hexponent : n.exponent with
  | none =>
    rw [exponentBytes, hexponent]
    exact if_neg (by simp [hrest.exponent])
  | some e =>
    have hmark : startsExponent (e.bytes ++ rest) = true := by
      obtain ⟨b, hbytes, hb⟩ := exists_mark_cons e
      rw [hbytes]
      rcases hb with rfl | rfl <;> rfl
    rw [exponentBytes, hexponent, Option.elim_some, if_pos hmark]
    exact skipExponent_tail e hrest

/-- The rest of a number behind its whole digits is passed over. -/
theorem skipAfterWhole_tail (n : Literal) (hrest : EndsNumber rest) :
    skipAfterWhole (n.fractionBytes ++ n.exponentBytes ++ rest) = .ok rest := by
  have hexponent := n.skipExponent_exponentBytes hrest
  obtain ⟨hdigit, hpoint⟩ := n.exponentBytes_append hrest
  cases hfraction : n.fraction with
  | some digits =>
    have hsome : digits.bytes.length ≠ 0 := by
      rw [Digits.bytes, List.length_map]
      exact fun h => digits.nonempty (List.length_eq_zero_iff.1 h)
    have hdrop := dropDigits_append (fun _ => digits.isDigit_of_mem_bytes) hdigit
    rw [fractionBytes, hfraction, Option.elim_some, List.cons_append, List.cons_append,
      List.append_assoc, skipAfterWhole, hdrop]
    simp only [if_neg hsome]
    exact hexponent
  | none =>
    rw [fractionBytes, hfraction, Option.elim_none, List.nil_append]
    unfold skipAfterWhole
    split
    · rename_i heq
      exact absurd heq (hpoint _)
    · exact hexponent

/-- A number is passed over, however it is written. -/
theorem skipNumber_bytes (n : Literal) (hrest : EndsNumber rest) :
    skipNumber (n.bytes ++ rest) = .ok rest := by
  rw [skipNumber_eq, unsignedBytes_append, n.skipUnsigned_whole (n.startsWithDigit_tail hrest),
    n.skipAfterWhole_tail hrest]

end Literal

end Courier.Json
