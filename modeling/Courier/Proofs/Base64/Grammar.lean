import Courier.Proofs.Base64.Canonical

/-!
# Which texts are base64

The form of a text by itself, without the bytes that it stands for: characters of the alphabet in
groups of four, and at most the last group filled up with padding (`IsCanonical`). Just these texts
are written, and just these are read (`exists_decode_iff`).
-/

namespace Courier

namespace Base64

/-- The alphabet, in the order of the six bits that its characters stand for. -/
def alphabet : List Char :=
  "ABCDEFGHIJKLMNOPQRSTUVWXYZabcdefghijklmnopqrstuvwxyz0123456789+/".toList

/-- The texts in groups of four characters. Padding stands in the last group alone, behind two or
three characters, and the bits in front of it that belong to no byte are zero: four of them behind
one byte, and two behind two bytes. -/
inductive IsCanonical : List Char → Prop where
  | empty : IsCanonical []
  | oneByte {a b : Char} (ha : a ∈ alphabet) (hb : b ∈ alphabet)
      (hbits : alphabet.idxOf b % 16 = 0) : IsCanonical [a, b, '=', '=']
  | twoBytes {a b c : Char} (ha : a ∈ alphabet) (hb : b ∈ alphabet) (hc : c ∈ alphabet)
      (hbits : alphabet.idxOf c % 4 = 0) : IsCanonical [a, b, c, '=']
  | group {a b c d : Char} {rest : List Char} (ha : a ∈ alphabet) (hb : b ∈ alphabet)
      (hc : c ∈ alphabet) (hd : d ∈ alphabet) (hrest : IsCanonical rest) :
      IsCanonical (a :: b :: c :: d :: rest)

/-! ## Characters -/

/-- The character that a byte of ASCII stands for. -/
def charOf (b : UInt8) : Char := Char.ofNat b.toNat

/-- The alphabet lists the symbols of all six bits. -/
theorem alphabet_eq : alphabet = (List.range 64).map fun n => charOf (symbolOf n) := by
  decide +kernel

/-- A character is in the alphabet just if it is the symbol of some six bits. -/
theorem mem_alphabet_iff (c : Char) : c ∈ alphabet ↔ ∃ n < 64, c = charOf (symbolOf n) := by
  simp only [alphabet_eq, List.mem_map, List.mem_range, eq_comm]

/-- The place of a symbol in the alphabet are its six bits. -/
theorem idxOf_symbolOf : ∀ n < 64, alphabet.idxOf (charOf (symbolOf n)) = n := by
  decide +kernel

/-- Symbols are characters of the alphabet. -/
theorem symbol_mem_alphabet {n : Nat} (h : n < 64) : charOf (symbolOf n) ∈ alphabet :=
  (mem_alphabet_iff _).2 ⟨n, h, rfl⟩

/-! ## Texts -/

/-- What is written is in groups of four characters. -/
theorem isCanonical_encodeBytes (bytes : Bytes) :
    IsCanonical ((encodeBytes bytes).map charOf) := by
  induction bytes using encodeBytes.induct with
  | case1 a b c rest ih =>
    have ha := a.toNat_lt
    have hb := b.toNat_lt
    have hc := c.toNat_lt
    exact .group (symbol_mem_alphabet (by omega)) (symbol_mem_alphabet (by omega))
      (symbol_mem_alphabet (by omega)) (symbol_mem_alphabet (by omega)) ih
  | case2 a b =>
    have ha := a.toNat_lt
    have hb := b.toNat_lt
    have hthird : b.toNat % 16 * 4 < 64 := by omega
    refine .twoBytes (symbol_mem_alphabet (by omega)) (symbol_mem_alphabet (by omega))
      (symbol_mem_alphabet hthird) ?_
    rw [idxOf_symbolOf _ hthird]
    omega
  | case3 a =>
    have ha := a.toNat_lt
    have hsecond : a.toNat % 4 * 16 < 64 := by omega
    refine .oneByte (symbol_mem_alphabet (by omega)) (symbol_mem_alphabet hsecond) ?_
    rw [idxOf_symbolOf _ hsecond]
    omega
  | case4 => exact .empty

/-- What is in groups of four characters is what some bytes are written as. -/
theorem IsCanonical.exists_encodeBytes {chars : List Char} (h : IsCanonical chars) :
    ∃ bytes, (encodeBytes bytes).map charOf = chars := by
  induction h with
  | empty => exact ⟨[], rfl⟩
  | oneByte ha hb hbits =>
    obtain ⟨p, hp, rfl⟩ := (mem_alphabet_iff _).1 ha
    obtain ⟨q, hq, rfl⟩ := (mem_alphabet_iff _).1 hb
    rw [idxOf_symbolOf q hq] at hbits
    exact ⟨_, congrArg (List.map charOf) (encodeBytes_take_one hp hq hbits)⟩
  | twoBytes ha hb hc hbits =>
    obtain ⟨p, hp, rfl⟩ := (mem_alphabet_iff _).1 ha
    obtain ⟨q, hq, rfl⟩ := (mem_alphabet_iff _).1 hb
    obtain ⟨r, hr, rfl⟩ := (mem_alphabet_iff _).1 hc
    rw [idxOf_symbolOf r hr] at hbits
    exact ⟨_, congrArg (List.map charOf) (encodeBytes_take_two hp hq hr hbits)⟩
  | group ha hb hc hd _ ih =>
    obtain ⟨p, hp, rfl⟩ := (mem_alphabet_iff _).1 ha
    obtain ⟨q, hq, rfl⟩ := (mem_alphabet_iff _).1 hb
    obtain ⟨r, hr, rfl⟩ := (mem_alphabet_iff _).1 hc
    obtain ⟨s, hs, rfl⟩ := (mem_alphabet_iff _).1 hd
    obtain ⟨more, rfl⟩ := ih
    exact ⟨_, congrArg (List.map charOf) (encodeBytes_bytesOf_append hp hq hr hs more)⟩

/-- A text can be decoded just if it is in groups of four characters. -/
theorem exists_decode_iff (text : String) :
    (∃ bytes, decode text = .ok bytes) ↔ IsCanonical text.toList := by
  simp only [decode_eq_ok_iff]
  constructor
  · rintro ⟨bytes, rfl⟩
    rw [encode, String.toList_ofList]
    exact isCanonical_encodeBytes bytes
  · intro h
    obtain ⟨bytes, hbytes⟩ := h.exists_encodeBytes
    exact ⟨bytes, String.toList_inj.1 (by rw [encode, String.toList_ofList]; exact hbytes.symm)⟩

end Base64

end Courier
