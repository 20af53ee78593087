import Courier.Base64

/-!
# The one text of a byte string

Decoding accepts just what encoding produces, so a byte string has one text and a text has at most
one byte string (`decode_eq_ok_iff`). Most of a text is groups of four symbols, which stand for
three bytes each. The last group may be filled up with padding, and then the bits of its last symbol
that belong to no byte are zero.
-/

namespace Courier

/-- What two readings give one after the other is what the second gives behind the first. -/
theorem bind_eq_ok_iff {ε α β : Type} {first : Except ε α} {second : α → Except ε β} {b : β} :
    first >>= second = .ok b ↔ ∃ a, first = .ok a ∧ second a = .ok b := by
  cases first with
  | error e =>
    constructor
    · intro h
      cases h
    · rintro ⟨a, h, -⟩
      cases h
  | ok a =>
    constructor
    · exact fun h => ⟨a, rfl, h⟩
    · rintro ⟨_, ha, h⟩
      cases ha
      exact h

/-- What is read stays read, whatever becomes of the fault that there might be instead. -/
theorem mapError_eq_ok_iff {ε φ α : Type} {x : Except ε α} {f : ε → φ} {a : α} :
    x.mapError f = .ok a ↔ x = .ok a := by
  cases x with
  | error fault => exact iff_of_false (by rintro ⟨⟩) (by rintro ⟨⟩)
  | ok b =>
    change Except.ok b = _ ↔ _
    rw [Except.ok.injEq, Except.ok.injEq]

/-- Where there is a fault it comes from one. -/
theorem exists_of_mapError_eq_error {ε φ α : Type} {x : Except ε α} {f : ε → φ} {fault : φ}
    (h : x.mapError f = .error fault) : ∃ cause, x = .error cause ∧ f cause = fault := by
  cases x with
  | error cause => exact ⟨cause, rfl, Except.error.inj h⟩
  | ok b => cases h

namespace Base64

/-! ## Symbols -/

/-- Every byte of the alphabet is the symbol of its six bits. -/
theorem all_valueOf? :
    ∀ n < 256, (valueOf? n.toUInt8).all fun k => k < 64 && symbolOf k == n.toUInt8 := by
  decide +kernel

/-- A byte stands for six bits just where it is their symbol. -/
theorem valueOf?_eq_some_iff (b : UInt8) (n : Nat) :
    valueOf? b = some n ↔ n < 64 ∧ b = symbolOf n := by
  constructor
  · intro h
    have hall := all_valueOf? b.toNat b.toNat_lt
    rw [Nat.toUInt8_eq, UInt8.ofNat_toNat, h, Option.all_some, Bool.and_eq_true, decide_eq_true_eq,
      beq_iff_eq] at hall
    exact ⟨hall.1, hall.2.symm⟩
  · rintro ⟨hn, rfl⟩
    exact valueOf?_symbolOf n hn

/-- Reading a symbol gives its six bits. -/
theorem symbolAt_eq_ok_iff (offset : Nat) (b : UInt8) (n : Nat) :
    symbolAt offset b = .ok n ↔ n < 64 ∧ b = symbolOf n := by
  rw [← valueOf?_eq_some_iff, symbolAt]
  split <;> simp [*]

/-- No six bits are written as padding. -/
theorem symbolOf_ne_pad {n : Nat} (h : n < 64) : symbolOf n ≠ pad := by
  intro heq
  have hnone := valueOf?_pad
  rw [← heq, valueOf?_symbolOf n h] at hnone
  cases hnone

/-! ## Groups -/

/-- The four times six bits of three bytes make these bytes. -/
theorem bytesOf_sextets (a b c : UInt8) :
    bytesOf (a.toNat / 4) (a.toNat % 4 * 16 + b.toNat / 16) (b.toNat % 16 * 4 + c.toNat / 64)
      (c.toNat % 64) = [a, b, c] := by
  have ha := a.toNat_lt
  have hb := b.toNat_lt
  have hc := c.toNat_lt
  simp only [bytesOf, List.cons.injEq, ← UInt8.toNat_inj, Nat.toUInt8_eq, UInt8.toNat_ofNat',
    and_true]
  omega

/-- Three bytes hold all bits of four symbols. -/
theorem exists_bytesOf_eq {p q r s : Nat} (hp : p < 64) (hq : q < 64) (hr : r < 64) (hs : s < 64) :
    ∃ a b c, bytesOf p q r s = [a, b, c] ∧ a.toNat = p * 4 + q / 16 ∧
      b.toNat = q % 16 * 16 + r / 4 ∧ c.toNat = r % 4 * 64 + s := by
  refine ⟨_, _, _, rfl, ?_, ?_, ?_⟩
  · rw [Nat.toUInt8_eq, UInt8.toNat_ofNat']
    omega
  · rw [Nat.toUInt8_eq, UInt8.toNat_ofNat']
    omega
  · rw [Nat.toUInt8_eq, UInt8.toNat_ofNat']
    omega

/-- The symbols of three bytes are the four that these were made of. -/
theorem encodeBytes_bytesOf_append {p q r s : Nat} (hp : p < 64) (hq : q < 64) (hr : r < 64)
    (hs : s < 64) (more : Bytes) :
    encodeBytes (bytesOf p q r s ++ more) =
      symbolOf p :: symbolOf q :: symbolOf r :: symbolOf s :: encodeBytes more := by
  obtain ⟨a, b, c, hbytes, ha, hb, hc⟩ := exists_bytesOf_eq hp hq hr hs
  have hfirst : a.toNat / 4 = p := by omega
  have hsecond : a.toNat % 4 * 16 + b.toNat / 16 = q := by omega
  have hthird : b.toNat % 16 * 4 + c.toNat / 64 = r := by omega
  have hfourth : c.toNat % 64 = s := by omega
  rw [hbytes]
  simp only [List.cons_append, List.nil_append, encodeBytes, hfirst, hsecond, hthird, hfourth]

/-- The symbols of two bytes are the three that these were made of, and padding. -/
theorem encodeBytes_take_two {p q r : Nat} (hp : p < 64) (hq : q < 64) (hr : r < 64)
    (hrest : r % 4 = 0) :
    encodeBytes ((bytesOf p q r 0).take 2) = [symbolOf p, symbolOf q, symbolOf r, pad] := by
  obtain ⟨a, b, c, hbytes, ha, hb, -⟩ := exists_bytesOf_eq hp hq hr (by decide : 0 < 64)
  have hfirst : a.toNat / 4 = p := by omega
  have hsecond : a.toNat % 4 * 16 + b.toNat / 16 = q := by omega
  have hthird : b.toNat % 16 * 4 = r := by omega
  rw [hbytes]
  simp only [List.take_succ_cons, List.take_zero, encodeBytes, hfirst, hsecond, hthird]

/-- The symbols of one byte are the two that it was made of, and padding. -/
theorem encodeBytes_take_one {p q : Nat} (hp : p < 64) (hq : q < 64) (hrest : q % 16 = 0) :
    encodeBytes ((bytesOf p q 0 0).take 1) = [symbolOf p, symbolOf q, pad, pad] := by
  obtain ⟨a, b, c, hbytes, ha, -⟩ := exists_bytesOf_eq hp hq (by decide : 0 < 64)
    (by decide : 0 < 64)
  have hfirst : a.toNat / 4 = p := by omega
  have hsecond : a.toNat % 4 * 16 = q := by omega
  rw [hbytes]
  simp only [List.take_succ_cons, List.take_zero, encodeBytes, hfirst, hsecond]

/-! ## The last group -/

/-- Behind padding only padding is accepted, and not before the third place. -/
theorem lastSymbols_pad_eq_ok_iff (offset index : Nat) (rest : Bytes) (values : List Nat)
    (pads : Nat) :
    lastSymbols offset index (pad :: rest) = .ok (values, pads) ↔
      2 ≤ index ∧ values = [] ∧ pad :: rest = List.replicate pads pad := by
  have hall : rest.all (· == pad) = true ↔ rest = List.replicate rest.length pad := by
    simp [List.eq_replicate_iff]
  rw [lastSymbols, if_pos rfl]
  constructor
  · intro h
    split at h
    · cases h
    split at h
    · rename_i hindex hpads
      cases h
      exact ⟨Nat.not_lt.1 hindex, rfl, congrArg (pad :: ·) (hall.1 hpads)⟩
    · cases h
  · rintro ⟨hindex, rfl, hpads⟩
    have hlength : rest.length + 1 = pads := by simpa using congrArg List.length hpads
    subst hlength
    rw [if_neg (Nat.not_lt.2 hindex), if_pos (hall.2 (List.cons.inj hpads).2)]

/-- What is no padding is a symbol in front of the others. -/
theorem lastSymbols_cons_eq_ok_iff {offset index : Nat} {b : UInt8} (hb : b ≠ pad) (rest : Bytes)
    (values : List Nat) (pads : Nat) :
    lastSymbols offset index (b :: rest) = .ok (values, pads) ↔
      ∃ n more, values = n :: more ∧ n < 64 ∧ b = symbolOf n ∧
        lastSymbols offset (index + 1) rest = .ok (more, pads) := by
  rw [lastSymbols, if_neg hb]
  constructor
  · intro h
    cases hsymbol : symbolAt (offset + index) b with
    | error fault =>
      rw [hsymbol] at h
      cases h
    | ok n =>
      cases hrest : lastSymbols offset (index + 1) rest with
      | error fault =>
        rw [hsymbol, hrest] at h
        cases h
      | ok read =>
        rw [hsymbol, hrest] at h
        cases h
        obtain ⟨hn, hb⟩ := (symbolAt_eq_ok_iff _ _ _).1 hsymbol
        exact ⟨n, read.1, rfl, hn, hb, rfl⟩
  · rintro ⟨n, more, rfl, hn, hb, hrest⟩
    rw [(symbolAt_eq_ok_iff _ _ _).2 ⟨hn, hb⟩, hrest]
    rfl

/-- The last group consists of symbols and then of padding, which does not come before the third
place. -/
theorem lastSymbols_eq_ok_iff (offset index : Nat) (group : Bytes) (values : List Nat)
    (pads : Nat) :
    lastSymbols offset index group = .ok (values, pads) ↔
      (∀ n ∈ values, n < 64) ∧ group = values.map symbolOf ++ List.replicate pads pad ∧
        (0 < pads → 2 ≤ index + values.length) := by
  induction group generalizing index values pads with
  | nil =>
    rw [lastSymbols]
    constructor
    · intro h
      cases h
      simp
    · rintro ⟨-, hgroup, -⟩
      obtain ⟨hvalues, hpads⟩ := List.append_eq_nil_iff.1 hgroup.symm
      obtain rfl := List.map_eq_nil_iff.1 hvalues
      obtain rfl := (List.replicate_eq_nil_iff pad).1 hpads
      rfl
  | cons b rest ih =>
    by_cases hb : b = pad
    · subst hb
      rw [lastSymbols_pad_eq_ok_iff]
      constructor
      · rintro ⟨hindex, rfl, hpads⟩
        exact ⟨by simp, by simpa using hpads, fun _ => by simpa using hindex⟩
      · rintro ⟨hsmall, hgroup, hpads⟩
        cases values with
        | nil =>
          have hpos : 0 < pads := by
            cases pads with
            | zero => cases hgroup
            | succ k => exact Nat.succ_pos k
          exact ⟨by simpa using hpads hpos, rfl, by simpa using hgroup⟩
        | cons n more =>
          exact absurd (List.cons.inj hgroup).1.symm (symbolOf_ne_pad (hsmall n List.mem_cons_self))
    · rw [lastSymbols_cons_eq_ok_iff hb]
      constructor
      · rintro ⟨n, more, rfl, hn, rfl, hrest⟩
        obtain ⟨hsmall, rfl, hpads⟩ := (ih _ _ _).1 hrest
        refine ⟨List.forall_mem_cons.2 ⟨hn, hsmall⟩, rfl, fun hpos => ?_⟩
        have hle := hpads hpos
        rw [List.length_cons]
        omega
      · rintro ⟨hsmall, hgroup, hpads⟩
        cases values with
        | nil =>
          cases pads with
          | zero => cases hgroup
          | succ k => exact absurd (List.cons.inj hgroup).1 hb
        | cons n more =>
          obtain ⟨hbn, hrest⟩ := List.cons.inj hgroup
          obtain ⟨hn, hmore⟩ := List.forall_mem_cons.1 hsmall
          refine ⟨n, more, rfl, hn, hbn, (ih _ _ _).2 ⟨hmore, hrest, fun hpos => ?_⟩⟩
          have hle := hpads hpos
          rw [List.length_cons] at hle
          omega

/-- The bytes of a last group are those whose text it is. -/
theorem encodeBytes_of_decodeLast {offset : Nat} {group bytes : Bytes} (hgroup : group.length ≤ 4)
    (h : decodeLast offset group = .ok bytes) : encodeBytes bytes = group := by
  unfold decodeLast at h
  cases hlast : lastSymbols offset 0 group with
  | error fault =>
    rw [hlast] at h
    cases h
  | ok read =>
    obtain ⟨values, pads⟩ := read
    obtain ⟨hsmall, rfl, hpads⟩ := (lastSymbols_eq_ok_iff _ _ _ _ _).1 hlast
    rw [hlast] at h
    simp only [bind, Except.bind] at h
    rw [List.length_append, List.length_map, List.length_replicate] at hgroup
    split at h
    · split at h
      · rename_i hempty
        cases h
        exact (List.isEmpty_iff.1 hempty).symm
      · cases h
    · cases h
    · split at h
      · cases h
      rename_i hfull
      -- Together with the padding there are four symbols.
      have hpadded : values.length + pads = 4 ∨ values.length + pads = 0 := by omega
      split at h
      · rename_i p q r s
        obtain rfl : pads = 0 := by simpa using hpadded
        obtain ⟨hp, hq, hr, hs, -⟩ := by simpa only [List.forall_mem_cons] using hsmall
        cases h
        have hwhole := encodeBytes_bytesOf_append hp hq hr hs []
        rwa [List.append_nil] at hwhole
      · rename_i p q r
        obtain rfl : pads = 1 := by simp at hpadded; omega
        obtain ⟨hp, hq, hr, -⟩ := by simpa only [List.forall_mem_cons] using hsmall
        split at h <;> cases h
        exact encodeBytes_take_two hp hq hr (Decidable.not_not.1 ‹_›)
      · rename_i p q
        obtain rfl : pads = 2 := by simp at hpadded; omega
        obtain ⟨hp, hq, -⟩ := by simpa only [List.forall_mem_cons] using hsmall
        split at h <;> cases h
        exact encodeBytes_take_one hp hq (Decidable.not_not.1 ‹_›)
      · cases h

/-- The text of at most three bytes is decoded as a last group. -/
theorem decodeLast_encodeBytes (offset : Nat) {bytes : Bytes} (hbytes : bytes.length ≤ 3) :
    decodeLast offset (encodeBytes bytes) = .ok bytes := by
  have hread {group : Bytes} {values : List Nat} {pads : Nat}
      (hgroup : group = values.map symbolOf ++ List.replicate pads pad)
      (hsmall : ∀ n ∈ values, n < 64) (hpads : 0 < pads → 2 ≤ values.length) :
      lastSymbols offset 0 group = .ok (values, pads) :=
    (lastSymbols_eq_ok_iff _ _ _ _ _).2 ⟨hsmall, hgroup, by simpa using hpads⟩
  match bytes, hbytes with
  | [], _ => rfl
  | [a], _ =>
    have ha := a.toNat_lt
    have hlast : lastSymbols offset 0 (encodeBytes [a]) =
        .ok ([a.toNat / 4, a.toNat % 4 * 16], 2) := by
      refine hread rfl ?_ fun _ => Nat.le_refl 2
      simp only [List.forall_mem_cons]
      exact ⟨by omega, by omega, by simp⟩
    have hzero : a.toNat % 4 * 16 % 16 = 0 := by omega
    have hbits := bytesOf_sextets a 0 0
    simp only [UInt8.toNat_zero, Nat.zero_div, Nat.zero_mod, Nat.zero_mul, Nat.add_zero] at hbits
    rw [decodeLast, hlast]
    simp [bind, Except.bind, hzero, hbits]
  | [a, b], _ =>
    have ha := a.toNat_lt
    have hb := b.toNat_lt
    have hlast : lastSymbols offset 0 (encodeBytes [a, b]) =
        .ok ([a.toNat / 4, a.toNat % 4 * 16 + b.toNat / 16, b.toNat % 16 * 4], 1) := by
      refine hread rfl ?_ fun _ => Nat.le_succ 2
      simp only [List.forall_mem_cons]
      exact ⟨by omega, by omega, by omega, by simp⟩
    have hzero : b.toNat % 16 * 4 % 4 = 0 := by omega
    have hbits := bytesOf_sextets a b 0
    simp only [UInt8.toNat_zero, Nat.zero_div, Nat.zero_mod, Nat.add_zero] at hbits
    rw [decodeLast, hlast]
    simp [bind, Except.bind, hzero, hbits]
  | [a, b, c], _ =>
    have ha := a.toNat_lt
    have hb := b.toNat_lt
    have hc := c.toNat_lt
    have hlast : lastSymbols offset 0 (encodeBytes [a, b, c]) =
        .ok ([a.toNat / 4, a.toNat % 4 * 16 + b.toNat / 16, b.toNat % 16 * 4 + c.toNat / 64,
          c.toNat % 64], 0) := by
      refine hread rfl ?_ fun hpos => absurd hpos (Nat.lt_irrefl 0)
      simp only [List.forall_mem_cons]
      exact ⟨by omega, by omega, by omega, by omega, by simp⟩
    rw [decodeLast, hlast]
    simp [bind, Except.bind, bytesOf_sextets]

/-! ## Whole texts -/

/-- The text of some bytes has a whole group in front. -/
theorem exists_encodeBytes_cons (a : UInt8) (rest : Bytes) :
    ∃ b more, encodeBytes (a :: rest) = b :: more := by
  match rest with
  | [] => exact ⟨_, _, rfl⟩
  | [_] => exact ⟨_, _, rfl⟩
  | _ :: _ :: _ => exact ⟨_, _, rfl⟩

/-- Texts consist of whole groups. -/
theorem length_encodeBytes (bytes : Bytes) : (encodeBytes bytes).length % 4 = 0 := by
  induction bytes using encodeBytes.induct with
  | case1 a b c rest ih =>
    rw [encodeBytes]
    simp only [List.length_cons]
    omega
  | _ => simp [encodeBytes]

/-- A single group is the last one. -/
theorem decodeFrom_of_length_le {group : Bytes} (h : group.length ≤ 4) (offset : Nat) :
    decodeFrom offset group = decodeLast offset group := by
  match group, h with
  | [], _ | [_], _ | [_, _], _ | [_, _, _], _ | [_, _, _, _], _ => rfl

/-- In front of others a whole group is decoded by itself. -/
theorem decodeFrom_eq_ok_iff (offset : Nat) (a b c d e : UInt8) (rest bytes : Bytes) :
    decodeFrom offset (a :: b :: c :: d :: e :: rest) = .ok bytes ↔
      ∃ p q r s more, (p < 64 ∧ a = symbolOf p) ∧ (q < 64 ∧ b = symbolOf q) ∧
        (r < 64 ∧ c = symbolOf r) ∧ (s < 64 ∧ d = symbolOf s) ∧
        decodeFrom (offset + 4) (e :: rest) = .ok more ∧ bytes = bytesOf p q r s ++ more := by
  simp only [decodeFrom, bind_eq_ok_iff, symbolAt_eq_ok_iff, pure, Except.pure, Except.ok.injEq]
  constructor
  · rintro ⟨p, hp, q, hq, r, hr, s, hs, more, hmore, rfl⟩
    exact ⟨p, q, r, s, more, hp, hq, hr, hs, hmore, rfl⟩
  · rintro ⟨p, q, r, s, more, hp, hq, hr, hs, hmore, rfl⟩
    exact ⟨p, hp, q, hq, r, hr, s, hs, more, hmore, rfl⟩

/-- The text of some bytes is decoded to them. -/
theorem decodeFrom_encodeBytes (offset : Nat) (bytes : Bytes) :
    decodeFrom offset (encodeBytes bytes) = .ok bytes := by
  have hlast (offset : Nat) {bytes : Bytes} (hbytes : bytes.length ≤ 3)
      (hgroup : (encodeBytes bytes).length ≤ 4) :
      decodeFrom offset (encodeBytes bytes) = .ok bytes :=
    (decodeFrom_of_length_le hgroup offset).trans (decodeLast_encodeBytes offset hbytes)
  induction bytes using encodeBytes.induct generalizing offset with
  | case1 a b c rest ih =>
    cases rest with
    | nil => exact hlast offset (by simp) (by simp [encodeBytes])
    | cons d rest =>
      have ha := a.toNat_lt
      have hb := b.toNat_lt
      have hc := c.toNat_lt
      obtain ⟨e, more, hmore⟩ := exists_encodeBytes_cons d rest
      rw [encodeBytes, hmore, decodeFrom_eq_ok_iff]
      refine ⟨_, _, _, _, d :: rest, ⟨?_, rfl⟩, ⟨?_, rfl⟩, ⟨?_, rfl⟩, ⟨?_, rfl⟩, ?_, ?_⟩
      · omega
      · omega
      · omega
      · omega
      · rw [← hmore]
        exact ih (offset + 4)
      · rw [bytesOf_sextets]
        rfl
  | case2 a b => exact hlast offset (by simp) (by simp [encodeBytes])
  | case3 a => exact hlast offset (by simp) (by simp [encodeBytes])
  | case4 => rfl

/-- Groups are decoded to the bytes whose text they are. -/
theorem encodeBytes_of_decodeFrom {offset : Nat} {symbols bytes : Bytes}
    (h : decodeFrom offset symbols = .ok bytes) : encodeBytes bytes = symbols := by
  induction offset, symbols using decodeFrom.induct generalizing bytes with
  | case1 offset a b c d e rest ih =>
    obtain ⟨p, q, r, s, more, ⟨hp, rfl⟩, ⟨hq, rfl⟩, ⟨hr, rfl⟩, ⟨hs, rfl⟩, hmore, rfl⟩ :=
      (decodeFrom_eq_ok_iff _ _ _ _ _ _ _ _).1 h
    rw [encodeBytes_bytesOf_append hp hq hr hs, ih hmore]
  | case2 offset group hgroup =>
    have hshort : group.length ≤ 4 := by
      match group, hgroup with
      | [], _ | [_], _ | [_, _], _ | [_, _, _], _ | [_, _, _, _], _ => simp
      | a :: b :: c :: d :: e :: rest, hgroup => exact (hgroup a b c d e rest rfl).elim
    rw [decodeFrom_of_length_le hshort] at h
    exact encodeBytes_of_decodeLast hshort h

/-- Bytes are decoded from their text and from nothing else. -/
theorem decodeBytes_eq_ok_iff (symbols bytes : Bytes) :
    decodeBytes symbols = .ok bytes ↔ symbols = encodeBytes bytes := by
  unfold decodeBytes
  constructor
  · intro h
    split at h
    · split at h
      · cases h
      · exact (encodeBytes_of_decodeFrom h).symm
    · rename_i hempty
      cases h
      exact List.getLast?_eq_none_iff.1 hempty
  · rintro rfl
    split
    · rw [if_neg]
      · exact decodeFrom_encodeBytes 0 bytes
      · rw [length_encodeBytes]
        exact fun h => absurd h.1 (by decide)
    · rename_i hempty
      cases bytes with
      | nil => rfl
      | cons a rest =>
        obtain ⟨b, more, hmore⟩ := exists_encodeBytes_cons a rest
        rw [hmore] at hempty
        simp at hempty

/-- A text is all ASCII. -/
theorem lt_of_mem_encodeBytes {bytes : Bytes} {b : UInt8} (h : b ∈ encodeBytes bytes) :
    b.toNat < 128 := by
  have hsymbol {n : Nat} (hn : n < 64) : (symbolOf n).toNat < 128 :=
    (by decide : ∀ n < 64, (symbolOf n).toNat < 128) n hn
  have hpad : pad.toNat < 128 := by decide
  induction bytes using encodeBytes.induct with
  | case1 x y z rest ih =>
    have hx := x.toNat_lt
    have hy := y.toNat_lt
    have hz := z.toNat_lt
    rw [encodeBytes] at h
    simp only [List.mem_cons] at h
    rcases h with rfl | rfl | rfl | rfl | h
    · exact hsymbol (by omega)
    · exact hsymbol (by omega)
    · exact hsymbol (by omega)
    · exact hsymbol (by omega)
    · exact ih h
  | case2 x y =>
    have hx := x.toNat_lt
    have hy := y.toNat_lt
    rw [encodeBytes] at h
    simp only [List.mem_cons, List.not_mem_nil, or_false] at h
    rcases h with rfl | rfl | rfl | rfl
    · exact hsymbol (by omega)
    · exact hsymbol (by omega)
    · exact hsymbol (by omega)
    · exact hpad
  | case3 x =>
    have hx := x.toNat_lt
    rw [encodeBytes] at h
    simp only [List.mem_cons, List.not_mem_nil, or_false] at h
    rcases h with rfl | rfl | rfl | rfl
    · exact hsymbol (by omega)
    · exact hsymbol (by omega)
    · exact hpad
    · exact hpad
  | case4 => cases h

/-- The bytes of a text are its symbols. -/
theorem utf8_encode (bytes : Bytes) : Text.Utf8.encode (encode bytes) = encodeBytes bytes := by
  have hchar : ∀ n < 128, (Char.ofNat n).toNat = n := by decide +kernel
  rw [encode, Text.Utf8.encode_ofList, List.map_map]
  · refine (List.map_congr_left fun b hb => ?_).trans (List.map_id _)
    have hb := hchar b.toNat (lt_of_mem_encodeBytes hb)
    simp [hb]
  · intro c hc
    obtain ⟨b, hb, rfl⟩ := List.mem_map.1 hc
    rw [hchar _ (lt_of_mem_encodeBytes hb)]
    exact lt_of_mem_encodeBytes hb

/-- A text is decoded to the bytes whose text it is, and to no others. -/
theorem decode_eq_ok_iff (text : String) (bytes : Bytes) :
    decode text = .ok bytes ↔ text = encode bytes := by
  rw [decode, decodeBytes_eq_ok_iff, ← utf8_encode]
  exact ⟨fun h => Text.Utf8.encode_injective h, fun h => h ▸ rfl⟩

end Base64

end Courier
