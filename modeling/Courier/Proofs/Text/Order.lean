import Courier.Text.Utf8

/-!
# The order of texts

Texts are ordered by their characters, and characters by their code points. UTF-8 keeps this order:
of two texts the smaller one has the smaller bytes (`encode_le_encode_iff`). So whatever is kept in
the order of texts is in the order of their bytes as well.
-/

namespace Courier.Text.Utf8

/-! ## Characters -/

/-- A byte holds a few bits of a number under a mark. It decides where these bits differ, and leaves
it to what follows where the numbers are equal. -/
theorem bits_cons_lt {n m size mark : Nat} {s t : Bytes} (hle : n ≤ m)
    (hhigh : n / size = m / size) (hfits : size + mark ≤ 256) (hsize : 0 < size)
    (hbehind : n = m → s < t) :
    UInt8.ofNat (n % size + mark) :: s < UInt8.ofNat (m % size + mark) :: t := by
  rw [List.cons_lt_cons_iff]
  rcases Nat.lt_or_eq_of_le hle with hlt | rfl
  · left
    have hn := Nat.mod_lt n hsize
    have hm := Nat.mod_lt m hsize
    have hsame : size * (n / size) = size * (m / size) := congrArg (size * ·) hhigh
    have hn' := Nat.div_add_mod n size
    have hm' := Nat.div_add_mod m size
    rw [UInt8.lt_iff_toNat_lt, UInt8.toNat_ofNat', UInt8.toNat_ofNat']
    omega
  · exact Or.inr ⟨rfl, hbehind rfl⟩

/-- The first byte decides where it differs. -/
theorem ofNat_cons_lt {a b : Nat} (h : a < b) (hb : b < 256) (s t : Bytes) :
    UInt8.ofNat a :: s < UInt8.ofNat b :: t := by
  rw [List.cons_lt_cons_iff, UInt8.lt_iff_toNat_lt, UInt8.toNat_ofNat', UInt8.toNat_ofNat']
  omega

/-- Of two characters the smaller one has the smaller bytes, whatever follows them. -/
theorem utf8EncodeChar_append_lt {c d : Char} (h : c < d) (s t : Bytes) :
    String.utf8EncodeChar c ++ s < String.utf8EncodeChar d ++ t := by
  have hlt : c.val.toNat < d.val.toNat := h
  have hd : d.val.toNat < 1114112 := d.valid.elim (fun hd => Nat.lt_trans hd (by decide)) And.right
  simp only [String.utf8EncodeChar]
  generalize c.val.toNat = n at hlt ⊢
  generalize d.val.toNat = m at hlt hd ⊢
  have hlast (hhigh : n / 64 = m / 64) :
      UInt8.ofNat (n % 64 + 128) :: s < UInt8.ofNat (m % 64 + 128) :: t :=
    bits_cons_lt (Nat.le_of_lt hlt) hhigh (by decide) (by decide)
      fun heq => absurd heq (Nat.ne_of_lt hlt)
  -- More bytes begin with a greater one; among equally many the highest bits that differ decide.
  split
  · split
    · exact ofNat_cons_lt hlt (by omega) _ _
    split
    · exact ofNat_cons_lt (by omega) (by omega) _ _
    split <;> exact ofNat_cons_lt (by omega) (by omega) _ _
  split
  · rw [if_neg (by omega)]
    split
    · exact bits_cons_lt (by omega) (by omega) (by decide) (by decide) hlast
    split <;> exact ofNat_cons_lt (by omega) (by omega) _ _
  split
  · rw [if_neg (by omega), if_neg (by omega)]
    split
    · refine bits_cons_lt (by omega) (by omega) (by decide) (by decide) fun hfirst => ?_
      exact bits_cons_lt (by omega) (by omega) (by decide) (by decide) hlast
    · exact ofNat_cons_lt (by omega) (by omega) _ _
  · rw [if_neg (by omega), if_neg (by omega), if_neg (by omega)]
    refine bits_cons_lt (by omega) (by omega) (by decide) (by decide) fun hfirst => ?_
    refine bits_cons_lt (by omega) (by omega) (by decide) (by decide) fun hsecond => ?_
    exact bits_cons_lt (by omega) (by omega) (by decide) (by decide) hlast

/-! ## Texts -/

/-- The bytes of a text are those of its characters, one after the other. -/
theorem encode_eq_flatMap (text : String) :
    encode text = text.toList.flatMap String.utf8EncodeChar := by
  have hbytes : text.toByteArray = text.toList.utf8Encode := by
    rw [← String.toByteArray_ofList, String.ofList_toList]
  rw [encode, hbytes, List.utf8Encode.eq_1]
  simp

/-- Of two texts the smaller one has the smaller bytes. -/
theorem encode_lt_encode {first second : String} (h : first < second) :
    encode first < encode second := by
  rw [String.lt_iff] at h
  rw [encode_eq_flatMap, encode_eq_flatMap]
  generalize first.toList = chars at h ⊢
  generalize second.toList = others at h ⊢
  induction chars generalizing others with
  | nil =>
    cases others with
    | nil => cases h
    | cons d others =>
      obtain ⟨b, bytes, hd⟩ := List.exists_cons_of_ne_nil (String.utf8EncodeChar_ne_nil (c := d))
      rw [List.flatMap_nil, List.flatMap_cons, hd]
      exact List.nil_lt_cons _ _
  | cons c chars ih =>
    cases others with
    | nil => cases h
    | cons d others =>
      rw [List.flatMap_cons, List.flatMap_cons]
      rcases List.cons_lt_cons_iff.1 h with hlt | ⟨rfl, hrest⟩
      · exact utf8EncodeChar_append_lt hlt _ _
      · exact List.append_left_lt (ih _ hrest)

/-- Texts are in the same order as their bytes. -/
theorem encode_le_encode_iff (first second : String) :
    encode first ≤ encode second ↔ first ≤ second := by
  constructor
  · intro h
    rw [← String.not_lt]
    exact fun hlt => h (encode_lt_encode hlt)
  · intro h hlt
    have hle : second ≤ first := String.not_lt.1 fun hgt => List.lt_asymm hlt (encode_lt_encode hgt)
    obtain rfl := String.le_antisymm h hle
    exact List.lt_irrefl _ hlt

end Courier.Text.Utf8
