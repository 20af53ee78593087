import Courier.Json.Value
import Courier.Proofs.Json.Number

/-!
# Lists and objects are read back

A list or an object is written as its parts with commas between them and a closing bracket behind
them. If each part is read back from what is written for it, whatever stands behind it, then the
whole is (`readItems_enclosed`, `readMembers_enclosed`).
-/

namespace Courier.Json

/-- What stands behind a part: a comma and the other parts, and the closing bracket. -/
def behind (close : UInt8) : List Bytes → Bytes
  | [] => [close]
  | part :: parts => 44 :: (part ++ behind close parts)

/-- Some parts with commas between them, and the closing bracket. -/
def enclosed (close : UInt8) : List Bytes → Bytes
  | [] => [close]
  | part :: parts => part ++ behind close parts

/-- Every part takes some room, and so does the closing bracket. -/
theorem length_lt_behind (close : UInt8) (parts : List Bytes) :
    parts.length < (behind close parts).length := by
  induction parts with
  | nil => exact Nat.zero_lt_one
  | cons part parts ih =>
    simp only [behind, List.length_cons, List.length_append]
    omega

/-- Parts that are not empty take some room, and so does the closing bracket. -/
theorem length_le_enclosed (close : UInt8) (parts : List Bytes) :
    parts.length ≤ (enclosed close parts).length := by
  cases parts with
  | nil => exact Nat.zero_le _
  | cons part parts =>
    have hmore := length_lt_behind close parts
    simp only [enclosed, List.length_cons, List.length_append]
    omega

/-- A part has come to its end where others follow it, or a bracket. -/
theorem closes_behind {close : UInt8} (hclose : close = 93 ∨ close = 125) (parts : List Bytes)
    (rest : Bytes) : Closes (behind close parts ++ rest) := by
  cases parts with
  | nil => exact Or.inr hclose
  | cons part parts => exact Or.inl rfl

/-- Bytes that begin with something else than a blank have none to be skipped. -/
theorem skipBlank_cons {b : UInt8} (h : isBlankByte b = false) (rest : Bytes) :
    skipBlank (b :: rest) = b :: rest := by
  rw [skipBlank, List.dropWhile_cons_of_neg (by simp [h])]

/-! ## Lists -/

/-- Whether some bytes begin as a value does: neither with a blank nor with the end of a list. -/
def Begins : Bytes → Prop
  | [] => False
  | b :: _ => isBlankByte b = false ∧ b ≠ 93

/-- Where an item begins it is found. -/
theorem nextItem?_begins (first : Bool) {item : Bytes} (h : Begins item) (rest : Bytes) :
    nextItem? first ((if first then item else 44 :: item) ++ rest) = .ok (some (item ++ rest)) := by
  cases item with
  | nil => exact h.elim
  | cons b more =>
    obtain ⟨hblank, hend⟩ := h
    cases first with
    | true => simp only [nextItem?, if_true, List.cons_append, skipBlank_cons hblank, if_neg hend]
    | false =>
      have hcomma : isBlankByte 44 = false := rfl
      simp only [nextItem?, Bool.false_eq_true, if_false, List.cons_append, skipBlank_cons hcomma,
        skipBlank_cons hblank, if_neg hend, if_true]
      rfl

variable {α : Type} {item : Bytes → Read α} {write : α → Bytes} {fuel : Nat}

/-- Items are read back behind other items. -/
theorem readItems_behind {as : List α}
    (hread : ∀ a ∈ as, ∀ rest, Closes rest → item (write a ++ rest) = .ok (a, rest))
    (hbegins : ∀ a ∈ as, Begins (write a)) (hfuel : as.length < fuel) (rest : Bytes) :
    readItems item false fuel (behind 93 (as.map write) ++ rest) = .ok (as, rest) := by
  induction as generalizing fuel with
  | nil =>
    obtain ⟨fuel, rfl⟩ := Nat.exists_eq_add_one_of_ne_zero (Nat.ne_of_gt hfuel)
    rfl
  | cons a as ih =>
    obtain ⟨fuel, rfl⟩ := Nat.exists_eq_add_one_of_ne_zero (Nat.ne_of_gt (Nat.zero_lt_of_lt hfuel))
    have hnext := nextItem?_begins false (hbegins a List.mem_cons_self)
      (behind 93 (as.map write) ++ rest)
    have hitem := hread a List.mem_cons_self _ (closes_behind (Or.inl rfl) (as.map write) rest)
    have hmore := ih (fun b hb => hread b (List.mem_cons_of_mem _ hb))
      (fun b hb => hbegins b (List.mem_cons_of_mem _ hb)) (Nat.lt_of_succ_lt_succ hfuel)
    simp only [Bool.false_eq_true, if_false, List.cons_append] at hnext
    simp only [List.map_cons, behind, List.cons_append, List.append_assoc, readItems, hnext, hitem,
      hmore]

/-- A list is read back if its items are. -/
theorem readItems_enclosed {as : List α}
    (hread : ∀ a ∈ as, ∀ rest, Closes rest → item (write a ++ rest) = .ok (a, rest))
    (hbegins : ∀ a ∈ as, Begins (write a)) (rest : Bytes) :
    readItems item true ((enclosed 93 (as.map write) ++ rest).length + 1)
      (enclosed 93 (as.map write) ++ rest) = .ok (as, rest) := by
  cases as with
  | nil => rfl
  | cons a as =>
    have hfuel : as.length < (enclosed 93 ((a :: as).map write) ++ rest).length := by
      have hlength := length_le_enclosed 93 ((a :: as).map write)
      simp only [List.length_map, List.length_cons] at hlength
      rw [List.length_append]
      omega
    have hnext := nextItem?_begins true (hbegins a List.mem_cons_self)
      (behind 93 (as.map write) ++ rest)
    have hitem := hread a List.mem_cons_self _ (closes_behind (Or.inl rfl) (as.map write) rest)
    have hmore := readItems_behind (fun b hb => hread b (List.mem_cons_of_mem _ hb))
      (fun b hb => hbegins b (List.mem_cons_of_mem _ hb)) hfuel rest
    simp only [if_true] at hnext
    simp only [List.map_cons, enclosed, List.append_assoc] at hmore
    simp only [List.map_cons, enclosed, List.append_assoc, readItems, hnext, hitem, hmore]

/-! ## Objects -/

/-- A member as it is written: its key, and the bytes behind the key. -/
abbrev Member := String × Bytes

/-- The bytes of a member. -/
def Member.bytes (m : Member) : Bytes := writeText m.1 ++ m.2

/-- Members that are read one after the other change what was read from one thing into another. -/
inductive Fills (member : String → α → Bytes → Read α) : List Member → α → α → Prop where
  | nil (a : α) : Fills member [] a a
  | cons {m : Member} {ms : List Member} {a b c : α}
    (hread : ∀ rest, Closes rest → member m.1 a (m.2 ++ rest) = .ok (b, rest))
    (hmore : Fills member ms b c) : Fills member (m :: ms) a c

/-- Where a member begins, its opening quote is found. -/
theorem nextMember?_writeText (first : Bool) (key : String) (rest : Bytes) :
    nextMember? first ((if first then writeText key else 44 :: writeText key) ++ rest) =
      .ok (some ((writeText key).tail ++ rest)) := by
  cases first with
  | true => rfl
  | false => rfl

variable {member : String → α → Bytes → Read α} {ms : List Member} {a b : α}

/-- Members are read back behind other members. -/
theorem Fills.readMembers_behind (h : Fills member ms a b) (hfuel : ms.length < fuel)
    (rest : Bytes) :
    readMembers member false a fuel (behind 125 (ms.map Member.bytes) ++ rest) = .ok (b, rest) := by
  induction h generalizing fuel with
  | nil a =>
    obtain ⟨fuel, rfl⟩ := Nat.exists_eq_add_one_of_ne_zero (Nat.ne_of_gt hfuel)
    rfl
  | @cons m ms a b c hread hmore ih =>
    obtain ⟨fuel, rfl⟩ := Nat.exists_eq_add_one_of_ne_zero (Nat.ne_of_gt (Nat.zero_lt_of_lt hfuel))
    have hnext := nextMember?_writeText false m.1
      (m.2 ++ (behind 125 (ms.map Member.bytes) ++ rest))
    have hmember := hread _ (closes_behind (Or.inr rfl) (ms.map Member.bytes) rest)
    simp only [Bool.false_eq_true, if_false, List.cons_append] at hnext
    simp only [List.map_cons, behind, Member.bytes, List.cons_append, List.append_assoc,
      readMembers, hnext, readText_writeText, hmember]
    exact ih (Nat.lt_of_succ_lt_succ hfuel)

/-- An object is read back if its members are. -/
theorem Fills.readMembers_enclosed (h : Fills member ms a b) (rest : Bytes) :
    readMembers member true a ((enclosed 125 (ms.map Member.bytes) ++ rest).length + 1)
      (enclosed 125 (ms.map Member.bytes) ++ rest) = .ok (b, rest) := by
  cases h with
  | nil a => rfl
  | @cons m ms a b c hread hmore =>
    have hfuel : ms.length < (enclosed 125 ((m :: ms).map Member.bytes) ++ rest).length := by
      have hlength := length_le_enclosed 125 ((m :: ms).map Member.bytes)
      simp only [List.length_map, List.length_cons] at hlength
      rw [List.length_append]
      omega
    have hlater := hmore.readMembers_behind hfuel rest
    have hnext := nextMember?_writeText true m.1 (m.2 ++ (behind 125 (ms.map Member.bytes) ++ rest))
    have hmember := hread _ (closes_behind (Or.inr rfl) (ms.map Member.bytes) rest)
    simp only [if_true] at hnext
    simp only [List.map_cons, enclosed, Member.bytes, List.append_assoc] at hlater
    simp only [List.map_cons, enclosed, Member.bytes, List.append_assoc, readMembers, hnext,
      readText_writeText, hmember]
    exact hlater

end Courier.Json
