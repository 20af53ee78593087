import Mathlib.Algebra.BigOperators.Group.List.Basic
import Mathlib.Algebra.GroupWithZero.Nat
import Mathlib.Data.List.Induction
import Mathlib.Data.List.Nodup
import Mathlib.Data.Prod.Lex
import Mathlib.Data.String.Basic
import Courier.Metrics

/-!
# What counters hold

Labels are counted under the same counter just if they differ in order alone (`canonical_eq_iff`),
so after any calls a counter holds what was added under the permutations of its labels, as far as
sixty-four bits do (`get_after`), and a family has one row for each set of labels that was touched
(`mem_after_iff`). The rows stand in the order in which they were first touched; rendering sorts
them, so calls in another order render to the same text (`render_of_perm`).
-/

namespace Courier

/-- Lists with the same elements are sorted to the same list, if what is compared tells elements
apart. -/
theorem mergeSort_eq_of_perm {α β : Type} [LinearOrder β] {le : α → α → Bool} (key : α → β)
    (hkey : Function.Injective key) (hle : ∀ a b, le a b = true ↔ key a ≤ key b)
    {first second : List α} (h : first.Perm second) : first.mergeSort le = second.mergeSort le := by
  have hsorted (l : List α) : (l.mergeSort le).Pairwise fun a b => le a b = true := by
    apply List.pairwise_mergeSort
    · intro a b c hab hbc
      exact (hle a c).2 (((hle a b).1 hab).trans ((hle b c).1 hbc))
    · intro a b
      rw [Bool.or_eq_true, hle, hle]
      exact le_total (key a) (key b)
  have hperm := (List.mergeSort_perm first le).trans (h.trans (List.mergeSort_perm second le).symm)
  refine hperm.eq_of_pairwise ?_ (hsorted first) (hsorted second)
  intro a b _ _ hab hba
  exact hkey (le_antisymm ((hle a b).1 hab) ((hle b a).1 hba))

/-! ## Labels -/

namespace Labels

/-- Labels are in the order of their names, and under one name of their values. -/
theorem before_iff (a b : String × String) : before a b = true ↔ toLex a ≤ toLex b := by
  simp only [before, Bool.or_eq_true, Bool.and_eq_true, decide_eq_true_eq, beq_iff_eq,
    Prod.Lex.toLex_le_toLex]

/-- Labels have the same canonical order just if they differ in order alone. -/
theorem canonical_eq_iff (first second : Labels) :
    first.canonical = second.canonical ↔ first.Perm second := by
  constructor
  · intro h
    calc
      first.Perm first.canonical := (List.mergeSort_perm first before).symm
      first.canonical.Perm second.canonical := .of_eq h
      second.canonical.Perm second := List.mergeSort_perm second before
  · exact mergeSort_eq_of_perm toLex toLex.injective before_iff

/-- Labels in canonical order are in no other. -/
theorem canonical_canonical (labels : Labels) : labels.canonical.canonical = labels.canonical :=
  (canonical_eq_iff _ _).2 (List.mergeSort_perm labels before)

end Labels

/-! ## The counters of a family -/

namespace Counters

variable {counters : Counters}

/-- The labels under which something was counted. -/
def rows (counters : Counters) : List Labels := counters.map Prod.fst

/-- An addition is made under its labels, which have a row from then on. -/
theorem mem_rows_addRow (labels row : Labels) (amount : UInt64) :
    row ∈ rows (addRow labels amount counters) ↔ row = labels ∨ row ∈ rows counters := by
  induction counters with
  | nil => simp [rows, addRow]
  | cons head rest ih =>
    simp only [rows] at ih
    rw [addRow]
    split
    · rename_i hsame
      simp only [rows, List.map_cons, List.mem_cons, hsame]
      tauto
    · simp only [rows, List.map_cons, List.mem_cons, ih]
      tauto

/-- No row is there twice. -/
theorem nodup_rows_addRow (labels : Labels) (amount : UInt64) (h : (rows counters).Nodup) :
    (rows (addRow labels amount counters)).Nodup := by
  induction counters with
  | nil => simp [rows, addRow]
  | cons head rest ih =>
    obtain ⟨hhead, hrest⟩ := List.nodup_cons.1 h
    rw [addRow]
    split
    · exact h
    · rename_i hother
      refine List.nodup_cons.2 ⟨?_, ih hrest⟩
      intro hmem
      exact ((mem_rows_addRow labels head.1 amount).1 hmem).elim hother hhead

/-- What stands in a row is what is found under its labels. -/
theorem get_of_mem {labels : Labels} {value : UInt64} (h : (rows counters).Nodup)
    (hcanonical : labels.canonical = labels) (hmem : (labels, value) ∈ counters) :
    counters.get labels = value := by
  rw [get, hcanonical]
  induction counters with
  | nil => cases hmem
  | cons head rest ih =>
    obtain ⟨hhead, hrest⟩ := List.nodup_cons.1 h
    rcases List.mem_cons.1 hmem with rfl | hlater
    · simp
    · have hother : head.1 ≠ labels := by
        intro hsame
        exact hhead (hsame ▸ List.mem_map_of_mem (f := Prod.fst) hlater)
      rw [List.find?_cons_of_neg (by simpa using hother)]
      exact ih hrest hlater

end Counters

/-! ## Calls -/

namespace Metrics

/-- The four families. -/
inductive Family where
  | frames
  | bytes
  | undecoded
  | answers
deriving DecidableEq, Repr

/-- The name of a family where it is rendered. -/
def Family.name : Family → String
  | .frames => "pathlink_frames_total"
  | .bytes => "pathlink_bytes_total"
  | .undecoded => "pathlink_decode_errors_total"
  | .answers => "pathlink_dispatch_total"

/-- The counters of a family. -/
def counters (m : Metrics) : Family → Counters
  | .frames => m.frames
  | .bytes => m.bytes
  | .undecoded => m.undecoded
  | .answers => m.answers

/-- Something that is counted in a family; an increment is an addition of one. -/
structure Call where
  family : Family
  labels : Labels
  amount : UInt64
deriving DecidableEq, Repr

/-- Count something. -/
def call (m : Metrics) (c : Call) : Metrics :=
  match c.family with
  | .frames => { m with frames := m.frames.add c.labels c.amount }
  | .bytes => { m with bytes := m.bytes.add c.labels c.amount }
  | .undecoded => { m with undecoded := m.undecoded.add c.labels c.amount }
  | .answers => { m with answers := m.answers.add c.labels c.amount }

/-- What was counted by some calls. -/
def after (calls : List Call) : Metrics := calls.foldl call zero

/-- The sum of what calls add to a family under labels that differ from given ones in order alone.
-/
def total (calls : List Call) (family : Family) (labels : Labels) : Nat :=
  ((calls.filter fun c => c.family = family ∧ c.labels.Perm labels).map (·.amount.toNat)).sum

/-- A call changes the counters of its own family only. -/
theorem counters_call (m : Metrics) (c : Call) (family : Family) :
    (m.call c).counters family =
      if c.family = family then (m.counters family).add c.labels c.amount
      else m.counters family := by
  obtain ⟨called, labels, amount⟩ := c
  cases called <;> cases family <;> rfl

variable (calls : List Call) (family : Family)

/-- After one more call. -/
theorem after_snoc (c : Call) : after (calls ++ [c]) = (after calls).call c := by
  rw [after, List.foldl_append]
  rfl

/-- Any counter holds the sum of what was added under its labels in any order, modulo the number of
words. -/
theorem get_after (labels : Labels) :
    (((after calls).counters family).get labels).toNat = total calls family labels % 2 ^ 64 := by
  induction calls using List.reverseRecOn with
  | nil => cases family <;> rfl
  | append_singleton calls c ih =>
    rw [after_snoc, counters_call, total, List.filter_append, List.map_append, List.sum_append,
      ← total, Nat.add_mod, ← ih]
    by_cases hfamily : c.family = family
    · rw [if_pos hfamily, Counters.get_add]
      by_cases hlabels : c.labels.Perm labels
      · simp [Labels.canonical_eq_iff, hfamily, hlabels]
      · simp [Labels.canonical_eq_iff, hlabels]
    · simp [hfamily]

/-- A family has a row for all labels that were touched, in their canonical order, and no other. -/
theorem mem_rows_after (labels : Labels) :
    labels ∈ ((after calls).counters family).rows ↔
      ∃ c ∈ calls, c.family = family ∧ c.labels.canonical = labels := by
  induction calls using List.reverseRecOn with
  | nil => cases family <;> simp [after, zero, counters, Counters.rows]
  | append_singleton calls c ih =>
    rw [after_snoc, counters_call]
    by_cases hfamily : c.family = family
    · rw [if_pos hfamily, Counters.add, Counters.mem_rows_addRow, ih]
      simp only [List.mem_append, List.mem_singleton, or_and_right, exists_or, exists_eq_left,
        hfamily, true_and]
      rw [or_comm, eq_comm]
    · rw [if_neg hfamily, ih]
      simp [or_and_right, exists_or, hfamily]

/-- No labels have two rows. -/
theorem nodup_rows_after : ((after calls).counters family).rows.Nodup := by
  induction calls using List.reverseRecOn with
  | nil => cases family <;> exact List.nodup_nil
  | append_singleton calls c ih =>
    rw [after_snoc, counters_call]
    split
    · exact Counters.nodup_rows_addRow _ _ ih
    · exact ih

/-- Rows have their labels in canonical order. -/
theorem canonical_of_mem_rows {labels : Labels}
    (h : labels ∈ ((after calls).counters family).rows) : labels.canonical = labels := by
  obtain ⟨c, -, -, rfl⟩ := (mem_rows_after calls family labels).1 h
  exact c.labels.canonical_canonical

/-- The rows of a family are the labels that were touched, in canonical order, each with the sum of
what was added under them. -/
theorem mem_after_iff (labels : Labels) (value : UInt64) :
    (labels, value) ∈ (after calls).counters family ↔
      (∃ c ∈ calls, c.family = family ∧ c.labels.canonical = labels) ∧
        value.toNat = total calls family labels % 2 ^ 64 := by
  have hnodup := nodup_rows_after calls family
  rw [← mem_rows_after]
  constructor
  · intro hmem
    have hrow : labels ∈ ((after calls).counters family).rows := List.mem_map_of_mem hmem
    rw [← get_after, Counters.get_of_mem hnodup (canonical_of_mem_rows calls family hrow) hmem]
    exact ⟨hrow, rfl⟩
  · rintro ⟨hrow, hvalue⟩
    obtain ⟨⟨row, other⟩, hmem, rfl⟩ := List.mem_map.1 hrow
    have hget := Counters.get_of_mem hnodup (canonical_of_mem_rows calls family hrow) hmem
    rw [← get_after, hget] at hvalue
    rwa [UInt64.toNat_inj.1 hvalue]

/-- No two rows have labels that differ in order alone. -/
theorem pairwise_after :
    ((after calls).counters family).Pairwise fun a b => ¬a.1.Perm b.1 := by
  have hdifferent := List.pairwise_map.1 (nodup_rows_after calls family)
  refine hdifferent.imp_of_mem ?_
  intro a b ha hb hother hperm
  have hsame := (Labels.canonical_eq_iff _ _).2 hperm
  rw [canonical_of_mem_rows calls family (List.mem_map_of_mem ha),
    canonical_of_mem_rows calls family (List.mem_map_of_mem hb)] at hsame
  exact hother hsame

/-! ## Other orders -/

variable {calls} {others : List Call}

/-- Calls in another order add up to the same. -/
theorem total_of_perm (h : calls.Perm others) (labels : Labels) :
    total calls family labels = total others family labels :=
  ((h.filter _).map _).sum_eq

/-- Calls in another order leave the same rows. -/
theorem perm_counters_of_perm (h : calls.Perm others) :
    ((after calls).counters family).Perm ((after others).counters family) := by
  have hnodup (calls : List Call) : ((after calls).counters family).Nodup :=
    List.Nodup.of_map _ (nodup_rows_after calls family)
  rw [List.perm_ext_iff_of_nodup (hnodup calls) (hnodup others)]
  rintro ⟨labels, value⟩
  rw [mem_after_iff, mem_after_iff, total_of_perm family h]
  simp only [h.mem_iff]

/-- Rows are rendered in the order of their labels as text, and of their values. -/
theorem before_row_iff (a b : String × UInt64) :
    Counters.before a b = true ↔ toLex (a.1, a.2.toNat) ≤ toLex (b.1, b.2.toNat) := by
  simp only [Counters.before, Bool.or_eq_true, Bool.and_eq_true, decide_eq_true_eq, beq_iff_eq,
    Prod.Lex.toLex_le_toLex, UInt64.le_iff_toNat_le]

/-- The same rows are rendered to the same text, whatever order they stand in. -/
theorem render_counters_of_perm (name : String) {first second : Counters} (h : first.Perm second) :
    first.render name = second.render name := by
  rw [Counters.render, Counters.render, mergeSort_eq_of_perm _ ?_ before_row_iff (h.map _)]
  rintro ⟨a, m⟩ ⟨b, n⟩ hsame
  obtain ⟨htext, hvalue⟩ := Prod.mk.inj (toLex.injective hsame)
  exact Prod.ext htext (UInt64.toNat_inj.1 hvalue)

/-- Calls in another order render to the same text. -/
theorem render_of_perm (h : calls.Perm others) : (after calls).render = (after others).render := by
  have hsame (family : Family) (name : String) := render_counters_of_perm name
    (perm_counters_of_perm family h)
  simp only [render]
  rw [show (after calls).frames.render _ = _ from hsame .frames _,
    show (after calls).bytes.render _ = _ from hsame .bytes _,
    show (after calls).undecoded.render _ = _ from hsame .undecoded _,
    show (after calls).answers.render _ = _ from hsame .answers _]
  rfl

end Metrics

end Courier
