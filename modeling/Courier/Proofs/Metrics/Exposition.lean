import Courier.Proofs.Metrics.Account

/-!
# The rendered text is read back

What collects metrics reads their text line by line: the line of a family names it, and the line of
a counter has its labels between braces, each value between quotes with the quote, the backslash and
the line feed escaped (`readText`). Escaping leaves no bare quote and no line feed in a value, so a
line ends where it is written to end and each label where its quote is (`readLine_counterLine`).
What is read is therefore just what was counted, one line for each set of labels
(`readText_render`), and no value of a label can look like another row.
-/

namespace Courier

namespace Exposition

/-! ## Reading -/

/-- A character that a name may begin with. -/
def isNameStart (c : Char) : Bool :=
  ('A' ≤ c && c ≤ 'Z') || ('a' ≤ c && c ≤ 'z') || c = '_'

/-- A character of a name. -/
def isNameChar (c : Char) : Bool := isNameStart c || ('0' ≤ c && c ≤ '9')

/-- What a family or a label may be called: letters, digits and underscores, and no digit in front.
-/
def IsName (name : String) : Prop :=
  name.toList.head?.any isNameStart = true ∧ name.toList.all isNameChar = true
deriving Decidable

/-- Read a name. -/
def readName (s : List Char) : Option (String × List Char) :=
  if s.head?.any isNameStart then
    some (String.ofList (s.takeWhile isNameChar), s.dropWhile isNameChar)
  else none

/-- Put a character in front of what was read. -/
def withChar (c : Char) (found : List Char × List Char) : List Char × List Char :=
  (c :: found.1, found.2)

/-- Read a value whose opening quote has been read, up to and including its closing quote. -/
def readValue : List Char → Option (List Char × List Char)
  | [] => none
  | '"' :: rest => some ([], rest)
  | '\\' :: '\\' :: rest => (readValue rest).map (withChar '\\')
  | '\\' :: '"' :: rest => (readValue rest).map (withChar '"')
  | '\\' :: 'n' :: rest => (readValue rest).map (withChar '\n')
  | '\\' :: _ => none
  | c :: rest => (readValue rest).map (withChar c)

/-- Read a label. -/
def readLabel (s : List Char) : Option ((String × String) × List Char) :=
  match readName s with
  | some (name, '=' :: '"' :: s) =>
    (readValue s).map fun found => ((name, String.ofList found.1), found.2)
  | _ => none

/-- Read labels with commas between them, of which there is at least one, up to and including the
closing brace. -/
def readLabelsFrom : Nat → List Char → Option (Labels × List Char)
  | 0, _ => none
  | fuel + 1, s =>
    match readLabel s with
    | some (label, '\x7d' :: rest) => some ([label], rest)
    | some (label, ',' :: rest) =>
      (readLabelsFrom fuel rest).map fun found => (label :: found.1, found.2)
    | _ => none

/-- Read labels up to and including the closing brace. -/
def readLabels : List Char → Option (Labels × List Char)
  | '\x7d' :: rest => some ([], rest)
  | s => readLabelsFrom s.length s

/-- Read a number, behind which nothing follows. -/
def readNumber (s : List Char) : Option Nat :=
  if s.isEmpty || !s.all Char.isDigit then none else some (Nat.ofDigitChars 10 s 0)

/-- A line of the text. -/
inductive Line where
  /-- The counters of a family follow. -/
  | family (name : String)
  | counter (name : String) (labels : Labels) (value : Nat)
deriving DecidableEq, Repr

/-- Read the line of a counter behind its name. -/
def readCounter (name : String) : List Char → Option Line
  | '\x7b' :: s =>
    match readLabels s with
    | some (labels, ' ' :: rest) => (readNumber rest).map (.counter name labels)
    | _ => none
  | _ => none

/-- What stands in front of the name of a family. -/
def familyMark : List Char := ['#', ' ', 'T', 'Y', 'P', 'E', ' ']

/-- What stands behind the name of a family of counters. -/
def counterMark : List Char := [' ', 'c', 'o', 'u', 'n', 't', 'e', 'r']

/-- Read a line. -/
def readLine (s : List Char) : Option Line :=
  if s.take familyMark.length = familyMark then
    match readName (s.drop familyMark.length) with
    | some (name, rest) => if rest = counterMark then some (.family name) else none
    | none => none
  else
    match readName s with
    | some (name, rest) => readCounter name rest
    | none => none

/-- The lines of a text, each of which a line feed ends; `line` is the beginning of the first one,
with its latest character in front. -/
def splitLines (line : List Char) : List Char → Option (List (List Char))
  | [] => if line.isEmpty then some [] else none
  | c :: rest =>
    if c = '\n' then (splitLines [] rest).map (line.reverse :: ·) else splitLines (c :: line) rest

/-- Read a text line by line. -/
def readText (text : String) : Option (List Line) :=
  (splitLines [] text.toList).bind fun lines => lines.mapM readLine

/-! ## Names and values -/

variable {name : String} {rest : List Char}

/-- A name begins with what a name may begin with. -/
theorem exists_isNameStart (h : IsName name) :
    ∃ c others, name.toList = c :: others ∧ isNameStart c = true := by
  obtain ⟨hstart, -⟩ := h
  cases hname : name.toList with
  | nil => rw [hname] at hstart; cases hstart
  | cons c others => exact ⟨c, others, rfl, by rwa [hname] at hstart⟩

/-- A name is read up to what cannot be part of it. -/
theorem readName_append (h : IsName name) (hrest : rest.head?.any isNameChar = false) :
    readName (name.toList ++ rest) = some (name, rest) := by
  have hchars := List.all_eq_true.1 h.2
  have hstop : rest.takeWhile isNameChar = [] ∧ rest.dropWhile isNameChar = rest := by
    cases rest with
    | nil => exact ⟨rfl, rfl⟩
    | cons c more =>
      have hother : isNameChar c = false := hrest
      simp [hother]
  have hstart : (name.toList ++ rest).head?.any isNameStart = true := by
    obtain ⟨c, others, hname, hc⟩ := exists_isNameStart h
    rw [hname]
    exact hc
  rw [readName, if_pos hstart, List.takeWhile_append_of_pos hchars,
    List.dropWhile_append_of_pos hchars, hstop.1, hstop.2, List.append_nil, String.ofList_toList]

/-- An escaped value is read back up to the quote behind it. -/
theorem readValue_flatMap (value : List Char) :
    readValue (value.flatMap Labels.escapeChar ++ '"' :: rest) = some (value, rest) := by
  induction value with
  | nil => rfl
  | cons c value ih =>
    rw [List.flatMap_cons, List.append_assoc]
    by_cases hbackslash : c = '\\'
    · subst hbackslash
      simp [Labels.escapeChar, readValue, ih, withChar]
    · by_cases hquote : c = '"'
      · subst hquote
        simp [Labels.escapeChar, readValue, ih, withChar]
      · by_cases hfeed : c = '\n'
        · subst hfeed
          simp [Labels.escapeChar, readValue, ih, withChar]
        · simp [Labels.escapeChar, hbackslash, hquote, hfeed, readValue, ih, withChar]

/-- No escaped value has a line feed in it. -/
theorem not_mem_escape (value : List Char) : '\n' ∉ value.flatMap Labels.escapeChar := by
  intro hmem
  obtain ⟨c, -, hc⟩ := List.mem_flatMap.1 hmem
  rw [Labels.escapeChar] at hc
  split at hc
  · simp at hc
  split at hc
  · simp at hc
  split at hc
  · simp at hc
  · rename_i hother
    exact hother (List.mem_singleton.1 hc).symm

/-! ## Labels and numbers -/

/-- A label as it is rendered. -/
def labelChars (label : String × String) : List Char :=
  label.1.toList ++ '=' :: '"' :: (label.2.toList.flatMap Labels.escapeChar ++ ['"'])

/-- Labels as they are rendered, up to and including the closing brace. -/
def labelsChars : Labels → List Char
  | [] => ['\x7d']
  | [label] => labelChars label ++ ['\x7d']
  | label :: other :: more => labelChars label ++ ',' :: labelsChars (other :: more)

/-- The text of labels and the brace behind it. -/
theorem toList_text (labels : Labels) : labels.text.toList ++ ['\x7d'] = labelsChars labels := by
  have hlabel (label : String × String) :
      (label.1 ++ "=\"" ++ Labels.escape label.2 ++ "\"").toList = labelChars label := by
    simp [labelChars, Labels.toList_escape]
  rw [Labels.text, String.toList_intercalate]
  induction labels with
  | nil => rfl
  | cons label labels ih =>
    cases labels with
    | nil =>
      rw [labelsChars, ← hlabel label]
      simp
    | cons other more =>
      rw [labelsChars, ← ih, ← hlabel label]
      simp [List.intercalate_cons_cons]

/-- Whether all labels have names. -/
def Named (labels : Labels) : Prop := ∀ label ∈ labels, IsName label.1
deriving Decidable

/-- A label is read up to the quote behind its value. -/
theorem readLabel_append {label : String × String} (h : IsName label.1) (rest : List Char) :
    readLabel (labelChars label ++ rest) = some (label, rest) := by
  have hname : readName (labelChars label ++ rest) =
      some (label.1, '=' :: '"' :: (label.2.toList.flatMap Labels.escapeChar ++ '"' :: rest)) := by
    have hread : readName (label.1.toList ++ ('=' :: '"' ::
        (label.2.toList.flatMap Labels.escapeChar ++ '"' :: rest))) = some (label.1, _) :=
      readName_append h rfl
    rw [labelChars, List.append_assoc]
    simpa using hread
  simp only [readLabel, hname, readValue_flatMap, Option.map_some, String.ofList_toList]

/-- Some labels are read up to the brace behind them. -/
theorem readLabelsFrom_append {labels : Labels} (hsome : labels ≠ []) (h : Named labels)
    {fuel : Nat} (hfuel : labels.length ≤ fuel) (rest : List Char) :
    readLabelsFrom fuel (labelsChars labels ++ rest) = some (labels, rest) := by
  induction labels generalizing fuel with
  | nil => exact absurd rfl hsome
  | cons label labels ih =>
    obtain ⟨fuel, rfl⟩ := Nat.exists_eq_add_one_of_ne_zero (Nat.ne_of_gt (Nat.zero_lt_of_lt hfuel))
    obtain ⟨hlabel, hlabels⟩ := List.forall_mem_cons.1 h
    cases labels with
    | nil =>
      rw [labelsChars, List.append_assoc, readLabelsFrom, readLabel_append hlabel]
      rfl
    | cons other more =>
      have hmore := ih (List.cons_ne_nil other more) hlabels (Nat.le_of_succ_le_succ hfuel)
      rw [labelsChars, List.append_assoc, readLabelsFrom, readLabel_append hlabel]
      simp only [List.cons_append, hmore, Option.map_some]

/-- Every label takes some room. -/
theorem length_le_labelsChars (labels : Labels) : labels.length ≤ (labelsChars labels).length := by
  induction labels with
  | nil => exact Nat.zero_le _
  | cons label labels ih =>
    cases labels with
    | nil => simp [labelsChars]
    | cons other more =>
      simp only [labelsChars, List.length_cons, List.length_append] at ih ⊢
      omega

/-- What is rendered for labels begins with the first name. -/
theorem exists_labelsChars_cons {label : String × String} (h : IsName label.1) (more : Labels) :
    ∃ c rest, labelsChars (label :: more) = c :: rest ∧ isNameStart c = true := by
  obtain ⟨c, others, hname, hc⟩ := exists_isNameStart h
  cases more with
  | nil => exact ⟨c, _, by rw [labelsChars, labelChars, hname]; rfl, hc⟩
  | cons other more => exact ⟨c, _, by rw [labelsChars, labelChars, hname]; rfl, hc⟩

/-- Labels are read up to the brace behind them. -/
theorem readLabels_append {labels : Labels} (h : Named labels) (rest : List Char) :
    readLabels (labelsChars labels ++ rest) = some (labels, rest) := by
  cases labels with
  | nil => rfl
  | cons label more =>
    obtain ⟨c, others, hchars, hc⟩ := exists_labelsChars_cons (h label List.mem_cons_self) more
    have hfuel : (label :: more).length ≤ (labelsChars (label :: more) ++ rest).length := by
      have := length_le_labelsChars (label :: more)
      rw [List.length_append]
      omega
    rw [← readLabelsFrom_append (List.cons_ne_nil label more) h hfuel rest, hchars,
      List.cons_append]
    unfold readLabels
    split
    · rename_i heq
      rw [(List.cons.inj heq).1] at hc
      exact absurd hc (by decide)
    · rfl

/-- A number is read back from its digits. -/
theorem readNumber_toString (n : Nat) : readNumber (toString n).toList = some n := by
  have hdigits : (Nat.toDigits 10 n).all Char.isDigit = true := by
    rw [List.all_eq_true]
    exact fun c hc => Nat.isDigit_of_mem_toDigits (by decide) (by decide) hc
  have hsome : (Nat.toDigits 10 n).isEmpty = false := by
    rw [List.isEmpty_eq_false_iff]
    exact Nat.toDigits_ne_nil
  rw [Nat.toString_eq_ofList_toDigits, String.toList_ofList, readNumber, hdigits, hsome]
  simp [Nat.ofDigitChars_ten_toDigits]

/-! ## Lines -/

/-- The line of a family. -/
def familyLine (name : String) : List Char := familyMark ++ name.toList ++ counterMark

/-- The line of a counter. -/
def counterLine (name : String) (labels : Labels) (value : Nat) : List Char :=
  name.toList ++ '\x7b' :: (labelsChars labels ++ ' ' :: (toString value).toList)

/-- The line of a family is read back. -/
theorem readLine_familyLine (h : IsName name) :
    readLine (familyLine name) = some (.family name) := by
  have hname : readName (name.toList ++ counterMark) = some (name, counterMark) :=
    readName_append h rfl
  rw [readLine, familyLine, List.append_assoc, List.take_left' rfl, if_pos rfl, List.drop_left' rfl,
    hname]
  rfl

/-- The line of a counter is read back, whatever the values of its labels are. -/
theorem readLine_counterLine (h : IsName name) {labels : Labels} (hlabels : Named labels)
    (value : Nat) :
    readLine (counterLine name labels value) = some (.counter name labels value) := by
  have hother : (counterLine name labels value).take familyMark.length ≠ familyMark := by
    obtain ⟨c, others, hname, hc⟩ := exists_isNameStart h
    rw [counterLine, hname]
    intro heq
    have hfirst : c = '#' := (List.cons.inj heq).1
    rw [hfirst] at hc
    exact absurd hc (by decide)
  have hname : readName (counterLine name labels value) =
      some (name, '\x7b' :: (labelsChars labels ++ ' ' :: (toString value).toList)) :=
    readName_append h rfl
  rw [readLine, if_neg hother, hname]
  simp only [readCounter, readLabels_append hlabels, readNumber_toString, Option.map_some]

/-- A name has no line feed in it. -/
theorem not_mem_name (h : IsName name) : '\n' ∉ name.toList := by
  intro hmem
  exact absurd (List.all_eq_true.1 h.2 _ hmem) (by decide)

/-- Labels have no line feed in them, whatever their values are. -/
theorem not_mem_labelsChars {labels : Labels} (h : Named labels) : '\n' ∉ labelsChars labels := by
  have hlabel {label : String × String} (hlabel : IsName label.1) : '\n' ∉ labelChars label := by
    rw [labelChars, List.mem_append, List.mem_cons, List.mem_cons, List.mem_append]
    simpa [not_mem_name hlabel] using not_mem_escape label.2.toList
  induction labels with
  | nil => decide
  | cons label labels ih =>
    obtain ⟨hfirst, hothers⟩ := List.forall_mem_cons.1 h
    cases labels with
    | nil => simp [labelsChars, hlabel hfirst]
    | cons other more => simp [labelsChars, hlabel hfirst, ih hothers]

/-- A number has no line feed in it. -/
theorem not_mem_toString (n : Nat) : '\n' ∉ (toString n).toList := by
  rw [Nat.toString_eq_ofList_toDigits, String.toList_ofList]
  intro hmem
  exact absurd (Nat.isDigit_of_mem_toDigits (by decide) (by decide) hmem) (by decide)

/-- Lines are told apart by the line feeds behind them. -/
theorem splitLines_flatMap {lines : List (List Char)} (h : ∀ line ∈ lines, '\n' ∉ line) :
    splitLines [] (lines.flatMap (· ++ ['\n'])) = some lines := by
  have hline (line : List Char) (hfeed : '\n' ∉ line) (begun rest : List Char) :
      splitLines begun (line ++ '\n' :: rest) =
        (splitLines [] rest).map ((begun.reverse ++ line) :: ·) := by
    induction line generalizing begun with
    | nil => simp [splitLines]
    | cons c line ih =>
      obtain ⟨hc, hmore⟩ := not_or.1 (mt List.mem_cons.2 hfeed)
      rw [List.cons_append, splitLines, if_neg (Ne.symm hc), ih hmore]
      simp
  induction lines with
  | nil => rfl
  | cons line lines ih =>
    obtain ⟨hfirst, hothers⟩ := List.forall_mem_cons.1 h
    rw [List.flatMap_cons, List.append_assoc, List.singleton_append, hline line hfirst, ih hothers]
    rfl

end Exposition

open Exposition

/-! ## The text of metrics -/

namespace Counters

/-- The rows of a family in the order in which they are rendered. -/
def rendered (counters : Counters) : Counters :=
  counters.mergeSort fun a b => before (a.1.text, a.2) (b.1.text, b.2)

/-- All rows are rendered, and no others. -/
theorem perm_rendered (counters : Counters) : counters.rendered.Perm counters :=
  List.mergeSort_perm _ _

/-- What is rendered is a row. -/
theorem mem_rendered {counters : Counters} {row : Labels × UInt64} :
    row ∈ counters.rendered ↔ row ∈ counters := counters.perm_rendered.mem_iff

/-- The lines that are rendered for a family. -/
def lines (name : String) (counters : Counters) : List (List Char) :=
  familyLine name :: counters.rendered.map fun row => counterLine name row.1 row.2.toNat

/-- A family is rendered line by line. -/
theorem toList_render (name : String) (counters : Counters) :
    (counters.render name).toList = (lines name counters).flatMap (· ++ ['\n']) := by
  have hrows : (counters.map fun row => (row.1.text, row.2)).mergeSort before =
      counters.rendered.map fun row => (row.1.text, row.2) :=
    (List.map_mergeSort (f := fun row : Labels × UInt64 => (row.1.text, row.2))
      fun _ _ _ _ => rfl).symm
  have hrow (row : Labels × UInt64) :
      (name ++ "\x7b" ++ row.1.text ++ "\x7d " ++ toString row.2 ++ "\n").toList =
        counterLine name row.1 row.2.toNat ++ ['\n'] := by
    have hvalue : toString row.2 = toString row.2.toNat := rfl
    rw [counterLine, ← toList_text, hvalue]
    simp
  have hfamily : ("# TYPE " ++ name ++ " counter\n").toList = familyLine name ++ ['\n'] := by
    simp [familyLine, familyMark, counterMark]
  change ("# TYPE " ++ name ++ " counter\n" ++ String.join _).toList = _
  rw [String.toList_append, String.toList_join, hfamily, lines, List.flatMap_cons, hrows,
    List.map_map, List.flatMap_map, List.flatMap_map]
  congr 1
  refine List.flatMap_congr ?_
  intro row _
  exact hrow row

/-- No line of a family has a line feed in it. -/
theorem not_mem_lines {name : String} (hname : IsName name) {counters : Counters}
    (h : ∀ row ∈ counters, Named row.1) : ∀ line ∈ lines name counters, '\n' ∉ line := by
  intro line hline
  rcases List.mem_cons.1 hline with rfl | hline
  · simp [familyLine, familyMark, counterMark, not_mem_name hname]
  · obtain ⟨row, hrow, rfl⟩ := List.mem_map.1 hline
    have hlabels := not_mem_labelsChars (h row (mem_rendered.1 hrow))
    have hvalue := not_mem_toString row.2.toNat
    rw [counterLine, List.mem_append, List.mem_cons, List.mem_append, List.mem_cons]
    simp only [not_mem_name hname, hlabels, hvalue, or_false, false_or]
    decide

/-- The lines of a family are read as its name and its rows. -/
theorem mapM_readLine_lines {name : String} (hname : IsName name) {counters : Counters}
    (h : ∀ row ∈ counters, Named row.1) :
    (lines name counters).mapM readLine = some (.family name ::
      counters.rendered.map fun row => .counter name row.1 row.2.toNat) := by
  have hrows {rows : Counters} (hrows : ∀ row ∈ rows, Named row.1) :
      (rows.map fun row => counterLine name row.1 row.2.toNat).mapM readLine =
        some (rows.map fun row => .counter name row.1 row.2.toNat) := by
    induction rows with
    | nil => rfl
    | cons row rows ih =>
      obtain ⟨hrow, hmore⟩ := List.forall_mem_cons.1 hrows
      simp [List.mapM_cons, readLine_counterLine hname hrow, ih hmore]
  have hrendered := hrows fun row hrow => h row (mem_rendered.1 hrow)
  simp [lines, List.mapM_cons, readLine_familyLine hname, hrendered]

end Counters

namespace Metrics

/-- The families in the order in which they are rendered. -/
def families : List Family := [.frames, .bytes, .undecoded, .answers]

/-- Families have names. -/
theorem Family.isName_name (family : Family) : IsName family.name := by
  cases family <;> decide

/-- The rendered text of metrics is that of their families. -/
theorem toList_render (m : Metrics) :
    m.render.toList =
      (families.flatMap fun f => (m.counters f).lines f.name).flatMap (· ++ ['\n']) := by
  simp only [render, String.toList_append, Counters.toList_render, families, List.flatMap_cons,
    List.flatMap_nil, List.flatMap_append, List.append_assoc, List.append_nil]
  rfl

/-- What is rendered is read back line by line, if all labels have names. -/
theorem readText_render {m : Metrics} (h : ∀ f, ∀ row ∈ m.counters f, Named row.1) :
    readText m.render = some (families.flatMap fun f => .family f.name ::
      (m.counters f).rendered.map fun row => .counter f.name row.1 row.2.toNat) := by
  have hfeeds : ∀ line ∈ families.flatMap fun f => (m.counters f).lines f.name, '\n' ∉ line := by
    intro line hline
    obtain ⟨f, -, hline⟩ := List.mem_flatMap.1 hline
    exact Counters.not_mem_lines f.isName_name (h f) line hline
  have hlines (f : Family) := Counters.mapM_readLine_lines f.isName_name (h f)
  rw [readText, toList_render, splitLines_flatMap hfeeds]
  simp [families, List.mapM_append, hlines]

variable {calls : List Call}

/-- If all labels of calls have names, then all labels of the rows have. -/
theorem named_rows (h : ∀ c ∈ calls, Named c.labels) (family : Family) :
    ∀ row ∈ (after calls).counters family, Named row.1 := by
  intro row hrow label hlabel
  obtain ⟨⟨c, hc, -, hcanonical⟩, -⟩ := (mem_after_iff calls family row.1 row.2).1 hrow
  rw [← hcanonical] at hlabel
  exact h c hc label ((List.mergeSort_perm c.labels Labels.before).mem_iff.1 hlabel)

/-- Labels that are rendered to the same text, in their canonical order, are the same set. -/
theorem perm_of_text_eq {first second : Labels} (hfirst : Named first) (hsecond : Named second)
    (h : first.canonical.text = second.canonical.text) : first.Perm second := by
  have hnamed {labels : Labels} (hlabels : Named labels) : Named labels.canonical :=
    fun label hlabel =>
      hlabels label ((List.mergeSort_perm labels Labels.before).mem_iff.1 hlabel)
  have hread := readLabels_append (hnamed hfirst) []
  rw [← toList_text, h, toList_text, readLabels_append (hnamed hsecond) []] at hread
  exact (Labels.canonical_eq_iff _ _).1 (Prod.mk.inj (Option.some.inj hread)).1.symm

/-- Counters are a faithful account of what was added to them, whatever the labels are.

A counter holds the sum of what was added under its labels in any order, modulo the number of words.
If labels have names, reading the rendered text line by line gives back the four families and, for
each set of labels that was touched in a family, one line with this sum, and no other line;
different sets of labels are never rendered alike. And the text does not depend on the order of the
additions. -/
theorem rendered_account :
    (∀ (calls : List Call) (family : Family) (labels : Labels),
      (((after calls).counters family).get labels).toNat = total calls family labels % 2 ^ 64) ∧
    (∀ calls : List Call, (∀ c ∈ calls, Named c.labels) →
      ∃ rows : Family → List (Labels × Nat),
        readText (after calls).render = some (families.flatMap fun f => .family f.name ::
          (rows f).map fun row => .counter f.name row.1 row.2) ∧
        ∀ f, (rows f).Pairwise (fun a b => ¬a.1.Perm b.1) ∧
          (∀ c ∈ calls, c.family = f → ∃ row ∈ rows f, row.1.Perm c.labels) ∧
          ∀ row ∈ rows f, (∃ c ∈ calls, c.family = f ∧ c.labels.Perm row.1) ∧
            row.2 = total calls f row.1 % 2 ^ 64) ∧
    (∀ first second : Labels, Named first → Named second →
      first.canonical.text = second.canonical.text → first.Perm second) ∧
    ∀ calls others : List Call, calls.Perm others →
      (after calls).render = (after others).render := by
  refine ⟨get_after, ?_, fun _ _ => perm_of_text_eq, fun _ _ => render_of_perm⟩
  intro calls hnamed
  refine ⟨fun f => ((after calls).counters f).rendered.map fun row => (row.1, row.2.toNat), ?_, ?_⟩
  · simp only [readText_render (named_rows hnamed), List.map_map, Function.comp_def]
  · intro f
    have hperm := ((after calls).counters f).perm_rendered
    refine ⟨?_, ?_, ?_⟩
    · have hdifferent := (hperm.pairwise_iff fun hab hba => hab hba.symm).2 (pairwise_after calls f)
      exact List.pairwise_map.2 hdifferent
    · intro c hc hfamily
      have htouched := (mem_rows_after calls f c.labels.canonical).2 ⟨c, hc, hfamily, rfl⟩
      obtain ⟨row, hrow, hlabels⟩ := List.mem_map.1 htouched
      refine ⟨_, List.mem_map_of_mem (Counters.mem_rendered.2 hrow), ?_⟩
      exact hlabels ▸ List.mergeSort_perm c.labels Labels.before
    · intro row hmem
      obtain ⟨⟨labels, value⟩, hrow, rfl⟩ := List.mem_map.1 hmem
      obtain ⟨⟨c, hc, hfamily, hcanonical⟩, hvalue⟩ :=
        (mem_after_iff calls f labels value).1 (Counters.mem_rendered.1 hrow)
      have hsorted := (List.mergeSort_perm c.labels Labels.before).symm
      exact ⟨⟨c, hc, hfamily, hcanonical ▸ hsorted⟩, hvalue⟩

/-- Labels whose values look like the end of a row and the beginning of another are counted together
in either order, past the greatest word, and are read back as one row with nothing counted. -/
theorem rendered_account_forged_row :
    let labels : Labels := [("dir", "in\"\x7d 7\nx\x7b"), ("kind", "\\\",")]
    let calls : List Call :=
      [⟨.frames, labels, 1⟩, ⟨.frames, labels.reverse, 18446744073709551615⟩]
    (∀ c ∈ calls, Named c.labels) ∧
      ∃ rows : Family → List (Labels × Nat),
        readText (after calls).render = some (families.flatMap fun f => .family f.name ::
          (rows f).map fun row => .counter f.name row.1 row.2) ∧
        ∃ row ∈ rows .frames, row.1.Perm labels ∧ row.2 = 0 := by
  intro labels calls
  have hnamed : ∀ c ∈ calls, Named c.labels := by decide
  obtain ⟨rows, hread, hrows⟩ := rendered_account.2.1 calls hnamed
  obtain ⟨-, htouched, hvalue⟩ := hrows .frames
  obtain ⟨row, hrow, hperm⟩ := htouched ⟨.frames, labels, 1⟩ List.mem_cons_self rfl
  refine ⟨hnamed, rows, hread, row, hrow, hperm, ?_⟩
  have hsame : total calls .frames row.1 = total calls .frames labels := by
    simp only [total, hperm.congr_right]
  rw [(hvalue row hrow).2, hsame]
  decide

end Metrics

end Courier
