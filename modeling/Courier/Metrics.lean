import Courier.TextMap

/-!
# Metrics

What a client counts: families of counters, in which every set of labels has a counter of its
own. Two lists of labels that differ only in order are one set. Counters hold sixty-four bits and
wrap around. The metrics are rendered in the text format that monitoring systems collect, with
one line for each counter and the lines in ascending order.
-/

namespace Courier

/-! ## Labels -/

/-- Names and values that tell the counters of a family apart. -/
abbrev Labels := List (String × String)

namespace Labels

/-- The order of labels: by name, then by value. -/
def before (a b : String × String) : Bool := a.1 < b.1 || (a.1 == b.1 && a.2 ≤ b.2)

/-- The labels in ascending order, which is the same for every order they are given in. -/
def canonical (labels : Labels) : Labels := labels.mergeSort before

/-- Only the same single label has the canonical form of a single label. -/
@[simp] theorem canonical_eq_singleton_iff (labels : Labels) (label : String × String) :
    labels.canonical = [label] ↔ labels = [label] := by
  rw [canonical]
  constructor
  · intro h
    have hperm := List.mergeSort_perm labels before
    rw [h] at hperm
    exact List.perm_singleton.1 hperm.symm
  · rintro rfl
    exact List.mergeSort_singleton label

/-- A single label is in order. -/
@[simp] theorem canonical_singleton (label : String × String) :
    Labels.canonical [label] = [label] :=
  (canonical_eq_singleton_iff _ _).2 rfl

/-- Some characters in place of every occurrence of another one. -/
def replaceChar (old : Char) (new chars : List Char) : List Char :=
  chars.flatMap fun c => if c = old then new else [c]

/-- A value on one line and without a bare quote. Backslashes are replaced first, so those that are
put in front of quotes and in place of line feeds stay single. -/
def escape (value : String) : String :=
  let backslashes := replaceChar '\\' ['\\', '\\'] value.toList
  let quotes := replaceChar '"' ['\\', '"'] backslashes
  String.ofList (replaceChar '\n' ['\\', 'n'] quotes)

/-- The characters that stand for one character of a value. -/
def escapeChar (c : Char) : List Char :=
  if c = '\\' then ['\\', '\\']
  else if c = '"' then ['\\', '"']
  else if c = '\n' then ['\\', 'n']
  else [c]

/-- In this order no replacement meets what another one has put there, so together they replace
character by character. -/
theorem toList_escape (value : String) :
    (escape value).toList = value.toList.flatMap escapeChar := by
  simp only [escape, replaceChar, String.toList_ofList, List.flatMap_assoc]
  refine congrArg (List.flatMap · value.toList) (funext fun c => ?_)
  by_cases hbackslash : c = '\\'
  · subst hbackslash
    decide
  · by_cases hquote : c = '"'
    · subst hquote
      decide
    · by_cases hfeed : c = '\n'
      · subst hfeed
        decide
      · simp [escapeChar, hbackslash, hquote, hfeed]

/-- Labels as they are rendered. -/
def text (labels : Labels) : String :=
  String.intercalate "," (labels.map fun (name, value) => name ++ "=\"" ++ escape value ++ "\"")

end Labels

/-! ## Counters -/

/-- The counters of one family, each under its labels in canonical order. -/
abbrev Counters := List (Labels × UInt64)

namespace Counters

/-- Count some more under labels in canonical order, from zero where nothing was counted yet. -/
def addRow (labels : Labels) (amount : UInt64) : Counters → Counters
  | [] => [(labels, amount)]
  | (row, value) :: rest =>
    if row = labels then (row, value + amount) :: rest
    else (row, value) :: addRow labels amount rest

/-- Count some more under labels. -/
def add (counters : Counters) (labels : Labels) (amount : UInt64) : Counters :=
  addRow labels.canonical amount counters

/-- What was counted under exactly these labels. -/
def get (counters : Counters) (labels : Labels) : UInt64 :=
  ((counters.find? fun row => row.1 = labels.canonical).map Prod.snd).getD 0

/-- What was counted under labels, after an addition. -/
theorem get_add (counters : Counters) (labels other : Labels) (amount : UInt64) :
    (counters.add labels amount).get other =
      if labels.canonical = other.canonical then counters.get other + amount
      else counters.get other := by
  simp only [add, get]
  induction counters with
  | nil => by_cases h : labels.canonical = other.canonical <;> simp [addRow, h]
  | cons row rest ih =>
    obtain ⟨row, value⟩ := row
    simp only [addRow]
    by_cases hrow : row = labels.canonical <;> by_cases h : labels.canonical = other.canonical <;>
      by_cases hother : row = other.canonical <;> simp_all

/-- Counting under some labels adds to what was counted under them. -/
@[simp] theorem get_add_self (counters : Counters) (labels : Labels) (amount : UInt64) :
    (counters.add labels amount).get labels = counters.get labels + amount := by
  rw [get_add, if_pos rfl]

/-- Counting under a single label changes the counter under this label alone. -/
@[simp] theorem get_add_singleton (counters : Counters) (label other : String × String)
    (amount : UInt64) : (counters.add [label] amount).get [other] =
      if label = other then counters.get [other] + amount else counters.get [other] := by
  simp only [get_add, Labels.canonical_singleton, List.cons.injEq, and_true]

/-- The order of rendered lines: by labels, then by value. -/
def before (a b : String × UInt64) : Bool := a.1 < b.1 || (a.1 == b.1 && a.2 ≤ b.2)

/-- The family as it is rendered under a name. -/
def render (name : String) (counters : Counters) : String :=
  let rows := (counters.map fun (labels, value) => (labels.text, value)).mergeSort before
  let lines := rows.map fun (labels, value) => s!"{name}\x7b{labels}\x7d {value}\n"
  s!"# TYPE {name} counter\n" ++ String.join lines

end Counters

/-! ## The metrics of a client -/

/-- All that a client counts. -/
structure Metrics where
  /-- Frames that went in or out. -/
  frames : Counters
  /-- Bytes that went in or out. -/
  bytes : Counters
  /-- Frames that came in and could not be decoded, by the code of the failure. -/
  undecoded : Counters
  /-- Requests that were answered, by the subject of the answer. -/
  answers : Counters
deriving DecidableEq, Repr

namespace Metrics

/-- Nothing was counted. -/
def zero : Metrics := ⟨[], [], [], []⟩

/-- The label of what came in. -/
def inbound : Labels := [("dir", "in")]

/-- The label of what went out. -/
def outbound : Labels := [("dir", "out")]

/-- What comes in is counted under another label than what goes out. -/
@[simp] theorem get_outbound_add_inbound (counters : Counters) (amount : UInt64) :
    (counters.add inbound amount).get outbound = counters.get outbound := by
  rw [inbound, outbound, Counters.get_add_singleton, if_neg (by decide)]

/-- What goes out is counted under another label than what comes in. -/
@[simp] theorem get_inbound_add_outbound (counters : Counters) (amount : UInt64) :
    (counters.add outbound amount).get inbound = counters.get inbound := by
  rw [inbound, outbound, Counters.get_add_singleton, if_neg (by decide)]

/-- Count bytes that were read. -/
def countRead (metrics : Metrics) (length : Nat) : Metrics :=
  { metrics with bytes := metrics.bytes.add inbound length.toUInt64 }

/-- Count a frame that came in. -/
def countReceived (metrics : Metrics) : Metrics :=
  { metrics with frames := metrics.frames.add inbound 1 }

/-- Count a frame that could not be decoded. -/
def countUndecoded (metrics : Metrics) (code : String) : Metrics :=
  { metrics with undecoded := metrics.undecoded.add [("kind", code)] 1 }

/-- Count a frame of some bytes that went out. -/
def countSent (metrics : Metrics) (length : Nat) : Metrics :=
  { metrics with
    frames := metrics.frames.add outbound 1
    bytes := metrics.bytes.add outbound length.toUInt64 }

/-- Count an answer with some subject. -/
def countAnswer (metrics : Metrics) (subject : String) : Metrics :=
  { metrics with answers := metrics.answers.add [("outcome", subject)] 1 }

section

variable (metrics : Metrics) (length : Nat)

@[simp] theorem frames_countRead : (metrics.countRead length).frames = metrics.frames := rfl

@[simp] theorem bytes_countRead : (metrics.countRead length).bytes =
    metrics.bytes.add inbound length.toUInt64 := rfl

@[simp] theorem undecoded_countRead :
    (metrics.countRead length).undecoded = metrics.undecoded := rfl

@[simp] theorem frames_countReceived :
    metrics.countReceived.frames = metrics.frames.add inbound 1 := rfl

@[simp] theorem bytes_countReceived : metrics.countReceived.bytes = metrics.bytes := rfl

@[simp] theorem undecoded_countReceived :
    metrics.countReceived.undecoded = metrics.undecoded := rfl

@[simp] theorem frames_countUndecoded (code : String) :
    (metrics.countUndecoded code).frames = metrics.frames := rfl

@[simp] theorem bytes_countUndecoded (code : String) :
    (metrics.countUndecoded code).bytes = metrics.bytes := rfl

@[simp] theorem undecoded_countUndecoded (code : String) : (metrics.countUndecoded code).undecoded =
    metrics.undecoded.add [("kind", code)] 1 := rfl

@[simp] theorem frames_countSent :
    (metrics.countSent length).frames = metrics.frames.add outbound 1 := rfl

@[simp] theorem bytes_countSent : (metrics.countSent length).bytes =
    metrics.bytes.add outbound length.toUInt64 := rfl

@[simp] theorem undecoded_countSent :
    (metrics.countSent length).undecoded = metrics.undecoded := rfl

@[simp] theorem answers_countSent : (metrics.countSent length).answers = metrics.answers := rfl

@[simp] theorem answers_countAnswer (subject : String) : (metrics.countAnswer subject).answers =
    metrics.answers.add [("outcome", subject)] 1 := rfl

end

/-- All families as text. -/
def render (metrics : Metrics) : String :=
  metrics.frames.render "pathlink_frames_total" ++ metrics.bytes.render "pathlink_bytes_total" ++
    metrics.undecoded.render "pathlink_decode_errors_total" ++
    metrics.answers.render "pathlink_dispatch_total"

end Metrics

end Courier
