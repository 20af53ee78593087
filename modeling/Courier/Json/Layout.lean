import Courier.Json.Text
import Courier.Json.Number

/-!
# How values are laid out in a JSON text

The parts that all readers share: blanks, words, the commas between the items of a list and
between the members of an object, and the way past a value that nobody wants.

Items and members are read by the reader of one of them. The fuel of these loops is the number of
bytes in front of them, of which every round takes at least one.
-/

namespace Courier.Json

/-- The bytes that may stand between any two parts of a text. -/
def isBlankByte (b : UInt8) : Bool := b = 32 || b = 9 || b = 10 || b = 13

/-- What follows blanks. -/
def skipBlank (s : Bytes) : Bytes := s.dropWhile isBlankByte

/-- Read the letters of a word. -/
def readWord : Bytes → Bytes → Except Stop Bytes
  | [], s => .ok s
  | _ :: _, [] => stop .endOfValue []
  | letter :: letters, b :: rest =>
    if b = letter then readWord letters rest else stop .expectedWord rest

/-- The letters of `null` behind the first one. -/
def nullTail : Bytes := [117, 108, 108]

/-- The letters of `true` behind the first one. -/
def trueTail : Bytes := [114, 117, 101]

/-- The letters of `false` behind the first one. -/
def falseTail : Bytes := [97, 108, 115, 101]

/-- The brackets that are open around a place in a text. -/
inductive Bracket where
  | list
  | object
deriving DecidableEq, Repr

/-- Read the colon behind a key. -/
def readColon (s : Bytes) : Except Stop Bytes :=
  match skipBlank s with
  | [] => stop .endOfObject []
  | b :: rest => if b = 58 then .ok rest else stopAt .expectedColon (b :: rest)

/-- Find the next item of a list: where it begins, or none if the list ends here. -/
def nextItem? (first : Bool) (s : Bytes) : Except Stop (Option Bytes) :=
  match skipBlank s with
  | [] => stop .endOfList []
  | b :: rest =>
    if b = 93 then .ok none
    else if first then .ok (some (b :: rest))
    else if b = 44 then
      match skipBlank rest with
      | [] => stop .endOfValue []
      | c :: more =>
        if c = 93 then stopAt .trailingComma (c :: more) else .ok (some (c :: more))
    else stopAt .expectedListEnd (b :: rest)

/-- Find the next member of an object: what follows its opening quote, or none. -/
def nextMember? (first : Bool) (s : Bytes) : Except Stop (Option Bytes) :=
  match skipBlank s with
  | [] => stop .endOfObject []
  | b :: rest =>
    if b = 125 then .ok none
    else if first then
      if b = quoteByte then .ok (some rest) else stopAt .keyNotText (b :: rest)
    else if b = 44 then
      match skipBlank rest with
      | [] => stop .endOfValue []
      | c :: more =>
        if c = quoteByte then .ok (some more)
        else if c = 125 then stopAt .trailingComma (c :: more)
        else stopAt .keyNotText (c :: more)
    else stopAt .expectedObjectEnd (b :: rest)

/-- Read the end of a list of which no more items are wanted. -/
def readListEnd (s : Bytes) : Except Stop Bytes :=
  match skipBlank s with
  | [] => stop .endOfList []
  | b :: rest =>
    if b = 93 then .ok rest
    else if b = 44 then
      match skipBlank rest with
      | 93 :: more => stopAt .trailingComma (93 :: more)
      | more => stopAt .trailingCharacters more
    else stopAt .trailingCharacters (b :: rest)

/-- The bytes behind the end of a list, if it ends here; otherwise those behind the blanks. -/
def pastListEnd (s : Bytes) : Bytes :=
  match skipBlank s with
  | 93 :: rest => rest
  | 44 :: rest => skipBlank rest
  | rest => rest

/-- The bytes behind the end of an object, if it ends here; otherwise those behind the blanks. -/
def pastObjectEnd (s : Bytes) : Bytes :=
  match skipBlank s with
  | 125 :: rest => rest
  | rest => rest

/-- Read the items of a list whose bracket has been read, up to and including its end. -/
def readItems {α : Type} (item : Bytes → Read α) (first : Bool) : Nat → Bytes → Read (List α)
  | 0, s => stop .endOfList s
  | fuel + 1, s =>
    match nextItem? first s with
    | .error e => .error e
    | .ok none => .ok ([], pastListEnd s)
    | .ok (some start) =>
      match item start with
      | .error e => .error e
      | .ok (a, rest) =>
        match readItems item false fuel rest with
        | .error e => .error e
        | .ok (more, rest) => .ok (a :: more, rest)

/--
Read the members of an object whose bracket has been read, up to and including its end. Each
member changes what has been read so far, from its key and the bytes behind the key.
-/
def readMembers {α : Type} (member : String → α → Bytes → Read α) (first : Bool) (sofar : α) :
    Nat → Bytes → Read α
  | 0, s => stop .endOfObject s
  | fuel + 1, s =>
    match nextMember? first s with
    | .error e => .error e
    | .ok none => .ok (sofar, pastObjectEnd s)
    | .ok (some start) =>
      match readText start with
      | .error e => .error e
      | .ok (key, rest) =>
        match member key sofar rest with
        | .error e => .error e
        | .ok (sofar, rest) => readMembers member false sofar fuel rest

/-- Read the value of a member behind its key, and put it with those read before. -/
def readMemberValue {α β : Type} (value : Bytes → Read α) (put : String → α → β → β)
    (key : String) (sofar : β) (s : Bytes) : Read β :=
  match readColon s with
  | .error e => .error e
  | .ok s =>
    match value s with
    | .error e => .error e
    | .ok (v, s) => .ok (put key v sofar, s)

/-- What can come next while values are passed over. -/
inductive Expectation where
  /-- A value. -/
  | value
  /-- The first item or member behind a bracket, or its end. -/
  | opened
  /-- A comma or the end, behind an item or member. -/
  | closed
deriving DecidableEq, Repr

/-- Pass over the key and colon of a member, if the innermost bracket is an object's. -/
def skipKey (inner : Bracket) (s : Bytes) : Except Stop Bytes :=
  match inner with
  | .list => .ok s
  | .object =>
    match skipBlank s with
    | [] => stop .endOfObject []
    | b :: rest =>
      if b ≠ quoteByte then stopAt .keyNotText (b :: rest)
      else
        match skipText rest with
        | .error e => .error e
        | .ok rest => readColon rest

/-- Pass over a value that is no list and no object. -/
def skipScalar (s : Bytes) : Except Stop Bytes :=
  match s with
  | [] => stop .endOfValue []
  | b :: rest =>
    if b = 110 then readWord nullTail rest
    else if b = 116 then readWord trueTail rest
    else if b = 102 then readWord falseTail rest
    else if startsNumber b then skipNumber (b :: rest)
    else if b = quoteByte then skipText rest
    else stopAt .expectedValue (b :: rest)

/-- The closing bracket. -/
def Bracket.closing : Bracket → UInt8
  | .list => 93
  | .object => 125

/-- The problem with a text that ends inside a bracket. -/
def Bracket.unended : Bracket → Malformed
  | .list => .endOfList
  | .object => .endOfObject

/-- The problem with what stands in place of a comma or of the closing bracket. -/
def Bracket.unclosed : Bracket → Malformed
  | .list => .expectedListEnd
  | .object => .expectedObjectEnd

/-- Pass over values until all the brackets are closed. -/
def skipNested : Nat → Expectation → List Bracket → Bytes → Except Stop Bytes
  | 0, _, _, s => stop .endOfValue s
  | fuel + 1, .value, brackets, s =>
    match skipBlank s with
    | 91 :: rest => skipNested fuel .opened (.list :: brackets) rest
    | 123 :: rest => skipNested fuel .opened (.object :: brackets) rest
    | s =>
      match skipScalar s with
      | .error e => .error e
      | .ok rest => skipNested fuel .closed brackets rest
  | _ + 1, .opened, [], s => .ok s
  | _ + 1, .closed, [], s => .ok s
  | fuel + 1, .opened, inner :: outer, s =>
    match skipBlank s with
    | [] => stop inner.unended []
    | b :: rest =>
      if b = inner.closing then skipNested fuel .closed outer rest
      else
        match skipKey inner (b :: rest) with
        | .error e => .error e
        | .ok rest => skipNested fuel .value (inner :: outer) rest
  | fuel + 1, .closed, inner :: outer, s =>
    match skipBlank s with
    | [] => stop inner.unended []
    | b :: rest =>
      if b = inner.closing then skipNested fuel .closed outer rest
      else if b = 44 then
        match skipKey inner rest with
        | .error e => .error e
        | .ok rest => skipNested fuel .value (inner :: outer) rest
      else stopAt inner.unclosed (b :: rest)

/-- Pass over a value that nobody wants, however deep it is. -/
def skipValue (s : Bytes) : Except Stop Bytes := skipNested (2 * s.length + 2) .value [] s

/-- Nothing but blanks may follow the value of a text. -/
def readTextEnd (s : Bytes) : Except Stop Unit :=
  match skipBlank s with
  | [] => .ok ()
  | b :: rest => stopAt .trailingCharacters (b :: rest)

/-- Read a whole text with the reader of its value. -/
def readWhole {α : Type} (value : Bytes → Read α) (text : Bytes) : Except Fault α :=
  match value text with
  | .error e => .error (e.locate text)
  | .ok (a, rest) =>
    match readTextEnd rest with
    | .error e => .error (e.locate text)
    | .ok () => .ok a

end Courier.Json
