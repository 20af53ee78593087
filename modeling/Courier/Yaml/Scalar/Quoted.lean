import Courier.Yaml.Gap

/-!
# Quoted scalars

Between single quotes only the quote itself is special, and is written twice. Between double
quotes a backslash starts an escape: for a special character, for a code point in hexadecimal, or
for a line end that does not count. Gaps with line ends in them are folded.
-/

namespace Courier.Yaml.Quoted

/-- The character of an escape with one character. -/
def escaped? : Char → Option Char
  | '0' => some '\x00'
  | 'a' => some '\x07'
  | 'b' => some '\x08'
  | 't' => some '\t'
  | '\t' => some '\t'
  | 'n' => some '\n'
  | 'v' => some '\x0b'
  | 'f' => some '\x0c'
  | 'r' => some '\r'
  | 'e' => some '\x1b'
  | ' ' => some ' '
  | '"' => some '"'
  | '/' => some '/'
  | '\\' => some '\\'
  | 'N' => some '\u0085'
  | '_' => some '\u00a0'
  | 'L' => some '\u2028'
  | 'P' => some '\u2029'
  | _ => none

/-- The number of hexadecimal digits of an escape with a code point. -/
def digitCount? : Char → Option Nat
  | 'x' => some 2
  | 'u' => some 4
  | 'U' => some 8
  | _ => none

/-- The value of a hexadecimal digit. -/
def hexValue? (c : Char) : Option Nat :=
  if '0' ≤ c ∧ c ≤ '9' then some (c.toNat - 48)
  else if 'a' ≤ c ∧ c ≤ 'f' then some (c.toNat - 87)
  else if 'A' ≤ c ∧ c ≤ 'F' then some (c.toNat - 55)
  else none

/-- The value of hexadecimal digits behind a number. -/
def hexNumber? (number : Nat) : List Char → Option Nat
  | [] => some number
  | c :: rest =>
    match hexValue? c with
    | none => none
    | some digit => hexNumber? (number * 16 + digit) rest

/-- Read an escape behind its backslash. -/
def readEscape (c : Cursor) : Except Flaw (Char × Cursor) :=
  match escaped? c.head, digitCount? c.head with
  | some x, _ => .ok (x, c.skip 1)
  | none, none => c.stop .unknownEscape
  | none, some count =>
    let digits := (c.rest.drop 1).take count
    if digits.length < count then c.stop .escapeDigits
    else
      match hexNumber? 0 digits with
      | none => c.stop .escapeDigits
      | some number =>
        if number.isValidChar then .ok (Char.ofNat number, c.skip (count + 1))
        else c.stop .escapeCodePoint

/-- Read up to the next quote or gap: the text, and whether it ends in an escaped line end. -/
def readSegment (single : Bool) : Nat → Cursor → Except Flaw (List Char × Bool × Cursor)
  | 0, c => .ok ([], false, c)
  | fuel + 1, c =>
    let goOn (x : Char) (c : Cursor) : Except Flaw (List Char × Bool × Cursor) :=
      match readSegment single fuel c with
      | .error flaw => .error flaw
      | .ok (more, broken, c) => .ok (x :: more, broken, c)
    if isGapOrEnd c.head then .ok ([], false, c)
    else if single then
      if c.head = '\'' then
        if c.peek 1 = '\'' then goOn '\'' (c.skip 2) else .ok ([], false, c)
      else goOn c.head (c.skip 1)
    else if c.head = '"' then .ok ([], false, c)
    else if c.head = '\\' then
      if isBreak (c.peek 1) then .ok ([], true, (c.skip 1).skipBreak)
      else
        match readEscape (c.skip 1) with
        | .error flaw => .error flaw
        | .ok (x, c) => goOn x c
    else goOn c.head (c.skip 1)

/-- Read segments and the gaps between them up to the closing quote. -/
def readSegments (single : Bool) : Nat → Cursor → Except Flaw (List Char × Cursor)
  | 0, c => c.stop .scalarWithoutEnd
  | fuel + 1, c => do
    c.reach 4
    if c.atDocumentMark then c.stop .scalarAcrossDocuments
    else if c.rest.isEmpty then c.stop .scalarWithoutEnd
    else
      let (segment, broken, c) ← readSegment single c.size c
      c.reach (if broken then 1 else 2)
      if c.head = (if single then '\'' else '"') then return (segment, c.skip 1)
      else
        let (gap, c) ← if broken then Gap.readEscaped c else Gap.read 0 c
        let (more, c) ← readSegments single fuel c
        return (segment ++ gap.text ++ more, c)

/-- Read a quoted scalar from its opening quote on. -/
def read (single : Bool) (c : Cursor) : Except Flaw (List Char × Cursor) :=
  let c := c.skip 1
  readSegments single (c.size + 1) c

end Courier.Yaml.Quoted
