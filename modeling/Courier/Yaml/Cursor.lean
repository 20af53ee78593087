import Courier.Yaml.Fault

/-!
# Going through a YAML text

A cursor is the text that is left together with its place. Five characters break lines, and a
carriage return with a line feed behind it breaks a line once. Where a line break counts as text
it reads as a line feed, except for the two Unicode separators, which stay what they are.

Looking beyond the end gives the character NUL, which no text contains. A text can also be cut off
in front of characters that cannot be read; then it is an error to look beyond its end.
-/

namespace Courier.Yaml

/-! ## Classes of characters -/

/-- A space or a tab. -/
def isBlank (c : Char) : Bool := c = ' ' || c = '\t'

/-- A character that breaks a line. -/
def isBreak (c : Char) : Bool :=
  c = '\r' || c = '\n' || c = '\u0085' || c = '\u2028' || c = '\u2029'

/-- The character that may start any line without being part of it. -/
def byteOrderMark : Char := '\uFEFF'

/-- What looking beyond the end of the text gives. -/
def endMark : Char := '\x00'

/-- A line break or the end. -/
def isBreakOrEnd (c : Char) : Bool := isBreak c || c = endMark

/-- A blank, a line break or the end. -/
def isGapOrEnd (c : Char) : Bool := isBlank c || isBreakOrEnd c

/-- A character of a name. -/
def isNameChar (c : Char) : Bool := c.isAlphanum || c = '_' || c = '-'

/-- What a line break reads as. -/
def breakText (c : Char) : Char := if c = '\u2028' || c = '\u2029' then c else '\n'

/-! ## Cursors -/

/-- What is left of a text, and its place. -/
structure Cursor where
  rest : List Char
  /-- The number of characters of the whole text, which bounds the readers. -/
  size : Nat
  /-- Whether characters that cannot be read come behind `rest`. -/
  cut : Bool
  /-- The number of bytes in UTF-8 of the characters passed. -/
  index : Nat
  line : Nat
  column : Nat
deriving Repr

namespace Cursor

/-- The start of a text, which may be cut off. -/
def start (text : List Char) (cut : Bool) : Cursor := ⟨text, text.length, cut, 0, 0, 0⟩

/-- The place of a cursor. -/
def place (c : Cursor) : Place := ⟨c.line, c.column⟩

/-- A character further on. -/
def peek (c : Cursor) (ahead : Nat) : Char := c.rest.getD ahead endMark

/-- The next character. -/
def head (c : Cursor) : Char := c.rest.headD endMark

/-- The number of bytes in UTF-8 of the next characters. -/
def bytesAhead (c : Cursor) (count : Nat) : Nat :=
  (c.rest.take count).foldl (fun n x => n + x.utf8Size) 0

/-- Pass some characters of a line. -/
def skip (c : Cursor) (count : Nat) : Cursor :=
  { c with
    rest := c.rest.drop count, index := c.index + c.bytesAhead count, column := c.column + count }

/-- Pass characters of some class in a line. -/
def skipWhile (c : Cursor) (p : Char → Bool) : Cursor := c.skip (c.rest.takeWhile p).length

/-- Pass a line break. -/
def skipBreak (c : Cursor) : Cursor :=
  let count := if c.head = '\r' && c.peek 1 = '\n' then 2 else 1
  { c with
    rest := c.rest.drop count, index := c.index + c.bytesAhead count
    line := c.line + 1, column := 0 }

/-- Pass the rest of a line but not its break, if it is a comment. -/
def skipComment (c : Cursor) : Cursor :=
  if c.head = '#' then c.skipWhile fun x => !isBreakOrEnd x else c

/-- Pass a byte order mark, if one starts a line. -/
def skipByteOrderMark (c : Cursor) : Cursor :=
  if c.column = 0 && c.head = byteOrderMark then c.skip 1 else c

/-- Pass a line break, if there is one. -/
def skipOptionalBreak (c : Cursor) : Cursor := if isBreak c.head then c.skipBreak else c

/-- Stop at the cursor. -/
def stop {α : Type} (c : Cursor) (what : Malformed) : Except Flaw α := .error ⟨what, c.place⟩

/-- Demand that so many characters, or the end of the text, can be looked at. -/
def reach (c : Cursor) (count : Nat) : Except Flaw Unit :=
  if c.cut && (c.rest.take count).length < count then c.stop .characterNotAllowed else .ok ()

/-- Whether a line with three given characters in front separates documents. -/
def atMark (c : Cursor) (mark : Char) : Bool :=
  c.column = 0 && c.head = mark && c.peek 1 = mark && c.peek 2 = mark && isGapOrEnd (c.peek 3)

/-- Whether a document starts or ends here. -/
def atDocumentMark (c : Cursor) : Bool := c.atMark '-' || c.atMark '.'

end Cursor

end Courier.Yaml
