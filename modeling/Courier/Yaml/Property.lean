import Courier.Yaml.Scalar.Quoted
import Courier.Yaml.Token

/-!
# Anchors, tags and directives

A node can have an anchor, by which aliases refer to it, and a tag, which says of what kind it
is. Tags are written with a handle, or verbatim between angle brackets; any of their bytes can be
escaped. Directives in front of a document state the version of YAML and declare handles.
-/

namespace Courier.Yaml

/-! ## Anchors and aliases -/

/-- Whether a character may stand behind the name of an anchor. -/
def endsAnchor (c : Char) : Bool :=
  isGapOrEnd c || c = '?' || c = ':' || c = ',' || c = ']' || c = '}' || c = '%' || c = '@'
    || c.toNat = 0x60

/-- Read the name of an anchor or alias behind its indicator. -/
def readAnchor (c : Cursor) : Except Flaw (String × Cursor) := do
  let name := c.rest.takeWhile isNameChar
  let after := c.skip name.length
  after.reach 1
  if name.isEmpty || !endsAnchor after.head then after.stop .anchorName
  else return (String.ofList name, after)

/-! ## Tags -/

/-- The characters of a tag, which are ASCII. -/
def isTagChar (verbatim : Bool) (c : Char) : Bool :=
  isNameChar c || [';', '/', '?', ':', '@', '&', '=', '+', '$', '.', '%', '!', '~', '*', '\'', '(',
    ')'].contains c || (verbatim && (c = ',' || c = '[' || c = ']'))

/-- How many bytes a character has in UTF-8 whose first byte is given, if it can be the first. -/
def byteCount? (lead : Nat) : Option Nat :=
  if lead < 0x80 then some 1
  else if 0xC0 ≤ lead ∧ lead < 0xE0 then some 2
  else if 0xE0 ≤ lead ∧ lead < 0xF0 then some 3
  else if 0xF0 ≤ lead ∧ lead < 0xF8 then some 4
  else none

/-- Read a byte that is written as a percent sign and two hexadecimal digits. -/
def readEscapedByte (c : Cursor) : Except Flaw (UInt8 × Cursor) :=
  match c.head, Quoted.hexValue? (c.peek 1), Quoted.hexValue? (c.peek 2) with
  | '%', some high, some low => .ok ((high * 16 + low).toUInt8, c.skip 3)
  | _, _, _ => c.stop .tagEscape

/-- Read the escaped bytes that continue a character. -/
def readContinuation : Nat → Cursor → Except Flaw (Bytes × Cursor)
  | 0, c => .ok ([], c)
  | count + 1, c => do
    let (byte, c) ← readEscapedByte c
    if Text.Utf8.isContinuation byte then
      let (more, c) ← readContinuation count c
      return (byte :: more, c)
    else c.stop .tagEscape

/-- Read a character whose bytes are escaped; it need not be well formed. -/
def readEscapedChar (c : Cursor) : Except Flaw (Bytes × Cursor) := do
  let (lead, c) ← readEscapedByte c
  match byteCount? lead.toNat with
  | none => c.stop .tagEscape
  | some count =>
    let (more, c) ← readContinuation (count - 1) c
    return (lead :: more, c)

/-- Read the characters of a tag. -/
def readTagChars (verbatim : Bool) : Nat → Cursor → Except Flaw (Bytes × Cursor)
  | 0, c => .ok ([], c)
  | fuel + 1, c =>
    if c.head = '%' then do
      let (bytes, c) ← readEscapedChar c
      let (more, c) ← readTagChars verbatim fuel c
      return (bytes ++ more, c)
    else if isTagChar verbatim c.head then do
      let (more, c') ← readTagChars verbatim fuel (c.skip 1)
      return (c.head.toUInt8 :: more, c')
    else .ok ([], c)

/-- Read a tag or a part of one, for which something must be written. -/
def readTagText (verbatim : Bool) (c : Cursor) : Except Flaw (Tag × Cursor) := do
  let (bytes, after) ← readTagChars verbatim c.size c
  if bytes.isEmpty then after.stop .tagText else return (Tag.ofWritten bytes, after)

/-- Read a handle, whose closing exclamation mark may be missing. -/
def readTagHandle (c : Cursor) : Except Flaw (List Char × Cursor) :=
  if c.head ≠ '!' then c.stop .tagHandle
  else
    let name := (c.rest.drop 1).takeWhile isNameChar
    let after := c.skip (name.length + 1)
    if after.head = '!' then .ok ('!' :: name ++ ['!'], after.skip 1)
    else .ok ('!' :: name, after)

/-- Read a tag that is not verbatim: its handle and what follows it. -/
def readShortTag (c : Cursor) : Except Flaw (String × Tag × Cursor) := do
  let (handle, c) ← readTagHandle c
  if 1 < handle.length && handle.getLast? = some '!' then
    let (suffix, c) ← readTagText false c
    return (String.ofList handle, suffix, c)
  else
    let (more, c) ← readTagChars false c.size c
    let suffix := Tag.ofWritten ((handle.drop 1).map Char.toUInt8 ++ more)
    if suffix.bytes.isEmpty then return ("", Tag.mark, c) else return ("!", suffix, c)

/-- Read a tag from its exclamation mark on. -/
def readTag (flow : Bool) (c : Cursor) : Except Flaw (Token × Cursor) := do
  let (handle, suffix, c) ←
    if c.peek 1 = '<' then do
      let (suffix, c) ← readTagText true (c.skip 2)
      if c.head = '>' then pure ("", suffix, c.skip 1) else c.stop .tagEnd
    else readShortTag c
  c.reach 1
  if isGapOrEnd c.head || (flow && c.head = ',') then return (.tag handle suffix, c)
  else c.stop .tagEnd

/-! ## Directives -/

/-- Read a number of at most nine digits. -/
def readVersionNumber (c : Cursor) : Except Flaw (Nat × Cursor) :=
  let digits := c.rest.takeWhile Char.isDigit
  let after := c.skip digits.length
  if 9 < digits.length then after.stop .versionTooLong
  else if digits.isEmpty then after.stop .version
  else .ok (digits.foldl (fun n d => n * 10 + (d.toNat - 48)) 0, after)

/-- Read the version that a directive states. -/
def readVersion (c : Cursor) : Except Flaw (Token × Cursor) := do
  let (major, c) ← readVersionNumber (c.skipWhile isBlank)
  if c.head ≠ '.' then c.stop .version
  else
    let (minor, c) ← readVersionNumber (c.skip 1)
    return (.version major minor, c)

/-- Read the handle that a directive declares. -/
def readHandleDeclaration (c : Cursor) : Except Flaw (Token × Cursor) := do
  let (handle, c) ← readTagHandle (c.skipWhile isBlank)
  if 1 < handle.length && handle.getLast? ≠ some '!' then c.stop .tagHandle
  else if !isBlank c.head then c.stop .tagDirective
  else
    let (stem, c) ← readTagText true (c.skipWhile isBlank)
    if isGapOrEnd c.head then return (.tagHandle (String.ofList handle) stem, c)
    else c.stop .tagEnd

/-- Read a directive and the rest of its line. -/
def readDirective (c : Cursor) : Except Flaw (Token × Cursor) := do
  let name := (c.rest.drop 1).takeWhile isNameChar
  let c := c.skip (name.length + 1)
  if name.isEmpty || !isGapOrEnd c.head then c.stop .directiveName
  else
    let (token, c) ←
      if name = ['Y', 'A', 'M', 'L'] then readVersion c
      else if name = ['T', 'A', 'G'] then readHandleDeclaration c
      else c.stop .unknownDirective
    let c := (c.skipWhile isBlank).skipComment
    if isBreakOrEnd c.head then
      let c := c.skipOptionalBreak
      c.reach 1
      return (token, c)
    else c.stop .directiveEnd

end Courier.Yaml
